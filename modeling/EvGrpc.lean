import EvGrpc.Lib.Prog
import EvGrpc.Lib.System
import EvGrpc.Lib.Notes
import EvGrpc.Lib.Rely
import EvGrpc.Lib.Calendar
import EvGrpc.Lib.Numeric
import EvGrpc.Lib.Relational
import EvGrpc.Grpc
import EvGrpc.Db.Types
import EvGrpc.Lib.Decimal
import EvGrpc.Lib.Digits
import EvGrpc.Lib.History
import EvGrpc.Lib.Bounded
import EvGrpc.Lib.Answered
import EvGrpc.Lib.Given
import EvGrpc.Lib.Keyed
import EvGrpc.Lib.Formats
import EvGrpc.Db.Schema
import EvGrpc.Db.Write
import EvGrpc.Proto
import EvGrpc.Util.Timestamp
import EvGrpc.Util.TimestampText
import EvGrpc.Util.TimestampGrammar
import EvGrpc.Util.PageToken
import EvGrpc.Util.Args
import EvGrpc.Db.Report
import EvGrpc.Rpc.Op
import EvGrpc.Rpc.Machine
import EvGrpc.Rpc.Session
import EvGrpc.Services.Listing
import EvGrpc.Services.Vehicle
import EvGrpc.Services.Consumption
import EvGrpc.Services.Charging
import EvGrpc.Services.Display
import EvGrpc.Server
import EvGrpc.Discipline
import EvGrpc.Pool
import EvGrpc.Invariant.Charging
import EvGrpc.Services.Answers
import EvGrpc.Invariant.Consumption
import EvGrpc.Reports.Charging
import EvGrpc.Reports.Breakdown
import EvGrpc.Reports.Period
import EvGrpc.Reports.PerVehicle
import EvGrpc.Reports.Temperature
import EvGrpc.Reports.Calendar
import EvGrpc.Lib.Paging
import EvGrpc.Lists.Walk
import EvGrpc.Lists.Vehicles
import EvGrpc.Lists.Filtered
import EvGrpc.Lists.OnePage
import EvGrpc.Rpc.Interference
import EvGrpc.Shapes
import EvGrpc.Atomicity
import EvGrpc.Audit
import EvGrpc.Invariant.Vehicle
import EvGrpc.Auth.JwksCache
import EvGrpc.Auth.Refreshes
import EvGrpc.Auth.Authenticate
import EvGrpc.Auth.Verified
import EvGrpc.Auth.Refused
import EvGrpc.Auth.Rotation
import EvGrpc.Auth.Base64Url
import EvGrpc.Db.PgPool
import EvGrpc.Db.Migration
import EvGrpc.Invariant.Trip
import EvGrpc.Services.Written
import EvGrpc.Config.Loader
import EvGrpc.Config.Checks
import EvGrpc.Config.Integers
import EvGrpc.Config.DatabaseUrl
import EvGrpc.Config.Loaded
import EvGrpc.Config.Rules
import EvGrpc.Config.Report
import EvGrpc.Records.Times
import EvGrpc.Records.Agree
import EvGrpc.Records.DateText
import EvGrpc.Records.PurchaseDate
import EvGrpc.Records.Lookups
import EvGrpc.Reports.VehicleFilter
import EvGrpc.Reports.Legacy
import EvGrpc.Reports.OneState
import EvGrpc.Progress
import EvGrpc.Overflow
import EvGrpc.Serial.Moment
import EvGrpc.Serial.Order
import EvGrpc.Services.Exact
import EvGrpc.Store.Maps
import EvGrpc.Store.Meaning
import EvGrpc.Store.Linear
import EvGrpc.Store.Reads
import EvGrpc.Startup.Op
import EvGrpc.Startup.Discovery
import EvGrpc.Startup.Logging
import EvGrpc.Startup.Main
import EvGrpc.Startup.Exit
