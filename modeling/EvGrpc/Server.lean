import EvGrpc.Lib.History
import EvGrpc.Rpc.Session
import EvGrpc.Services.Display
import EvGrpc.Services.Vehicle

/-!
# The server

All RPCs of the six services, and the server as a system: any number of calls that
run their handlers on the machine, in any interleaving.
-/

namespace EvGrpc

open Lib

/-- A request to one of the thirty RPCs. -/
inductive Request
  | createVehicle (r : CreateVehicleRequest)
  | getVehicle (r : GetVehicleRequest)
  | updateVehicle (r : UpdateVehicleRequest)
  | deleteVehicle (r : DeleteVehicleRequest)
  | listVehicles (r : ListVehiclesRequest)
  | createWeather (r : CreateWeatherRequest)
  | searchWeather (r : SearchWeatherRequest)
  | createSourceCategory (r : CreateSourceCategoryRequest)
  | searchSourceCategory (r : SearchSourceCategoryRequest)
  | createConsumption (r : CreateConsumptionRequest)
  | getConsumption (r : GetConsumptionRequest)
  | updateConsumption (r : UpdateConsumptionRequest)
  | deleteConsumption (r : DeleteConsumptionRequest)
  | listConsumptions (r : ListConsumptionsRequest)
  | createCharging (r : CreateChargingRequest)
  | getCharging (r : GetChargingRequest)
  | updateCharging (r : UpdateChargingRequest)
  | deleteCharging (r : DeleteChargingRequest)
  | listChargings (r : ListChargingsRequest)
  | getVehicleCostSummary (r : WindowRequest)
  | getMonthlyReport (r : GetMonthlyReportRequest)
  | getAnnualReport (r : GetAnnualReportRequest)
  | getCostByChargerType (r : WindowRequest)
  | getCostBySourceCategory (r : WindowRequest)
  | getConsumptionEfficiency (r : WindowRequest)
  | getRangeAccuracy (r : WindowRequest)
  | getTemperatureConsumptionCorrelation (r : WindowRequest)
  | getDailyChargingReport (r : GetDailyChargingReportRequest)
  | getMonthlyChargingReport (r : GetMonthlyChargingReportRequest)
  | getAnnualChargingReport (r : GetAnnualChargingReportRequest)

/-- A response message. -/
inductive Response
  | empty
  | vehicle (m : Vehicle)
  | vehicles (m : ListVehiclesResponse)
  | weather (m : Weather)
  | weathers (m : List Weather)
  | sourceCategory (m : SourceCategory)
  | sourceCategories (m : List SourceCategory)
  | consumption (m : Consumption)
  | consumptions (m : ListConsumptionsResponse)
  | charging (m : Charging)
  | chargings (m : ListChargingsResponse)
  | vehicleCostSummary (m : VehicleCostSummary)
  | periodReport (m : PeriodReport)
  | chargerTypes (m : List ChargerTypeBreakdown)
  | sourceCategoryCosts (m : List SourceCategoryBreakdown)
  | efficiencies (m : List ConsumptionEfficiency)
  | accuracies (m : List RangeAccuracy)
  | buckets (m : List TemperatureBucket)
  | chargingReport (m : ChargingReport)
  deriving DecidableEq

/-- A call: the metadata it carries and its request. -/
structure Call where
  md : Metadata
  req : Request

/-- A reply with its message in the common type. -/
def Reply.wrap {ρ : Type} (f : ρ → Response) (r : Reply ρ) : Reply Response := (r.1, r.2.map f)

/-- A handler with its message in the common type. -/
def respond {ρ : Type} (f : ρ → Response) (p : Prog Op (Reply ρ)) : Prog Op (Reply Response) := do
  return Reply.wrap f (← p)

/-- The handler of a call, on a database with the collation `C`. -/
def handle (call : Call) : Prog Op (Reply Response) :=
  match call.req with
  | .createVehicle r => respond .vehicle (createVehicle call.md r)
  | .getVehicle r => respond .vehicle (getVehicle call.md r)
  | .updateVehicle r => respond .vehicle (updateVehicle call.md r)
  | .deleteVehicle r => respond (fun _ => .empty) (deleteVehicle call.md r)
  | .listVehicles r => respond .vehicles (listVehicles call.md r)
  | .createWeather r => respond .weather (createWeather call.md r)
  | .searchWeather r => respond .weathers (searchWeather .byCodePoint call.md r)
  | .createSourceCategory r => respond .sourceCategory (createSourceCategory call.md r)
  | .searchSourceCategory r => respond .sourceCategories (searchSourceCategory .byCodePoint call.md r)
  | .createConsumption r => respond .consumption (createConsumption call.md r)
  | .getConsumption r => respond .consumption (getConsumption call.md r)
  | .updateConsumption r => respond .consumption (updateConsumption call.md r)
  | .deleteConsumption r => respond (fun _ => .empty) (deleteConsumption call.md r)
  | .listConsumptions r => respond .consumptions (listConsumptions call.md r)
  | .createCharging r => respond .charging (createCharging call.md r)
  | .getCharging r => respond .charging (getCharging call.md r)
  | .updateCharging r => respond .charging (updateCharging call.md r)
  | .deleteCharging r => respond (fun _ => .empty) (deleteCharging call.md r)
  | .listChargings r => respond .chargings (listChargings call.md r)
  | .getVehicleCostSummary r => respond .vehicleCostSummary (getVehicleCostSummary call.md r)
  | .getMonthlyReport r => respond .periodReport (getMonthlyReport call.md r)
  | .getAnnualReport r => respond .periodReport (getAnnualReport call.md r)
  | .getCostByChargerType r => respond .chargerTypes (getCostByChargerType call.md r)
  | .getCostBySourceCategory r => respond .sourceCategoryCosts (getCostBySourceCategory call.md r)
  | .getConsumptionEfficiency r => respond .efficiencies (getConsumptionEfficiency call.md r)
  | .getRangeAccuracy r => respond .accuracies (getRangeAccuracy call.md r)
  | .getTemperatureConsumptionCorrelation r =>
      respond .buckets (getTemperatureConsumptionCorrelation call.md r)
  | .getDailyChargingReport r => respond .chargingReport (getDailyChargingReport call.md r)
  | .getMonthlyChargingReport r => respond .chargingReport (getMonthlyChargingReport call.md r)
  | .getAnnualChargingReport r => respond .chargingReport (getAnnualChargingReport call.md r)

/-! ## Runs -/

/-- A state of the server: the world, and the calls with what is left of their handlers. -/
abbrev Server := State Op Call World Local (Reply Response)

/-- A scheduler action of the server. -/
abbrev ServerAction := Action Call Choice

/-- One action of the server. -/
def Server.act (s : Server) (a : ServerAction) : Option Server :=
  State.act machine handle Local.fresh s a

/-- The server before the first call: `n` idle connections, the rows of `db`, and the
identifiers drawn so far. -/
def Server.start (db : Database) (n : ℕ) (issued : List Uuid) : Server :=
  ⟨World.start db n issued, []⟩

/-- The reply of a call that has returned. -/
def returned? {α : Type} : Prog Op α → Option α
  | .done a => some a
  | .op _ _ => none

theorem returned?_eq_some {α : Type} {p : Prog Op α} {a : α} (h : returned? p = some a) :
    p = .done a := by
  cases p with
  | done b =>
      cases h
      rfl
  | op o k => cases h

/-- The `i`-th call comes in and takes its first `k` steps, drawing `u` if it draws an
identifier. -/
def firstSteps (i : ℕ) (req : Request) (u : Uuid) (k : ℕ) : List ServerAction :=
  .spawn ⟨[], req⟩ :: List.replicate k (.step i { uuid := u })

/-- An identifier that differs from others of its kind in its first byte. -/
def someUuid (n : Fin 256) : Uuid := ⟨n :: List.replicate 15 0, by rfl⟩

/-- A vehicle to create. -/
def someVehicle (licensePlate : String) : CreateVehicleRequest :=
  ⟨"brand", 500, .fin 60, ⟨2024, 1, 1⟩, licensePlate⟩

/-- A database with a vehicle, a source category and a weather to refer to. -/
def stocked : Database :=
  ((Database.empty.insertVehicle ⟨someUuid 0, "brand", 500, .num 60, .ofDays 738885, "A"⟩
    (by simp [Database.empty]) (by simp [Database.empty])).insertSourceCategory
      ⟨someUuid 1, "home"⟩ (by simp [Database.empty, Database.insertVehicle])
      (by simp [Database.empty, Database.insertVehicle])).insertWeather ⟨someUuid 1, "sunny"⟩
    (by simp [Database.empty, Database.insertVehicle, Database.insertSourceCategory])
    (by simp [Database.empty, Database.insertVehicle, Database.insertSourceCategory])

/-- The same, with a charging that can be updated. -/
def chargedOnce : Database :=
  stocked.insertCharging
    ⟨someUuid 2, someUuid 0, 1700000000000000, 1700003600000000, 20, 80, 100, 100, .num 10, .num 10,
      .num 1, none, .fast, someUuid 1, none, none⟩ (by decide) (by decide) (by decide)

/-- Three vehicles in November and December 2023: two are charged, and all of them driven. -/
def fleet : Database :=
  (((((((((stocked.insertVehicle ⟨someUuid 2, "brand", 400, .num 50, .ofDays 738885, "B"⟩
    (by decide) (by decide)).insertVehicle ⟨someUuid 3, "brand", 300, .num 40, .ofDays 738885, "C"⟩
    (by decide) (by decide)).insertSourceCategory ⟨someUuid 2, "street"⟩
    (by decide) (by decide)).insertCharging
      ⟨someUuid 4, someUuid 0, 1700000000000000, 1700003600000000, 20, 80, 100, 100, .num 10,
        .num 10, .num 1, none, .fast, someUuid 1, none, none⟩
    (by decide) (by decide) (by decide)).insertCharging
      ⟨someUuid 5, someUuid 2, 1700900000000000, 1700907200000000, 10, 90, 50, 50, .num 20,
        .num 9, .num (9 / 20), none, .slow, someUuid 2, none, none⟩
    (by decide) (by decide) (by decide)).insertCharging
      ⟨someUuid 6, someUuid 0, 1702000000000000, 1702003600000000, 30, 70, 150, 150, .num 8,
        .num 7, .num (7 / 8), none, .slow, someUuid 2, none, none⟩
    (by decide) (by decide) (by decide)).insertConsumption
      ⟨someUuid 4, someUuid 0, 1700010000000000, 1700013600000000, 80, 60, 100, 150, 400, 320,
        .num 12, .num 4, someUuid 1, none⟩ (by decide) (by decide) (by decide)).insertConsumption
      ⟨someUuid 5, someUuid 2, 1700910000000000, 1700920000000000, 90, 50, 50, 170, 450, 330,
        .num 24, .num 16, someUuid 1, none⟩ (by decide) (by decide) (by decide)).insertConsumption
      ⟨someUuid 6, someUuid 0, 1702010000000000, 1702013600000000, 70, 55, 150, 180, 280, 235,
        .num 6, .num 2, someUuid 1, none⟩ (by decide) (by decide) (by decide)).insertConsumption
      ⟨someUuid 7, someUuid 3, 1702100000000000, 1702107200000000, 70, 40, 300, 360, 250, 160,
        .num (-2), .num (-8), someUuid 1, none⟩ (by decide) (by decide) (by decide)

/-- A state reached from `s₀` by actions that `Ok` admits. -/
def Server.Reached (Ok : Server → ServerAction → Prop) (s₀ s : Server) : Prop :=
  Reach Server.act Ok s₀ s

/-- What happened in a run of the server: its actions, with the states they were taken in. -/
abbrev Past := List (Server × ServerAction)

/-- A run of the server from its start. -/
def Server.Run (db : Database) (n : ℕ) (issued : List Uuid) (past : Past) (s : Server) : Prop :=
  Lib.Run (State.act machine handle Local.fresh) (Server.start db n issued) past s

end EvGrpc
