import Mathlib.Data.Nat.Notation

/-!
# Statuses and exceptions

The status an RPC returns, the exceptions a handler can catch, and the mapping
between them (`db/error.cc`).  An exception keeps the place in the libpqxx
hierarchy that the mapping looks at, and its `what()` text.
-/

namespace EvGrpc

/-- The gRPC status codes the server uses. -/
inductive StatusCode
  | OK
  | INVALID_ARGUMENT
  | NOT_FOUND
  | ALREADY_EXISTS
  | INTERNAL
  | UNAUTHENTICATED
  deriving DecidableEq, Repr

/-- The number of a status code, as `RpcScope` logs it. -/
def StatusCode.toNat : StatusCode → ℕ
  | .OK => 0
  | .INVALID_ARGUMENT => 3
  | .NOT_FOUND => 5
  | .ALREADY_EXISTS => 6
  | .INTERNAL => 13
  | .UNAUTHENTICATED => 16

/-- `grpc::Status`. -/
structure Status where
  code : StatusCode
  message : String
  deriving DecidableEq, Repr

namespace Status

/-- `grpc::Status::OK`. -/
def OK : Status := ⟨.OK, ""⟩

/-- `Status::ok()`. -/
def ok (s : Status) : Bool := s.code == .OK

@[simp] theorem ok_OK : OK.ok = true := rfl
@[simp] theorem ok_mk (c : StatusCode) (m : String) : (Status.mk c m).ok = (c == .OK) := rfl

end Status

/-- Where an exception sits in the hierarchy that `ToGrpcStatus` inspects. -/
inductive ExnKind
  /-- `pqxx::unique_violation` -/
  | uniqueViolation
  /-- `pqxx::foreign_key_violation` -/
  | foreignKeyViolation
  /-- `pqxx::data_exception`: SQLSTATE class 22 -/
  | dataException
  /-- `pqxx::not_null_violation` -/
  | notNullViolation
  /-- any other `pqxx::sql_error` -/
  | sqlError
  /-- any other `std::exception`: a broken connection, a failed conversion -/
  | other
  deriving DecidableEq, Repr

/-- An exception. -/
structure Exn where
  kind : ExnKind
  what : String
  deriving DecidableEq, Repr

/-- `ToGrpcStatus` -/
def toGrpcStatus (e : Exn) : Status :=
  match e.kind with
  | .uniqueViolation => ⟨.ALREADY_EXISTS, e.what⟩
  | .foreignKeyViolation => ⟨.INVALID_ARGUMENT, e.what⟩
  | .dataException => ⟨.INVALID_ARGUMENT, e.what⟩
  | .notNullViolation => ⟨.INVALID_ARGUMENT, e.what⟩
  | .sqlError => ⟨.INTERNAL, e.what⟩
  | .other => ⟨.INTERNAL, e.what⟩

/-- No exception is reported as success. -/
@[simp] theorem ok_toGrpcStatus (e : Exn) : (toGrpcStatus e).ok = false := by
  unfold toGrpcStatus
  cases e.kind <;> rfl

end EvGrpc
