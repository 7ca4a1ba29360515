import QtradeClient.Sdk.Types

/-!
# Service clients

Each client opens a channel to one service and makes unary calls on it.  A call is
given the answer that the service and the transport have for it; the deadline that a
client sets only bounds how long they may take, so it is part of that answer.
-/

namespace QtradeClient.Client

/-- The codes of a `grpc::Status` other than `OK`. -/
inductive StatusCode where
  | cancelled
  | unknown
  | invalidArgument
  | deadlineExceeded
  | notFound
  | alreadyExists
  | permissionDenied
  | resourceExhausted
  | failedPrecondition
  | aborted
  | outOfRange
  | unimplemented
  | internal
  | unavailable
  | dataLoss
  | unauthenticated
  deriving DecidableEq, Repr

/-- How a unary call ends: with the response that comes with `OK`, or with another
status. -/
abbrev Answer (ρ : Type) := Except StatusCode ρ

/-- The address part of `qtrade::common::config::ServiceConfig`. -/
structure ServiceConfig where
  enabled : Bool
  host : String
  port : Int
  deriving DecidableEq

namespace ServiceConfig

/-- The check that every client's `Init` makes on its options. -/
def hasEndpoint (config : ServiceConfig) : Bool := !(config.host = "" || config.port ≤ 0)

end ServiceConfig

/-- The state of an `AccountClient` or a `ConfigClient`. -/
structure ServiceClient where
  stub : Bool
  initialized : Bool
  stub_eq : stub = initialized

namespace ServiceClient

def create : ServiceClient := ⟨false, false, rfl⟩

def init (client : ServiceClient) (options : ServiceConfig) : ErrorCode × ServiceClient :=
  if client.initialized then (.kSystemError, client)
  else if options.hasEndpoint then (.kSuccess, ⟨true, true, rfl⟩)
  else (.kInternalError, client)

def isInitialized (client : ServiceClient) : Bool := client.initialized

def shutdown (_ : ServiceClient) : ServiceClient := ⟨false, false, rfl⟩

/-- A unary call; every status other than `OK` becomes one error code. -/
def call {ρ : Type} (client : ServiceClient) (answer : Answer ρ) : Except ErrorCode ρ :=
  if !client.initialized || !client.stub then .error .kNotInitialized
  else
    match answer with
    | .error _ => .error .kTimeout
    | .ok response => .ok response

section Initialized

variable {ρ : Type} {client : ServiceClient}

theorem call_ok (hup : client.isInitialized = true) (response : ρ) :
    client.call (.ok response) = .ok response := by
  have hstub : client.stub = true := client.stub_eq.trans hup
  have hinitialized : client.initialized = true := hup
  simp [call, hstub, hinitialized]

theorem call_error (hup : client.isInitialized = true) (status : StatusCode) :
    client.call (.error status : Answer ρ) = .error .kTimeout := by
  have hstub : client.stub = true := client.stub_eq.trans hup
  have hinitialized : client.initialized = true := hup
  simp [call, hstub, hinitialized]

end Initialized

end ServiceClient

abbrev AccountClient := ServiceClient

abbrev ConfigClient := ServiceClient

/-- An `AccountRiskClient` is initialised when it has a stub. -/
structure AccountRiskClient where
  stub : Bool
  deriving DecidableEq

namespace AccountRiskClient

def create : AccountRiskClient := ⟨false⟩

/-- A second `Init` and a bad endpoint give the same code here. -/
def init (client : AccountRiskClient) (options : ServiceConfig) :
    ErrorCode × AccountRiskClient :=
  if client.stub || !options.hasEndpoint then (.kInternalError, client)
  else (.kSuccess, ⟨true⟩)

def isInitialized (client : AccountRiskClient) : Bool := client.stub

def shutdown (_ : AccountRiskClient) : AccountRiskClient := ⟨false⟩

/-- `ReserveOrder`, `ReleaseOrder` and `ListActiveReservations` make one error code of every
status other than `OK`. -/
def call {ρ : Type} (client : AccountRiskClient) (answer : Answer ρ) : Except ErrorCode ρ :=
  if !client.isInitialized then .error .kNotInitialized
  else
    match answer with
    | .ok response => .ok response
    | .error _ => .error .kTimeout

/-- `GetAccountRiskPolicy` and `QueryReservation` keep `NOT_FOUND` apart from the other
statuses. -/
def callOrNotFound {ρ : Type} (client : AccountRiskClient) (answer : Answer ρ) :
    Except ErrorCode ρ :=
  if !client.isInitialized then .error .kNotInitialized
  else
    match answer with
    | .ok response => .ok response
    | .error status => .error (if status = .notFound then .kNotFound else .kTimeout)

section Initialized

variable {ρ : Type} {client : AccountRiskClient}

theorem callOrNotFound_ok (hup : client.isInitialized = true) (response : ρ) :
    client.callOrNotFound (.ok response) = .ok response := by
  simp [callOrNotFound, hup]

theorem callOrNotFound_error (hup : client.isInitialized = true) (status : StatusCode) :
    client.callOrNotFound (.error status : Answer ρ) =
      .error (if status = .notFound then .kNotFound else .kTimeout) := by
  simp [callOrNotFound, hup]

end Initialized

/-- No error of a call looks like a success. -/
theorem callOrNotFound_error_ne {ρ : Type} {client : AccountRiskClient} {answer : Answer ρ}
    {code : ErrorCode} (hcode : client.callOrNotFound answer = .error code) :
    code ≠ .kSuccess := by
  unfold callOrNotFound at hcode
  split at hcode
  · cases hcode
    decide
  · split at hcode
    · cases hcode
    · cases hcode
      split <;> decide

end AccountRiskClient

end QtradeClient.Client
