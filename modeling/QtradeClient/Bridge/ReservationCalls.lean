import QtradeClient.Bridge.Identity
import QtradeClient.Library.Remote

/-!
# Reserving and releasing through the bridge

`Reserve`, `Release`, `QueryReservation` and `ListActiveReservations` each make one request
to the service and keep nothing.  A request may be served although its call ends with an
error, so what the engine is told and what the service has done are two things: whatever
the engine is told the service has done for it, but not the other way round.
-/

namespace QtradeClient.Bridge

open Client Library

/-! ## Questions of the engine -/

/-- The side is an enumerator of the SDK, by its number. -/
structure Exposure where
  engineId : String
  strategyId : String
  instrumentId : String
  side : Int
  price : Float
  quantity : Int
  notional : Float
  margin : Float

structure ReserveRequest where
  accountId : String
  orderId : String
  expectedPolicyVersion : Int
  ttlMs : Int
  exposure : Exposure

inductive ReleaseReason where
  | kSendFailed
  | kRejectedByVenue
  | kCanceled
  | kSettled
  | kExpired
  | other (code : Int)
  deriving DecidableEq

structure ReleaseRequest where
  accountId : String
  orderId : String
  reason : ReleaseReason
  notional : Float
  margin : Float

/-! ## Messages -/

namespace Proto

structure OrderIntent where
  orderId : String
  engineId : String
  strategyId : String
  instrumentId : String
  side : String
  price : Float
  quantity : Int
  estimatedNotional : Float
  estimatedMargin : Float

structure ReserveOrderRequest where
  accountId : String
  riskConfigVersion : Int
  reservationTtlMs : Int
  intent : OrderIntent

/-- `ReserveOrderResponse::Decision`. -/
inductive Decision where
  | approved
  | rejected
  | other (code : Int)
  deriving DecidableEq

structure ReserveOrderResponse where
  decision : Decision
  rejectReason : String
  policyVersion : Int
  reservationId : String
  expiresAtUnixMs : Int

/-- `ReleaseOrderRequest::Reason`. -/
inductive Reason where
  | reasonUnspecified
  | emsEnqueueFailed
  | rejectedByVenue
  | canceled
  | settled
  | expired
  deriving DecidableEq

structure ReleaseOrderRequest where
  accountId : String
  orderId : String
  reason : Reason
  settledNotional : Float
  settledMargin : Float

structure ReleaseOrderResponse where
  released : Bool
  rejectReason : String

structure ListActiveReservationsRequest where
  accountId : String

structure ListActiveReservationsResponse where
  reservations : List Reservation

end Proto

def toProtoReleaseReason : ReleaseReason → Proto.Reason
  | .kSendFailed => .emsEnqueueFailed
  | .kRejectedByVenue => .rejectedByVenue
  | .kCanceled => .canceled
  | .kSettled => .settled
  | .kExpired => .expired
  | .other _ => .reasonUnspecified

/-- `ToReservationState` for the decision of the service. -/
def decidedState : Proto.Decision → ReservationState
  | .approved => .kReserved
  | .rejected => .kRejected
  | .other _ => .kUnspecified

def ReserveRequest.message (request : ReserveRequest) : Proto.ReserveOrderRequest where
  accountId := request.accountId
  riskConfigVersion := request.expectedPolicyVersion
  reservationTtlMs := request.ttlMs
  intent :=
    { orderId := request.orderId
      engineId := request.exposure.engineId
      strategyId := request.exposure.strategyId
      instrumentId := request.exposure.instrumentId
      side := toString request.exposure.side
      price := request.exposure.price
      quantity := request.exposure.quantity
      estimatedNotional := request.exposure.notional
      estimatedMargin := request.exposure.margin }

def ReleaseRequest.message (request : ReleaseRequest) : Proto.ReleaseOrderRequest where
  accountId := request.accountId
  orderId := request.orderId
  reason := toProtoReleaseReason request.reason
  settledNotional := request.notional
  settledMargin := request.margin

namespace Proto

def ReserveOrderResponse.converted (blank : Bridge.Reservation) (request : ReserveRequest)
    (response : ReserveOrderResponse) : Bridge.Reservation :=
  { blank with
    accountId := request.accountId
    orderId := request.orderId
    state := decidedState response.decision
    reason := response.rejectReason
    policyVersion := response.policyVersion
    reservationId := response.reservationId
    expiresAtUnixMs := response.expiresAtUnixMs }

/-- A refusal leaves the state of a default-constructed reservation. -/
def ReleaseOrderResponse.converted (blank : Bridge.Reservation) (request : ReleaseRequest)
    (response : ReleaseOrderResponse) : Bridge.Reservation :=
  { blank with
    accountId := request.accountId
    orderId := request.orderId
    state :=
      if response.released then
        if request.reason = .kSettled then .kSettled else .kReleased
      else blank.state
    reason := response.rejectReason }

def ListActiveReservationsResponse.converted (blank : Bridge.Reservation) (accountId : String)
    (response : ListActiveReservationsResponse) : List Bridge.Reservation :=
  response.reservations.map fun proto =>
    { toReservation blank proto with accountId := accountId }

end Proto

/-! ## The calls -/

/-- What a call makes of what the client returns. -/
def concluded {ρ ν : Type} (failure : String) (converted : ρ → ν) :
    Except ErrorCode ρ → Result ν
  | .ok response => .ok (converted response)
  | .error code => .error code failure

namespace GrpcAccountRiskBridge

variable (blank : Reservation) (bridge : GrpcAccountRiskBridge)

/-- Each call is given what the service would answer to its message. -/
def reserve (request : ReserveRequest)
    (answer : Proto.ReserveOrderRequest → Answer Proto.ReserveOrderResponse) :
    Result Reservation :=
  if bridge.client.isInitialized then
    concluded "ReserveOrder RPC failed" (Proto.ReserveOrderResponse.converted blank request)
      (bridge.client.call (answer request.message))
  else .error .kNotInitialized ""

def release (request : ReleaseRequest)
    (answer : Proto.ReleaseOrderRequest → Answer Proto.ReleaseOrderResponse) :
    Result Reservation :=
  if bridge.client.isInitialized then
    concluded "ReleaseOrder RPC failed" (Proto.ReleaseOrderResponse.converted blank request)
      (bridge.client.call (answer request.message))
  else .error .kNotInitialized ""

def listActiveReservations (accountId : String)
    (answer : Proto.ListActiveReservationsRequest →
      Answer Proto.ListActiveReservationsResponse) :
    Result (List Reservation) :=
  if bridge.client.isInitialized then
    concluded "ListActiveReservations RPC failed"
      (Proto.ListActiveReservationsResponse.converted blank accountId)
      (bridge.client.call (answer ⟨accountId⟩))
  else .error .kNotInitialized ""

end GrpcAccountRiskBridge

/-! ## The four calls as one machine -/

inductive ReservationCall where
  | reserve
  | release
  | query
  | list
  deriving DecidableEq

namespace ReservationCall

abbrev Question : ReservationCall → Type
  | .reserve => ReserveRequest
  | .release => ReleaseRequest
  | .query => GetReservationRequest
  | .list => String

abbrev Request : ReservationCall → Type
  | .reserve => Proto.ReserveOrderRequest
  | .release => Proto.ReleaseOrderRequest
  | .query => GetReservationRequest
  | .list => Proto.ListActiveReservationsRequest

abbrev Response : ReservationCall → Type
  | .reserve => Proto.ReserveOrderResponse
  | .release => Proto.ReleaseOrderResponse
  | .query => GetReservationResponse
  | .list => Proto.ListActiveReservationsResponse

abbrev Data : ReservationCall → Type
  | .reserve => Reservation
  | .release => Reservation
  | .query => Reservation
  | .list => List Reservation

abbrev Outcome (call : ReservationCall) : Type := Result call.Data

def failure : ReservationCall → String
  | .reserve => "ReserveOrder RPC failed"
  | .release => "ReleaseOrder RPC failed"
  | .query => "QueryReservation RPC failed"
  | .list => "ListActiveReservations RPC failed"

def message : {call : ReservationCall} → call.Question → call.Request
  | .reserve, request => ReserveRequest.message request
  | .release, request => ReleaseRequest.message request
  | .query, request => request
  | .list, accountId => ⟨accountId⟩

def converted (blank : Reservation) :
    {call : ReservationCall} → call.Question → call.Response → call.Data
  | .reserve, request, response => Proto.ReserveOrderResponse.converted blank request response
  | .release, request, response => Proto.ReleaseOrderResponse.converted blank request response
  | .query, request, response => GetReservationResponse.converted blank request response
  | .list, accountId, response =>
      Proto.ListActiveReservationsResponse.converted blank accountId response

/-- What the client makes of a status other than `OK`. -/
def codeOf : ReservationCall → StatusCode → ErrorCode
  | .query, status => if status = .notFound then .kNotFound else .kTimeout
  | _, _ => .kTimeout

end ReservationCall

open ReservationCall

/-- The bridge has the connection.  Both checks ask the client, the bridge's own and the one
in the client. -/
def reservationCalls (blank : Reservation) :
    Remote GrpcAccountRiskBridge StatusCode Question Request Response Outcome where
  connected bridge := bridge.client.isInitialized
  wire := message
  offline _ := .error .kNotInitialized ""
  dropped {call} _ := .error .kNotInitialized call.failure
  failed {call} _ status := .error (call.codeOf status) call.failure
  answered asked response := .ok (converted blank asked response)

abbrev ReservationTransport := Remote.Transport StatusCode Request Response

/-- What the service answers to a message, or does not. -/
def answerOf (transport : ReservationTransport) (call : ReservationCall)
    (request : call.Request) : Answer call.Response :=
  match transport with
  | .arrives service => .ok (service call request)
  | .fails status => .error status

/-- `Init` and `Shutdown` happen between the pieces of calls. -/
def changeBridge : BridgeChange → GrpcAccountRiskBridge → GrpcAccountRiskBridge
  | .init, bridge => bridge.init.2
  | .shutdown, bridge => bridge.shutdown

abbrev ReservationFrame := Remote.Frame Question Request Response Outcome

abbrev ServedReservation := Remote.Served Request Response

abbrev ReservationPool :=
  Concurrent.Pool GrpcAccountRiskBridge ReservationFrame ServedReservation

abbrev ReservationLabel :=
  Concurrent.Label ((call : ReservationCall) × call.Question) ReservationTransport BridgeChange

abbrev reservationStep (blank : Reservation) :
    ReservationPool → ReservationLabel → Option ReservationPool :=
  Concurrent.step ((reservationCalls blank).machine changeBridge)

/-! ## A call that nothing interrupts is the function of the bridge -/

section Whole

variable (blank : Reservation) (bridge : GrpcAccountRiskBridge) (transport : ReservationTransport)

/-- The whole call, in the words of the client. -/
theorem perform_eq (call : ReservationCall) (asked : call.Question) :
    (reservationCalls blank).perform bridge call asked transport =
      if bridge.client.isInitialized then
        match answerOf transport call (message asked) with
        | .ok response => .ok (converted blank asked response)
        | .error status => .error (call.codeOf status) call.failure
      else .error .kNotInitialized "" := by
  unfold Remote.perform
  cases transport <;> rfl

theorem perform_reserve (request : ReserveRequest) :
    (reservationCalls blank).perform bridge .reserve request transport =
      bridge.reserve blank request (answerOf transport .reserve) := by
  rw [perform_eq, GrpcAccountRiskBridge.reserve]
  cases hup : bridge.client.isInitialized with
  | false => rfl
  | true => cases transport <;> simp [AccountRiskClient.call, hup, answerOf] <;> rfl

theorem perform_release (request : ReleaseRequest) :
    (reservationCalls blank).perform bridge .release request transport =
      bridge.release blank request (answerOf transport .release) := by
  rw [perform_eq, GrpcAccountRiskBridge.release]
  cases hup : bridge.client.isInitialized with
  | false => rfl
  | true => cases transport <;> simp [AccountRiskClient.call, hup, answerOf] <;> rfl

theorem perform_list (accountId : String) :
    (reservationCalls blank).perform bridge .list accountId transport =
      bridge.listActiveReservations blank accountId (answerOf transport .list) := by
  rw [perform_eq, GrpcAccountRiskBridge.listActiveReservations]
  cases hup : bridge.client.isInitialized with
  | false => rfl
  | true => cases transport <;> simp [AccountRiskClient.call, hup, answerOf] <;> rfl

theorem perform_query (request : GetReservationRequest) :
    (reservationCalls blank).perform bridge .query request transport =
      bridge.queryReservation blank request (answerOf transport .query request) := by
  rw [perform_eq, GrpcAccountRiskBridge.queryReservation]
  cases hup : bridge.client.isInitialized with
  | false => rfl
  | true =>
      cases transport with
      | arrives service =>
          have hanswer : answerOf (.arrives service) .query request =
              .ok (service .query request) := rfl
          rw [hanswer, AccountRiskClient.callOrNotFound_ok hup]
          rfl
      | fails status =>
          have hanswer : answerOf (.fails status) .query request = .error status := rfl
          rw [hanswer, AccountRiskClient.callOrNotFound_error hup]
          rfl

/-- Left alone, the pieces of each call compose to the function of the bridge. -/
theorem reservation_calls_solo :
    let solo (call : ReservationCall) (asked : call.Question) (result : call.Outcome) : Prop :=
      ∃ count fate emitted, Concurrent.Solo ((reservationCalls blank).machine changeBridge)
        transport count bridge (.entered call asked) bridge (.returned call asked fate result)
        emitted
    (∀ request, solo .reserve request
      (bridge.reserve blank request (answerOf transport .reserve))) ∧
    (∀ request, solo .release request
      (bridge.release blank request (answerOf transport .release))) ∧
    (∀ request, solo .query request
      (bridge.queryReservation blank request (answerOf transport .query request))) ∧
    ∀ accountId, solo .list accountId
      (bridge.listActiveReservations blank accountId (answerOf transport .list)) := by
  intro solo
  have hsolo (call : ReservationCall) (asked : call.Question) :
      solo call asked ((reservationCalls blank).perform bridge call asked transport) :=
    (reservationCalls blank).perform_solo changeBridge bridge call asked transport
  refine ⟨fun request => ?_, fun request => ?_, fun request => ?_, fun accountId => ?_⟩
  · rw [← perform_reserve]
    exact hsolo .reserve request
  · rw [← perform_release]
    exact hsolo .release request
  · rw [← perform_query]
    exact hsolo .query request
  · rw [← perform_list]
    exact hsolo .list accountId

end Whole

/-! ## What the calls tell -/

/-- What a call tells is what it has been answered; or it was refused at once; or it says
nothing, and then its message was sent and may or may not have been served. -/
theorem told_cases {blank : Reservation} {call : ReservationCall} {asked : call.Question}
    {fate : Remote.Fate call.Request call.Response} {result : call.Outcome}
    (hends : (reservationCalls blank).Ends asked fate result) :
    (∃ response, fate = .served (message asked) response ∧
      result = .ok (converted blank asked response)) ∨
    (fate = .unsent ∧ result.errorCode = .kNotInitialized ∧ result.data = none) ∨
    ((fate = .sent (message asked) ∨ ∃ response, fate = .served (message asked) response) ∧
      (result.errorCode = .kTimeout ∨ call = .query ∧ result.errorCode = .kNotFound) ∧
      result.data = none) := by
  have hcode (status : StatusCode) :
      call.codeOf status = .kTimeout ∨ call = .query ∧ call.codeOf status = .kNotFound := by
    cases call with
    | query =>
        by_cases hstatus : status = .notFound
        · exact .inr ⟨rfl, if_pos hstatus⟩
        · exact .inl (if_neg hstatus)
    | _ => exact .inl rfl
  cases hends with
  | offline => exact .inr (.inl ⟨rfl, rfl, rfl⟩)
  | dropped => exact .inr (.inl ⟨rfl, rfl, rfl⟩)
  | failed status => exact .inr (.inr ⟨.inl rfl, hcode status, rfl⟩)
  | unheard status response => exact .inr (.inr ⟨.inr ⟨response, rfl⟩, hcode status, rfl⟩)
  | answered response => exact .inl ⟨response, rfl, rfl⟩

/-- In every interleaving of the four calls, `Init` and `Shutdown`, with messages that are
late or lost, the service serves messages of calls only, each at most once; and every call
that has returned tells what the service has answered to its message, or that none was
sent, or with `kTimeout` or `kNotFound` nothing about it. -/
theorem reservation_calls_served_once (blank : Reservation) (serviceConfig : ServiceConfig)
    (labels : List ReservationLabel) (pool : ReservationPool)
    (hrun : Runs.exec (reservationStep blank) (Concurrent.idle (.create serviceConfig)) labels =
      some pool) :
    pool.log.Perm (pool.calls.filterMap Remote.Frame.served?) ∧
    ∀ call (asked : Question call) fate result, .returned call asked fate result ∈ pool.calls →
      (∃ response, fate = .served (message asked) response ∧
        result = .ok (converted blank asked response)) ∨
      (fate = .unsent ∧ result.errorCode = .kNotInitialized ∧ result.data = none) ∨
      ((fate = .sent (message asked) ∨ ∃ response, fate = .served (message asked) response) ∧
        (result.errorCode = .kTimeout ∨ call = .query ∧ result.errorCode = .kNotFound) ∧
        result.data = none) := by
  obtain ⟨hsound, hlog⟩ := Remote.run hrun
  exact ⟨hlog, fun call asked fate result hreturned => told_cases (hsound _ hreturned)⟩

private def blankReservation : Reservation := ⟨"", "", "", .kUnspecified, "", 0, 0⟩

/-- A service that grants and releases everything. -/
private def grantingService : (call : ReservationCall) → call.Request → call.Response
  | .reserve, _ => ⟨.approved, "", 1, "r1", 60000⟩
  | .release, _ => ⟨true, ""⟩
  | .query, request => ⟨request.orderId, "r1", "reserved", 60000⟩
  | .list, _ => ⟨[]⟩

private def sampleReserve : ReserveRequest :=
  ⟨"a", "o", 1, 60000, ⟨"e", "s", "IF2401", 0, 0, 1, 0, 0⟩⟩

/-- A reservation is made although its call runs out of time. -/
theorem reservation_calls_served_once_sample :
    let config : ServiceConfig := ⟨true, "risk", 50051⟩
    let labels : List ReservationLabel :=
      [.outside .init, .start ⟨.reserve, sampleReserve⟩, .advance 0 (.arrives grantingService),
        .advance 0 (.arrives grantingService), .advance 0 (.arrives grantingService),
        .advance 0 (.fails .deadlineExceeded)]
    ∃ pool, Runs.exec (reservationStep blankReservation)
        (Concurrent.idle (.create config)) labels = some pool ∧
      pool.log.length = 1 ∧ pool.log.Perm (pool.calls.filterMap Remote.Frame.served?) := by
  intro config labels
  exact ⟨_, rfl, rfl, (reservation_calls_served_once blankReservation config labels _ rfl).1⟩

/-! ## Reservations that the engine believes in -/

/-- The reservation that a call of `Reserve` reports as made. -/
def reservedOf : ReservationFrame → Option Reservation
  | .returned .reserve _ _ result => result.data.filter (·.state = .kReserved)
  | _ => none

/-- The reservation that the service has made by an answer. -/
def grantedOf (blank : Reservation) : ServedReservation → Option Reservation
  | ⟨.reserve, request, response⟩ =>
      if response.decision = .approved then
        some
          { blank with
            accountId := request.accountId
            orderId := request.intent.orderId
            state := .kReserved
            reason := response.rejectReason
            policyVersion := response.policyVersion
            reservationId := response.reservationId
            expiresAtUnixMs := response.expiresAtUnixMs }
      else none
  | _ => none

def ReservationState.isOver : ReservationState → Bool
  | .kReleased => true
  | .kSettled => true
  | _ => false

/-- The reservation that a call of `Release` reports as released or settled. -/
def endedOf : ReservationFrame → Option Reservation
  | .returned .release _ _ result => result.data.filter (·.state.isOver)
  | _ => none

/-- The reservation that the service has released or settled by an answer. -/
def releasedOf (blank : Reservation) : ServedReservation → Option Reservation
  | ⟨.release, request, response⟩ =>
      if response.released then
        some
          { blank with
            accountId := request.accountId
            orderId := request.orderId
            state := if request.reason = .settled then .kSettled else .kReleased
            reason := response.rejectReason }
      else none
  | _ => none

/-- Only settling is told the service as settling. -/
theorem toProtoReleaseReason_settled (reason : ReleaseReason) :
    toProtoReleaseReason reason = .settled ↔ reason = .kSettled := by
  cases reason <;> simp [toProtoReleaseReason]

theorem decidedState_reserved (decision : Proto.Decision) :
    decidedState decision = .kReserved ↔ decision = .approved := by
  cases decision <;> simp [decidedState]

section Beliefs

variable {blank : Reservation} {frame : ReservationFrame} {reservation : Reservation}

/-- Data is in a result only with a response of the call's own. -/
theorem data_served {call : ReservationCall} {asked : call.Question}
    {fate : Remote.Fate call.Request call.Response} {result : call.Outcome}
    (hsound : (reservationCalls blank).Sound (.returned call asked fate result))
    {data : call.Data} (hdata : result.data = some data) :
    ∃ response, fate = .served (message asked) response ∧
      data = converted blank asked response := by
  rcases told_cases hsound with ⟨response, hfate, rfl⟩ | ⟨-, -, hnone⟩ | ⟨-, -, hnone⟩
  · exact ⟨response, hfate, (Option.some.inj hdata).symm⟩
  · cases hnone.symm.trans hdata
  · cases hnone.symm.trans hdata

theorem reservedOf_granted (hsound : (reservationCalls blank).Sound frame)
    (hreserved : reservedOf frame = some reservation) :
    ∃ entry, frame.served? = some entry ∧ grantedOf blank entry = some reservation := by
  cases frame with
  | returned call asked fate result =>
      cases call with
      | reserve =>
          obtain ⟨hdata, hstate⟩ := Option.filter_eq_some_iff.mp hreserved
          obtain ⟨response, rfl, rfl⟩ := data_served hsound hdata
          have happroved := (decidedState_reserved response.decision).mp (of_decide_eq_true hstate)
          refine ⟨_, rfl, ?_⟩
          simp [grantedOf, happroved, converted, Proto.ReserveOrderResponse.converted, message,
            ReserveRequest.message, decidedState]
      | _ => cases hreserved
  | _ => cases hreserved

theorem endedOf_released (hblank : blank.state.isOver = false)
    (hsound : (reservationCalls blank).Sound frame)
    (hended : endedOf frame = some reservation) :
    ∃ entry, frame.served? = some entry ∧ releasedOf blank entry = some reservation := by
  cases frame with
  | returned call asked fate result =>
      cases call with
      | release =>
          obtain ⟨hdata, hover⟩ := Option.filter_eq_some_iff.mp hended
          obtain ⟨response, rfl, rfl⟩ := data_served hsound hdata
          have hreleased : response.released = true := by
            by_contra hnot
            simp [converted, Proto.ReleaseOrderResponse.converted, hnot, hblank] at hover
          refine ⟨_, rfl, ?_⟩
          simp [releasedOf, hreleased, converted, Proto.ReleaseOrderResponse.converted, message,
            ReleaseRequest.message, toProtoReleaseReason_settled]
      | _ => cases hended
  | _ => cases hended

end Beliefs

/-- In every interleaving, with messages that are late or lost, the engine is told of no
more reservations made, released or settled than the service has made, released or settled
for it, and of the same ones: of the same account, order and number, and on the same
terms. -/
theorem reservations_granted (blank : Reservation) (hblank : blank.state.isOver = false)
    (serviceConfig : ServiceConfig) (labels : List ReservationLabel) (pool : ReservationPool)
    (hrun : Runs.exec (reservationStep blank) (Concurrent.idle (.create serviceConfig)) labels =
      some pool) :
    List.Subperm (pool.calls.filterMap reservedOf) (pool.log.filterMap (grantedOf blank)) ∧
      List.Subperm (pool.calls.filterMap endedOf) (pool.log.filterMap (releasedOf blank)) := by
  constructor
  · exact Remote.told_subperm (fun _ _ hsound hreserved => reservedOf_granted hsound hreserved)
      hrun
  · exact Remote.told_subperm
      (fun _ _ hsound hended => endedOf_released hblank hsound hended) hrun

/-- A reservation that is made and released. -/
theorem reservations_granted_sample :
    let config : ServiceConfig := ⟨true, "risk", 50051⟩
    let release : ReleaseRequest := ⟨"a", "o", .kSettled, 0, 0⟩
    let labels : List ReservationLabel :=
      .outside .init :: .start ⟨.reserve, sampleReserve⟩ :: .start ⟨.release, release⟩ ::
        (List.replicate 4 (.advance 0 (.arrives grantingService)) ++
          List.replicate 4 (.advance 1 (.arrives grantingService)))
    ∃ pool, Runs.exec (reservationStep blankReservation)
        (Concurrent.idle (.create config)) labels = some pool ∧
      (pool.calls.filterMap reservedOf).length = 1 ∧
      List.Subperm (pool.calls.filterMap reservedOf)
        (pool.log.filterMap (grantedOf blankReservation)) ∧
      (pool.calls.filterMap endedOf).length = 1 ∧
      List.Subperm (pool.calls.filterMap endedOf)
        (pool.log.filterMap (releasedOf blankReservation)) := by
  intro config release labels
  obtain ⟨hgranted, hreleased⟩ := reservations_granted blankReservation rfl config labels _ rfl
  exact ⟨_, rfl, rfl, hgranted, rfl, hreleased⟩

end QtradeClient.Bridge
