import QtradeClient.Bridge.AccountRisk

/-!
# Reservations through the bridge

`QueryReservation` asks for the reservation of one order.  It keeps nothing, so every
status other than `OK` is an error.
-/

namespace QtradeClient.Bridge

open Client

namespace Proto

/-- The fields that the conversion copies. -/
structure Reservation where
  orderId : String
  reservationId : String
  status : String
  expiresAtUnixMs : Int

end Proto

inductive ReservationState where
  | kUnspecified
  | kReserved
  | kRejected
  | kReleased
  | kSettled
  | kExpired
  deriving DecidableEq, Repr

structure Reservation where
  accountId : String
  orderId : String
  reservationId : String
  state : ReservationState
  reason : String
  policyVersion : Int
  expiresAtUnixMs : Int

/-- `ToReservationState` for the status of a stored reservation. -/
def toReservationState (status : String) : ReservationState :=
  if status = "reserved" then .kReserved
  else if status = "rejected" then .kRejected
  else if status = "released" then .kReleased
  else if status = "settled" then .kSettled
  else if status = "expired" then .kExpired
  else .kUnspecified

/-- `blank` is a default-constructed reservation; the message has nothing for its other
fields. -/
def toReservation (blank : Reservation) (proto : Proto.Reservation) : Reservation :=
  { blank with
    orderId := proto.orderId
    reservationId := proto.reservationId
    state := toReservationState proto.status
    expiresAtUnixMs := proto.expiresAtUnixMs }

structure GetReservationRequest where
  accountId : String
  orderId : String
  deriving DecidableEq

structure GetReservationResponse where
  reservation : Proto.Reservation

/-- What a call makes of a response: the account is the one that was asked for, whatever
the service has looked at. -/
def GetReservationResponse.converted (blank : Reservation) (request : GetReservationRequest)
    (response : GetReservationResponse) : Reservation :=
  { toReservation blank response.reservation with accountId := request.accountId }

namespace GrpcAccountRiskBridge

/-- A call, given what the service would answer to its request. -/
def queryReservation (blank : Reservation) (bridge : GrpcAccountRiskBridge)
    (request : GetReservationRequest) (answer : Answer GetReservationResponse) :
    Result Reservation :=
  if bridge.client.isInitialized then
    match bridge.client.callOrNotFound answer with
    | .ok response => .ok (response.converted blank request)
    | .error code => .error code "QueryReservation RPC failed"
  else .error .kNotInitialized ""

end GrpcAccountRiskBridge

end QtradeClient.Bridge
