/-!
# Values shared with the installed SDK

The SDK headers are not part of this repository.  Each enumeration lists the
enumerators that the sources name and keeps the remaining ones by number; each
record lists the fields that the sources read or write.  Prices and amounts are
`double` and only copied or multiplied, so they are `Float`.
-/

namespace QtradeClient

/-- `qtrade::ErrorCode`. -/
inductive ErrorCode where
  | kSuccess
  | kConnectionError
  | kNotFound
  | kSystemError
  | kInternalError
  | kTimeout
  | kNotInitialized
  | kInvalidArgument
  | kNotSupported
  | other (code : Int)
  deriving DecidableEq, Repr

/-- `qtrade::Result<T>`; the success paths of the sources only set `data`, so a
default-constructed result carries `kSuccess`. -/
structure Result (α : Type) where
  errorCode : ErrorCode := .kSuccess
  errorMessage : String := ""
  data : Option α := none

namespace Result

variable {α : Type}

/-- The result of a success path. -/
def ok (value : α) : Result α := { data := some value }

/-- The result of an error path. -/
def error (code : ErrorCode) (message : String) : Result α :=
  { errorCode := code, errorMessage := message }

@[simp] theorem ok_errorCode (value : α) : (ok value).errorCode = .kSuccess := rfl

@[simp] theorem ok_data (value : α) : (ok value).data = some value := rfl

@[simp] theorem error_errorCode (code : ErrorCode) (message : String) :
    (error code message : Result α).errorCode = code := rfl

@[simp] theorem error_data (code : ErrorCode) (message : String) :
    (error code message : Result α).data = none := rfl

end Result

namespace Sdk

inductive MarketType where
  | kInit
  | other (code : Int)
  deriving DecidableEq, Repr

inductive SideType where
  | kBuy
  | other (code : Int)
  deriving DecidableEq, Repr

/-- No enumerator of this type is named by the sources. -/
structure PositionEffectType where
  code : Int
  deriving DecidableEq, Repr

/-- No enumerator of this type is named by the sources. -/
structure BusinessType where
  code : Int
  deriving DecidableEq, Repr

inductive OrderStatusType where
  | kUnknown
  | kNotTradedQueueing
  | kFilled
  | kCanceled
  | kRejected
  | other (code : Int)
  deriving DecidableEq, Repr

/-- The statuses after which an order may not be canceled. -/
def OrderStatusType.isTerminal : OrderStatusType → Bool
  | .kFilled => true
  | .kCanceled => true
  | .kRejected => true
  | _ => false

inductive OrderSubmitStatusType where
  | kInsertAccepted
  | kCancelAccepted
  | other (code : Int)
  deriving DecidableEq, Repr

structure Order where
  orderId : String
  clientOrderId : String
  brokerOrderId : UInt64
  instrument : String
  market : MarketType
  price : Float
  volume : Int
  tradedVolume : Int
  leftVolume : Int
  tradeAmount : Float
  side : SideType
  positionEffect : PositionEffectType
  businessType : BusinessType
  status : OrderStatusType
  submitStatus : OrderSubmitStatusType

structure Trade where
  tradeId : String
  orderId : String
  clientOrderId : String
  brokerOrderId : UInt64
  instrument : String
  market : MarketType
  price : Float
  volume : Int
  tradeAmount : Float
  side : SideType
  positionEffect : PositionEffectType
  businessType : BusinessType

structure OrderRequest where
  brokerOrderId : UInt64
  clientOrderId : String
  instrument : String
  market : MarketType
  price : Float
  volume : Int
  side : SideType
  positionEffect : PositionEffectType
  businessType : BusinessType

structure CancelOrderRequest where
  brokerOrderId : UInt64
  orderId : String

structure QueryOrdersRequest where
  instrument : String
  brokerOrderId : UInt64
  status : OrderStatusType

/-- The request that filters nothing. -/
def QueryOrdersRequest.empty : QueryOrdersRequest := ⟨"", 0, .kUnknown⟩

structure QueryTradesRequest where
  instrument : String
  orderId : String
  brokerOrderId : UInt64

structure QueryPositionRequest where
  instrument : String

inductive PositionDirectionType where
  | kNet
  | kLong
  | kShort
  | other (code : Int)
  deriving DecidableEq, Repr

structure Position where
  instrument : String
  market : MarketType
  direction : PositionDirectionType
  totalVolume : Int
  deriving DecidableEq

/-- A position that holds nothing. -/
def Position.flat : Position := ⟨"", .kInit, .kNet, 0⟩

structure SubscribeRequest where
  instruments : List String

/-- The sources read no field of this request. -/
structure UnsubscribeRequest where
  instruments : List String

/-- The values of a default-constructed `Order` and `Trade`, fixed by the SDK. -/
structure Defaults where
  order : Order
  trade : Trade

/-- A request to buy one lot under the given id. -/
def OrderRequest.buyOne (brokerOrderId : UInt64) : OrderRequest where
  brokerOrderId := brokerOrderId
  clientOrderId := "c"
  instrument := "IF2401"
  market := .kInit
  price := 100.0
  volume := 1
  side := .kBuy
  positionEffect := ⟨0⟩
  businessType := ⟨0⟩

/-- Defaults that are zero or empty in every field. -/
def Defaults.zero : Defaults where
  order :=
    { orderId := "", clientOrderId := "", brokerOrderId := 0, instrument := "", market := .kInit
      price := 0, volume := 0, tradedVolume := 0, leftVolume := 0, tradeAmount := 0
      side := .other 0, positionEffect := ⟨0⟩, businessType := ⟨0⟩, status := .kUnknown
      submitStatus := .other 0 }
  trade :=
    { tradeId := "", orderId := "", clientOrderId := "", brokerOrderId := 0, instrument := ""
      market := .kInit, price := 0, volume := 0, tradeAmount := 0, side := .other 0
      positionEffect := ⟨0⟩, businessType := ⟨0⟩ }

end Sdk

end QtradeClient
