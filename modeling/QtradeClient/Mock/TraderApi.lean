import Mathlib.Data.Finmap
import QtradeClient.Sdk.Types

/-!
# The mock trader

`MockTraderApi` keeps an order table and a trade log.  Each of its operations is
written here as the pieces that the source separates by its mutex and by its
callbacks; a call that nothing else interrupts is the composition of them.  The
order table is an `unordered_map`, whose iteration order is unspecified, so it is
a finite map and a query answers with a multiset.
-/

namespace QtradeClient.Mock

open Sdk

abbrev OrderTable := Finmap fun _ : UInt64 => Order

/-- What an observer of the trader receives: the two callbacks and the events of
a registered `TraderSpi`. -/
inductive Delivery where
  | onOrder (order : Order)
  | onTrade (trade : Trade)
  | spiConnected
  | spiOrderEvent (order : Order) (withError : Bool) (sessionId : UInt64)
  | spiTradeEvent (trade : Trade) (sessionId : UInt64)

structure MockTraderSpi where
  target : Bool
  deriving DecidableEq

def MockTraderSpi.publishConnected (spi : MockTraderSpi) : List Delivery :=
  if spi.target then [.spiConnected] else []

/-- `onOrder` and `onTrade` say whether a callback is set. -/
structure MockTraderApi where
  mockSpi : MockTraderSpi
  onOrder : Bool
  onTrade : Bool
  connected : Bool
  nextBrokerOrderId : UInt64
  nextTradeId : UInt64
  autoFill : Bool
  orders : OrderTable
  trades : List Trade

/-- How a call ends; `orders_.at` raises when the key is missing. -/
inductive Outcome where
  | returned (code : ErrorCode)
  | raised
  deriving DecidableEq, Repr

/-- The end of an uninterrupted call: its outcome, what it delivered, and the
trader it leaves. -/
structure Reply where
  outcome : Outcome
  deliveries : List Delivery
  api : MockTraderApi

namespace MockTraderApi

/-- The trader as constructed. -/
def create : MockTraderApi where
  mockSpi := ⟨false⟩
  onOrder := false
  onTrade := false
  connected := false
  nextBrokerOrderId := 1
  nextTradeId := 1
  autoFill := true
  orders := ∅
  trades := []

/-! ## Pieces of `SendOrder` -/

/-- The id a request is given: its own, or the counter when it asks for none. -/
def assignedId (api : MockTraderApi) (request : OrderRequest) : UInt64 :=
  if request.brokerOrderId ≠ 0 then request.brokerOrderId else api.nextBrokerOrderId

/-- The counter moves only when the request asks for no id of its own. -/
def allocate (api : MockTraderApi) (request : OrderRequest) : MockTraderApi :=
  if request.brokerOrderId ≠ 0 then api
  else { api with nextBrokerOrderId := api.nextBrokerOrderId + 1 }

def newOrder (defaults : Defaults) (request : OrderRequest) (id : UInt64) : Order :=
  { defaults.order with
    clientOrderId := request.clientOrderId
    instrument := request.instrument
    market := request.market
    brokerOrderId := id
    price := request.price
    volume := request.volume
    leftVolume := request.volume
    side := request.side
    positionEffect := request.positionEffect
    businessType := request.businessType
    status := .kNotTradedQueueing
    submitStatus := .kInsertAccepted }

/-- The first locked section: the assignment overwrites an entry of the same id. -/
def storeOrder (api : MockTraderApi) (id : UInt64) (order : Order) : MockTraderApi :=
  { api with orders := api.orders.insert id order }

def publishOrder (api : MockTraderApi) (order : Order) : List Delivery :=
  if api.onOrder then [.onOrder order] else []

/-- The test in front of the fill. -/
def fills (api : MockTraderApi) : Bool := api.autoFill && api.onTrade

/-- `"MOCK-TRADE-" + std::to_string(number)`. -/
def tradeName (number : UInt64) : String :=
  "MOCK-TRADE-" ++ toString number.toNat

def newTrade (defaults : Defaults) (request : OrderRequest) (id number : UInt64) : Trade :=
  { defaults.trade with
    tradeId := tradeName number
    brokerOrderId := id
    clientOrderId := request.clientOrderId
    instrument := request.instrument
    market := request.market
    price := request.price
    volume := request.volume
    tradeAmount := request.price * Float.ofInt request.volume
    side := request.side
    positionEffect := request.positionEffect
    businessType := request.businessType }

def takeTradeId (api : MockTraderApi) : MockTraderApi :=
  { api with nextTradeId := api.nextTradeId + 1 }

/-- The stored order once a trade has filled it. -/
def filledBy (stored : Order) (trade : Trade) : Order :=
  { stored with
    tradedVolume := stored.volume
    leftVolume := 0
    tradeAmount := trade.tradeAmount
    status := .kFilled }

/-- The second locked section.  The trade is appended before the entry is looked
up, and the entry is marked whatever its status has become. -/
def fill (api : MockTraderApi) (id : UInt64) (trade : Trade) : Outcome × MockTraderApi :=
  match api.orders.lookup id with
  | none => (.raised, { api with trades := api.trades ++ [trade] })
  | some stored =>
      (.returned .kSuccess,
        { api with
          trades := api.trades ++ [trade]
          orders := api.orders.insert id (filledBy stored trade) })

/-! ## Pieces of `CancelOrder` -/

def canceledBy (stored : Order) (request : CancelOrderRequest) : Order :=
  { stored with
    orderId := request.orderId
    status := .kCanceled
    submitStatus := .kCancelAccepted }

/-- The locked section: look the order up, refuse a terminal one, mark it. -/
def markCanceled (api : MockTraderApi) (request : CancelOrderRequest) :
    Except ErrorCode (Order × MockTraderApi) :=
  match api.orders.lookup request.brokerOrderId with
  | none => .error .kNotFound
  | some stored =>
      if stored.status.isTerminal then .error .kSystemError
      else
        .ok (canceledBy stored request,
          { api with
            orders := api.orders.insert request.brokerOrderId (canceledBy stored request) })

/-! ## Uninterrupted calls -/

def connect (api : MockTraderApi) : Reply :=
  ⟨.returned .kSuccess, api.mockSpi.publishConnected, { api with connected := true }⟩

def disconnect (api : MockTraderApi) : MockTraderApi := { api with connected := false }

def release (api : MockTraderApi) : MockTraderApi := api.disconnect

def setAutoFill (api : MockTraderApi) (autoFill : Bool) : MockTraderApi :=
  { api with autoFill := autoFill }

def sendOrder (defaults : Defaults) (api : MockTraderApi) (request : OrderRequest) : Reply :=
  if api.connected then
    let id := api.assignedId request
    let order := newOrder defaults request id
    let stored := (api.allocate request).storeOrder id order
    if stored.fills then
      let trade := newTrade defaults request id stored.nextTradeId
      let filled := stored.takeTradeId.fill id trade
      ⟨filled.1, stored.publishOrder order ++ [.onTrade trade], filled.2⟩
    else ⟨.returned .kSuccess, stored.publishOrder order, stored⟩
  else ⟨.returned .kConnectionError, [], api⟩

def cancelOrder (api : MockTraderApi) (request : CancelOrderRequest) : Reply :=
  if api.connected then
    match api.markCanceled request with
    | .error code => ⟨.returned code, [], api⟩
    | .ok (canceled, marked) =>
        ⟨.returned .kSuccess, marked.publishOrder canceled, marked⟩
  else ⟨.returned .kConnectionError, [], api⟩

def matchesQuery (request : QueryOrdersRequest) (id : UInt64) (order : Order) : Bool :=
  !((request.instrument ≠ "" && order.instrument ≠ request.instrument) ||
    (request.brokerOrderId ≠ 0 && id ≠ request.brokerOrderId) ||
    (request.status ≠ .kUnknown && order.status ≠ request.status))

def queryOrders (api : MockTraderApi) (request : QueryOrdersRequest) : Multiset Order :=
  (api.orders.entries.filter fun entry => matchesQuery request entry.1 entry.2).map
    fun entry => entry.2

/-! ## What the pieces leave alone -/

section Frames

variable (api : MockTraderApi) (request : OrderRequest) (id : UInt64)

@[simp] theorem allocate_orders : (api.allocate request).orders = api.orders := by
  unfold allocate; split <;> rfl

@[simp] theorem allocate_trades : (api.allocate request).trades = api.trades := by
  unfold allocate; split <;> rfl

@[simp] theorem allocate_nextTradeId :
    (api.allocate request).nextTradeId = api.nextTradeId := by
  unfold allocate; split <;> rfl

@[simp] theorem allocate_connected : (api.allocate request).connected = api.connected := by
  unfold allocate; split <;> rfl

@[simp] theorem allocate_onOrder : (api.allocate request).onOrder = api.onOrder := by
  unfold allocate; split <;> rfl

@[simp] theorem allocate_fills : (api.allocate request).fills = api.fills := by
  unfold allocate; split <;> rfl

@[simp] theorem storeOrder_orders (order : Order) :
    (api.storeOrder id order).orders = api.orders.insert id order := rfl

@[simp] theorem storeOrder_trades (order : Order) :
    (api.storeOrder id order).trades = api.trades := rfl

@[simp] theorem storeOrder_fills (order : Order) :
    (api.storeOrder id order).fills = api.fills := rfl

@[simp] theorem storeOrder_nextTradeId (order : Order) :
    (api.storeOrder id order).nextTradeId = api.nextTradeId := rfl

@[simp] theorem storeOrder_onOrder (order : Order) :
    (api.storeOrder id order).onOrder = api.onOrder := rfl

@[simp] theorem takeTradeId_orders : api.takeTradeId.orders = api.orders := rfl

@[simp] theorem takeTradeId_trades : api.takeTradeId.trades = api.trades := rfl

@[simp] theorem fill_trades (trade : Trade) :
    (api.fill id trade).2.trades = api.trades ++ [trade] := by
  unfold fill; split <;> rfl

@[simp] theorem fill_nextTradeId (trade : Trade) :
    (api.fill id trade).2.nextTradeId = api.nextTradeId := by
  unfold fill; split <;> rfl

end Frames

theorem fill_of_lookup {api : MockTraderApi} {id : UInt64} {stored : Order}
    (hstored : api.orders.lookup id = some stored) (trade : Trade) :
    api.fill id trade =
      (.returned .kSuccess,
        { api with
          trades := api.trades ++ [trade]
          orders := api.orders.insert id (filledBy stored trade) }) := by
  unfold fill
  rw [hstored]

/-- The whole of what the locked section of a cancel can do. -/
theorem markCanceled_ok {api marked : MockTraderApi} {request : CancelOrderRequest}
    {canceled : Order} (hmark : api.markCanceled request = .ok (canceled, marked)) :
    ∃ stored, api.orders.lookup request.brokerOrderId = some stored ∧
      stored.status.isTerminal = false ∧
      canceled = canceledBy stored request ∧
      marked = { api with
        orders := api.orders.insert request.brokerOrderId (canceledBy stored request) } := by
  unfold markCanceled at hmark
  cases hstored : api.orders.lookup request.brokerOrderId with
  | none => rw [hstored] at hmark; cases hmark
  | some stored =>
      rw [hstored] at hmark
      cases hterminal : stored.status.isTerminal with
      | true => simp [hterminal] at hmark
      | false =>
          simp only [hterminal, Bool.false_eq_true, if_false, Except.ok.injEq,
            Prod.mk.injEq] at hmark
          exact ⟨stored, rfl, hterminal, hmark.1.symm, hmark.2.symm⟩

theorem markCanceled_error {api : MockTraderApi} {request : CancelOrderRequest}
    {code : ErrorCode} (hmark : api.markCanceled request = .error code) : code ≠ .kSuccess := by
  unfold markCanceled at hmark
  split at hmark
  · cases hmark
    decide
  · split at hmark <;> cases hmark
    decide

theorem markCanceled_error_cases {api : MockTraderApi} {request : CancelOrderRequest}
    {code : ErrorCode} (hmark : api.markCanceled request = .error code) :
    code = .kNotFound ∨ code = .kSystemError := by
  unfold markCanceled at hmark
  split at hmark
  · cases hmark
    exact .inl rfl
  · split at hmark <;> cases hmark
    exact .inr rfl

end MockTraderApi

/-- Every entry of the table is filed under its own id. -/
def Keyed (orders : OrderTable) : Prop :=
  ∀ id order, orders.lookup id = some order → order.brokerOrderId = id

theorem keyed_empty : Keyed ∅ := by
  intro id order hlookup
  rw [Finmap.lookup_empty] at hlookup
  cases hlookup

theorem Keyed.insert {orders : OrderTable} (hkeyed : Keyed orders) {id : UInt64} {order : Order}
    (hid : order.brokerOrderId = id) : Keyed (orders.insert id order) := by
  intro other found hlookup
  by_cases hother : other = id
  · subst hother
    rw [Finmap.lookup_insert] at hlookup
    cases hlookup
    exact hid
  · rw [Finmap.lookup_insert_of_ne _ hother] at hlookup
    exact hkeyed other found hlookup

end QtradeClient.Mock
