import QtradeClient.Library.Runs
import QtradeClient.Mock.TraderApi

/-!
# Sequential calls on the mock trader

A sequential caller waits for each call to return, and its observers do not call
back.  A session keeps the trader together with everything delivered so far.
-/

namespace QtradeClient.Mock

open Sdk

inductive OrderCall where
  | sendOrder (request : OrderRequest)
  | cancelOrder (request : CancelOrderRequest)

inductive TradingCall where
  | connect
  | disconnect
  | release
  | setAutoFill (autoFill : Bool)
  | order (call : OrderCall)

/-- A call that returns nothing and delivers nothing. -/
def Reply.silent (api : MockTraderApi) : Reply := ⟨.returned .kSuccess, [], api⟩

/-- The call ended with an error code or an exception. -/
def Reply.failed (reply : Reply) : Prop := reply.outcome ≠ .returned .kSuccess

namespace MockTraderApi

def performOrder (defaults : Defaults) (api : MockTraderApi) : OrderCall → Reply
  | .sendOrder request => api.sendOrder defaults request
  | .cancelOrder request => api.cancelOrder request

def perform (defaults : Defaults) (api : MockTraderApi) : TradingCall → Reply
  | .connect => api.connect
  | .disconnect => .silent api.disconnect
  | .release => .silent api.release
  | .setAutoFill autoFill => .silent (api.setAutoFill autoFill)
  | .order call => api.performOrder defaults call

/-! ## The three ways through `SendOrder`, the two through `CancelOrder` -/

variable {defaults : Defaults} {api : MockTraderApi}

theorem sendOrder_disconnected (hdown : api.connected = false) (request : OrderRequest) :
    api.sendOrder defaults request = ⟨.returned .kConnectionError, [], api⟩ := by
  simp [sendOrder, hdown]

theorem sendOrder_resting (hup : api.connected = true) (hrest : api.fills = false)
    (request : OrderRequest) :
    let order := newOrder defaults request (api.assignedId request)
    api.sendOrder defaults request =
      ⟨.returned .kSuccess, api.publishOrder order,
        (api.allocate request).storeOrder (api.assignedId request) order⟩ := by
  simp only [sendOrder, hup, if_true, storeOrder_fills, allocate_fills, hrest,
    Bool.false_eq_true, if_false, publishOrder, storeOrder_onOrder, allocate_onOrder]

/-- A filling call in terms of its last locked section. -/
theorem sendOrder_pieces (hup : api.connected = true) (hfill : api.fills = true)
    (request : OrderRequest) :
    let id := api.assignedId request
    let order := newOrder defaults request id
    let stored := (api.allocate request).storeOrder id order
    let trade := newTrade defaults request id stored.nextTradeId
    let filled := stored.takeTradeId.fill id trade
    api.sendOrder defaults request =
      ⟨filled.1, api.publishOrder order ++ [.onTrade trade], filled.2⟩ := by
  simp only [sendOrder, hup, if_true, storeOrder_fills, allocate_fills, hfill, publishOrder,
    storeOrder_onOrder, allocate_onOrder]

/-- The entry just stored is found by the fill, so an uninterrupted call does not
raise. -/
theorem sendOrder_filling (hup : api.connected = true) (hfill : api.fills = true)
    (request : OrderRequest) :
    let id := api.assignedId request
    let order := newOrder defaults request id
    let trade := newTrade defaults request id api.nextTradeId
    api.sendOrder defaults request =
      ⟨.returned .kSuccess, api.publishOrder order ++ [.onTrade trade],
        { (api.allocate request).takeTradeId with
          trades := api.trades ++ [trade]
          orders := api.orders.insert id (filledBy order trade) }⟩ := by
  have hstored : ((api.allocate request).storeOrder (api.assignedId request)
      (newOrder defaults request (api.assignedId request))).takeTradeId.orders.lookup
        (api.assignedId request) = some (newOrder defaults request (api.assignedId request)) := by
    rw [takeTradeId_orders, storeOrder_orders, Finmap.lookup_insert]
  have hfilled := fill_of_lookup hstored
    (newTrade defaults request (api.assignedId request) api.nextTradeId)
  rw [sendOrder_pieces hup hfill, storeOrder_nextTradeId, allocate_nextTradeId, hfilled]
  simp [storeOrder, takeTradeId, Finmap.insert_insert]

theorem cancelOrder_cases (api : MockTraderApi) (request : CancelOrderRequest) :
    (∃ code, code ≠ .kSuccess ∧ api.cancelOrder request = ⟨.returned code, [], api⟩) ∨
    (∃ stored, api.connected = true ∧
      api.orders.lookup request.brokerOrderId = some stored ∧
      stored.status.isTerminal = false ∧
      api.cancelOrder request =
        ⟨.returned .kSuccess, api.publishOrder (canceledBy stored request),
          { api with
            orders := api.orders.insert request.brokerOrderId
              (canceledBy stored request) }⟩) := by
  unfold cancelOrder
  cases hup : api.connected with
  | false => exact .inl ⟨.kConnectionError, by decide, by simp⟩
  | true =>
      cases hmark : api.markCanceled request with
      | error code => exact .inl ⟨code, markCanceled_error hmark, by simp⟩
      | ok marked =>
          obtain ⟨canceled, after⟩ := marked
          obtain ⟨stored, hstored, hterminal, rfl, rfl⟩ := markCanceled_ok hmark
          exact .inr ⟨stored, rfl, hstored, hterminal, by simp [publishOrder, hup]⟩

/-- What `SendOrder` leaves behind when it is accepted: one entry written, under
the id it was assigned. -/
structure Accepted (api : MockTraderApi) (request : OrderRequest) (order : Order)
    (reply : Reply) : Prop where
  connected : api.connected = true
  outcome : reply.outcome = .returned .kSuccess
  filed : order.brokerOrderId = api.assignedId request
  orders : reply.api.orders = api.orders.insert (api.assignedId request) order
  counter : reply.api.nextBrokerOrderId = (api.allocate request).nextBrokerOrderId
  stillConnected : reply.api.connected = true
  onOrder : reply.api.onOrder = api.onOrder

theorem sendOrder_accepted (defaults : Defaults) (hup : api.connected = true)
    (request : OrderRequest) :
    ∃ order, Accepted api request order (api.sendOrder defaults request) := by
  cases hfill : api.fills with
  | false =>
      refine ⟨newOrder defaults request (api.assignedId request), ?_⟩
      rw [sendOrder_resting hup hfill]
      exact ⟨hup, rfl, rfl, by simp, rfl, by simp [storeOrder, hup], by simp⟩
  | true =>
      refine ⟨filledBy (newOrder defaults request (api.assignedId request))
        (newTrade defaults request (api.assignedId request) api.nextTradeId), ?_⟩
      rw [sendOrder_filling hup hfill]
      exact ⟨hup, rfl, rfl, rfl, rfl, by simp [takeTradeId, hup], by simp [takeTradeId]⟩

/-- The ways through `SendOrder` in one statement. -/
theorem sendOrder_cases (defaults : Defaults) (api : MockTraderApi) (request : OrderRequest) :
    (api.connected = false ∧
      api.sendOrder defaults request = ⟨.returned .kConnectionError, [], api⟩) ∨
    ∃ order, Accepted api request order (api.sendOrder defaults request) := by
  cases hup : api.connected with
  | false => exact .inl ⟨rfl, sendOrder_disconnected hup request⟩
  | true => exact .inr (sendOrder_accepted defaults hup request)

theorem perform_onOrder (defaults : Defaults) (api : MockTraderApi) (call : TradingCall) :
    (api.perform defaults call).api.onOrder = api.onOrder := by
  cases call with
  | connect => rfl
  | disconnect => rfl
  | release => rfl
  | setAutoFill autoFill => rfl
  | order call =>
      cases call with
      | sendOrder request =>
          change (api.sendOrder defaults request).api.onOrder = _
          rcases sendOrder_cases defaults api request with ⟨-, hreply⟩ | ⟨order, haccepted⟩
          · rw [hreply]
          · exact haccepted.onOrder
      | cancelOrder request =>
          change (api.cancelOrder request).api.onOrder = _
          rcases cancelOrder_cases api request with ⟨_, -, hreply⟩ | ⟨_, -, -, -, hreply⟩ <;>
            rw [hreply]

theorem perform_keyed {api : MockTraderApi} (defaults : Defaults) (hkeyed : Keyed api.orders)
    (call : TradingCall) : Keyed (api.perform defaults call).api.orders := by
  cases call with
  | connect => exact hkeyed
  | disconnect => exact hkeyed
  | release => exact hkeyed
  | setAutoFill autoFill => exact hkeyed
  | order call =>
      cases call with
      | sendOrder request =>
          change Keyed (api.sendOrder defaults request).api.orders
          rcases sendOrder_cases defaults api request with ⟨-, hreply⟩ | ⟨order, haccepted⟩
          · rw [hreply]
            exact hkeyed
          · rw [haccepted.orders]
            exact hkeyed.insert haccepted.filed
      | cancelOrder request =>
          change Keyed (api.cancelOrder request).api.orders
          rcases cancelOrder_cases api request with
            ⟨_, -, hreply⟩ | ⟨stored, -, hstored, -, hreply⟩
          · rw [hreply]
            exact hkeyed
          · have hkey : (canceledBy stored request).brokerOrderId = request.brokerOrderId :=
              hkeyed _ stored hstored
            rw [hreply]
            exact hkeyed.insert hkey

end MockTraderApi

/-! ## Sessions -/

structure Session where
  api : MockTraderApi
  delivered : List Delivery

namespace Session

/-- A session that begins with nothing delivered. -/
def start (api : MockTraderApi) : Session := ⟨api, []⟩

def next (defaults : Defaults) (session : Session) (call : TradingCall) : Session :=
  let reply := session.api.perform defaults call
  ⟨reply.api, session.delivered ++ reply.deliveries⟩

def run (defaults : Defaults) (session : Session) (calls : List TradingCall) : Session :=
  calls.foldl (next defaults) session

end Session

end QtradeClient.Mock
