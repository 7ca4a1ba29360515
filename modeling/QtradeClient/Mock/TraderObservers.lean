import QtradeClient.Library.Unwinding
import QtradeClient.Mock.TraderCalls
import QtradeClient.Mock.TraderQueries

/-!
# Observers of the mock trader

The two callbacks and the SPI may be set and removed between any two calls.  The
source asks for the trade callback before it fills, so the market is the same for all
observers in exactly those runs in which that question never decides.
-/

namespace QtradeClient.Mock

open Sdk Library

inductive ObserverCall where
  | setOrderCallback (set : Bool)
  | setTradeCallback (set : Bool)
  | registerSpi
  | unregisterSpi

inductive ApiCall where
  | trading (call : TradingCall)
  | observer (call : ObserverCall)

def ApiCall.isTrading : ApiCall → Bool
  | .trading _ => true
  | .observer _ => false

namespace MockTraderApi

def setOrderCallback (api : MockTraderApi) (set : Bool) : MockTraderApi :=
  { api with onOrder := set }

def setTradeCallback (api : MockTraderApi) (set : Bool) : MockTraderApi :=
  { api with onTrade := set }

def registerSpi (api : MockTraderApi) : MockTraderApi := { api with mockSpi := ⟨true⟩ }

def unregisterSpi (api : MockTraderApi) : MockTraderApi := { api with mockSpi := ⟨false⟩ }

def observe (api : MockTraderApi) : ObserverCall → MockTraderApi
  | .setOrderCallback set => api.setOrderCallback set
  | .setTradeCallback set => api.setTradeCallback set
  | .registerSpi => api.registerSpi
  | .unregisterSpi => api.unregisterSpi

def replyTo (defaults : Defaults) (api : MockTraderApi) : ApiCall → Reply
  | .trading call => api.perform defaults call
  | .observer call => .silent (api.observe call)

def next (defaults : Defaults) (api : MockTraderApi) (call : ApiCall) : MockTraderApi :=
  (api.replyTo defaults call).api

/-- What the trading calls of a run return, in order. -/
def outcomes (defaults : Defaults) (api : MockTraderApi) (calls : List ApiCall) : List Outcome :=
  Unwinding.outputs (next defaults) ApiCall.isTrading
    (fun api call => (api.replyTo defaults call).outcome) api calls

/-- The two stores, and so the answers to all queries, are the same. -/
structure SameMarket (blank : Position) (first second : MockTraderApi) : Prop where
  orders : first.orders = second.orders
  trades : first.trades = second.trades
  queryOrders : ∀ request, first.queryOrders request = second.queryOrders request
  queryTrades : ∀ request, first.queryTrades request = second.queryTrades request
  queryPositions : ∀ request response,
    queryPositions blank first request response = queryPositions blank second request response

/-- With auto-fill on, an order that is sent ends filled and its trade is recorded. -/
def FillsSent (defaults : Defaults) (api : MockTraderApi) : ApiCall → Prop
  | .trading (.order (.sendOrder request)) =>
      api.connected = true → api.autoFill = true →
        (∃ order, (api.sendOrder defaults request).api.orders.lookup (api.assignedId request) =
          some order ∧ order.status = .kFilled) ∧
        ∃ trade, (api.sendOrder defaults request).api.trades = api.trades ++ [trade] ∧
          trade.brokerOrderId = api.assignedId request
  | _ => True

/-- Whoever sends an order with auto-fill on does so while a trade callback is set. -/
def Heard (api : MockTraderApi) : ApiCall → Prop
  | .trading (.order (.sendOrder _)) =>
      api.connected = true → api.autoFill = true → api.onTrade = true
  | _ => True

instance decidableHeard (api : MockTraderApi) : (call : ApiCall) → Decidable (Heard api call)
  | .trading (.order (.sendOrder _)) =>
      inferInstanceAs (Decidable (api.connected = true → api.autoFill = true →
        api.onTrade = true))
  | .trading (.order (.cancelOrder _)) => isTrue trivial
  | .trading .connect => isTrue trivial
  | .trading .disconnect => isTrue trivial
  | .trading .release => isTrue trivial
  | .trading (.setAutoFill _) => isTrue trivial
  | .observer _ => isTrue trivial

/-! ## One call -/

section Steps

variable {defaults : Defaults} {api : MockTraderApi}

theorem sendOrder_heard_iff (request : OrderRequest) :
    FillsSent defaults api (.trading (.order (.sendOrder request))) ↔
      Heard api (.trading (.order (.sendOrder request))) := by
  refine forall₂_congr fun hup hauto => ?_
  cases htrade : api.onTrade with
  | false =>
      have hrest : api.fills = false := by rw [fills, htrade, Bool.and_false]
      rw [sendOrder_resting hup hrest]
      refine iff_of_false ?_ (by decide)
      rintro ⟨⟨order, hstored, hfilled⟩, -⟩
      rw [storeOrder_orders, Finmap.lookup_insert] at hstored
      cases hstored
      cases hfilled
  | true =>
      have hfill : api.fills = true := by rw [fills, hauto, htrade, Bool.and_self]
      rw [sendOrder_filling hup hfill]
      exact iff_of_true ⟨⟨_, Finmap.lookup_insert _, rfl⟩, _, rfl, rfl⟩ rfl

theorem fillsSent_iff_heard (call : ApiCall) :
    FillsSent defaults api call ↔ Heard api call := by
  cases call with
  | observer call => exact Iff.rfl
  | trading call =>
      cases call with
      | order call =>
          cases call with
          | sendOrder request => exact sendOrder_heard_iff request
          | cancelOrder request => exact Iff.rfl
      | _ => exact Iff.rfl

/-- The trader as it would be with everyone listening. -/
def overheard (api : MockTraderApi) : MockTraderApi :=
  { api with mockSpi := ⟨true⟩, onOrder := true, onTrade := true }

theorem overheard_allocate (request : OrderRequest) :
    (overheard api).allocate request = overheard (api.allocate request) := by
  unfold allocate
  split <;> rfl

theorem sendOrder_overheard (request : OrderRequest)
    (hheard : Heard api (.trading (.order (.sendOrder request)))) :
    (api.sendOrder defaults request).outcome =
        ((overheard api).sendOrder defaults request).outcome ∧
      overheard (api.sendOrder defaults request).api =
        overheard ((overheard api).sendOrder defaults request).api := by
  cases hup : api.connected with
  | false =>
      have hup' : (overheard api).connected = false := hup
      rw [sendOrder_disconnected hup, sendOrder_disconnected hup']
      exact ⟨rfl, rfl⟩
  | true =>
      have hup' : (overheard api).connected = true := hup
      cases hauto : api.autoFill with
      | false =>
          have hrest : api.fills = false := by rw [fills, hauto, Bool.false_and]
          have hrest' : (overheard api).fills = false := by
            change (api.autoFill && true) = false
            rw [hauto, Bool.false_and]
          rw [sendOrder_resting hup hrest, sendOrder_resting hup' hrest', overheard_allocate]
          exact ⟨rfl, rfl⟩
      | true =>
          have hfill : api.fills = true := by
            rw [fills, hauto, hheard hup hauto, Bool.and_self]
          have hfill' : (overheard api).fills = true := by
            change (api.autoFill && true) = true
            rw [hauto, Bool.and_self]
          rw [sendOrder_filling hup hfill, sendOrder_filling hup' hfill', overheard_allocate]
          exact ⟨rfl, rfl⟩

theorem cancelOrder_overheard (request : CancelOrderRequest) :
    (api.cancelOrder request).outcome = ((overheard api).cancelOrder request).outcome ∧
      overheard (api.cancelOrder request).api =
        overheard ((overheard api).cancelOrder request).api := by
  have hmarks : (overheard api).markCanceled request =
      (api.markCanceled request).map fun marked => (marked.1, overheard marked.2) := by
    have horders : (overheard api).orders = api.orders := rfl
    unfold markCanceled
    rw [horders]
    cases api.orders.lookup request.brokerOrderId with
    | none => rfl
    | some stored => cases hterminal : stored.status.isTerminal <;> simp [hterminal] <;> rfl
  unfold cancelOrder
  rw [hmarks]
  change _ = (if api.connected = true then _ else _ : Reply).outcome ∧
    _ = overheard (if api.connected = true then _ else _ : Reply).api
  cases api.connected with
  | false => exact ⟨rfl, rfl⟩
  | true =>
      cases api.markCanceled request with
      | error code => exact ⟨rfl, rfl⟩
      | ok marked => exact ⟨rfl, rfl⟩

theorem perform_overheard (call : TradingCall) (hheard : Heard api (.trading call)) :
    (api.perform defaults call).outcome = ((overheard api).perform defaults call).outcome ∧
      overheard (api.perform defaults call).api =
        overheard ((overheard api).perform defaults call).api := by
  cases call with
  | connect => exact ⟨rfl, rfl⟩
  | disconnect => exact ⟨rfl, rfl⟩
  | release => exact ⟨rfl, rfl⟩
  | setAutoFill autoFill => exact ⟨rfl, rfl⟩
  | order call =>
      cases call with
      | sendOrder request => exact sendOrder_overheard request hheard
      | cancelOrder request => exact cancelOrder_overheard request

end Steps

/-! ## Whole runs -/

/-- Setting an observer is hidden from the market, and a trading call that is heard
depends on nothing else. -/
theorem unwinds_heard (defaults : Defaults) :
    Unwinding.Unwinds (next defaults) Heard ApiCall.isTrading
      (fun api call => (api.replyTo defaults call).outcome) overheard where
  hidden := by
    intro api call hhidden
    cases call with
    | trading call => cases hhidden
    | observer call => cases call <;> rfl
  follows := by
    intro api other call hvisible hapi hother hview
    cases call with
    | observer call => cases hvisible
    | trading call =>
        change overheard (api.perform defaults call).api =
          overheard (other.perform defaults call).api
        rw [(perform_overheard call hapi).2, (perform_overheard call hother).2, hview]
  puts := by
    intro api other call hvisible hapi hother hview
    cases call with
    | observer call => cases hvisible
    | trading call =>
        change (api.perform defaults call).outcome = (other.perform defaults call).outcome
        rw [(perform_overheard call hapi).1, (perform_overheard call hother).1, hview]

theorem sameMarket_of_overheard (blank : Position) {first second : MockTraderApi}
    (hsame : overheard first = overheard second) : SameMarket blank first second := by
  have horders := congrArg MockTraderApi.orders hsame
  have htrades := congrArg MockTraderApi.trades hsame
  change first.orders = second.orders at horders
  change first.trades = second.trades at htrades
  constructor
  · exact horders
  · exact htrades
  · intro request
    rw [queryOrders, queryOrders, horders]
  · intro request
    rw [queryTrades, queryTrades, htrades]
  · intro request response
    rw [queryPositions, queryPositions, htrades]

/-- Two runs with the same trading calls have the same outcomes, stores and answers, and
fill what they send with auto-fill on, if and only if neither sends an order with
auto-fill on and no trade callback set. -/
theorem observers_hidden_iff (defaults : Defaults) (blank : Position)
    {calls others : List ApiCall}
    (hsame : calls.filter ApiCall.isTrading = others.filter ApiCall.isTrading) :
    (outcomes defaults create calls = outcomes defaults create others ∧
      SameMarket blank (calls.foldl (next defaults) create)
        (others.foldl (next defaults) create) ∧
      Runs.Along (Runs.total (next defaults)) (FillsSent defaults) create calls ∧
      Runs.Along (Runs.total (next defaults)) (FillsSent defaults) create others) ↔
    Runs.Along (Runs.total (next defaults)) Heard create calls ∧
      Runs.Along (Runs.total (next defaults)) Heard create others := by
  have hfilled (calls : List ApiCall) :
      Runs.Along (Runs.total (next defaults)) (FillsSent defaults) create calls ↔
        Runs.Along (Runs.total (next defaults)) Heard create calls :=
    Runs.along_iff (fun _ => fillsSent_iff_heard) calls
  rw [hfilled calls, hfilled others]
  constructor
  · rintro ⟨-, -, hheard⟩
    exact hheard
  · rintro ⟨hcalls, hothers⟩
    obtain ⟨houtcomes, hmarket⟩ :=
      (unwinds_heard defaults).indistinguishable rfl hcalls hothers hsame
    exact ⟨houtcomes, sameMarket_of_overheard blank hmarket, hcalls, hothers⟩

/-- A connected trader that sends one order. -/
def sendsOne : List ApiCall := [.trading .connect, .trading (.order (.sendOrder (.buyOne 0)))]

theorem observers_hidden_iff_listened :
    let listened := ApiCall.observer (.setTradeCallback true) :: sendsOne
    let told := ApiCall.observer (.setOrderCallback true) :: listened
    SameMarket .flat (listened.foldl (next .zero) create) (told.foldl (next .zero) create) := by
  intro listened told
  have hlistened : Runs.Along (Runs.total (next .zero)) Heard create listened := by decide
  have htold : Runs.Along (Runs.total (next .zero)) Heard create told := by decide
  have hsame : listened.filter ApiCall.isTrading = told.filter ApiCall.isTrading := rfl
  exact ((observers_hidden_iff .zero .flat hsame).mpr ⟨hlistened, htold⟩).2.1

/-- The trade callback alone decides whether the order is filled and the trade kept. -/
theorem observer_fills :
    let unheard := sendsOne
    let heard := ApiCall.observer (.setTradeCallback true) :: sendsOne
    unheard.filter ApiCall.isTrading = heard.filter ApiCall.isTrading ∧
      ¬ SameMarket .flat (unheard.foldl (next .zero) create) (heard.foldl (next .zero) create) := by
  intro unheard heard
  refine ⟨rfl, fun hsame => ?_⟩
  have hlength := congrArg List.length hsame.trades
  revert hlength
  decide

end MockTraderApi

end QtradeClient.Mock
