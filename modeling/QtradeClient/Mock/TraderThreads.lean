import QtradeClient.Library.Concurrent
import QtradeClient.Mock.TraderCalls

/-!
# Overlapping calls on the mock trader

Each call of `SendOrder` or `CancelOrder` is a frame that moves from one atomic
piece to the next.  Frames of any number of calls share one trader.  A callback
runs from the step that delivers its event to the next step of the same frame, so
a call made from inside a callback is one whose steps fall in between.
-/

namespace QtradeClient.Mock

open Sdk Library MockTraderApi

/-- Where a call stands: what it has done so far. -/
inductive Frame where
  | sendEntered (request : OrderRequest)
  | sendConnected (request : OrderRequest)
  | allocated (request : OrderRequest) (id : UInt64)
  | stored (request : OrderRequest) (id : UInt64)
  | ordered (request : OrderRequest) (id : UInt64)
  | trading (request : OrderRequest) (id : UInt64) (trade : Trade)
  | announced (request : OrderRequest) (id : UInt64) (trade : Trade)
  | sendReturned (request : OrderRequest) (outcome : Outcome)
  | cancelEntered (request : CancelOrderRequest)
  | cancelConnected (request : CancelOrderRequest)
  | marked (request : CancelOrderRequest) (canceled : Order)
  | notified (request : CancelOrderRequest) (canceled : Order)
  | cancelReturned (request : CancelOrderRequest) (outcome : Outcome)

inductive Outside where
  | connect
  | disconnect
  | setAutoFill (autoFill : Bool)

namespace Frame

def enter : OrderCall → Frame
  | .sendOrder request => .sendEntered request
  | .cancelOrder request => .cancelEntered request

/-- One atomic piece of a call.  A returned call does not advance. -/
def advance (defaults : Defaults) (api : MockTraderApi) :
    Frame → Option (Frame × MockTraderApi × List Delivery)
  | .sendEntered request =>
      if api.connected then some (.sendConnected request, api, [])
      else some (.sendReturned request (.returned .kConnectionError), api, [])
  | .sendConnected request =>
      some (.allocated request (api.assignedId request), api.allocate request, [])
  | .allocated request id =>
      some (.stored request id, api.storeOrder id (newOrder defaults request id), [])
  | .stored request id =>
      some (.ordered request id, api, api.publishOrder (newOrder defaults request id))
  | .ordered request id =>
      if api.fills then
        some (.trading request id (newTrade defaults request id api.nextTradeId),
          api.takeTradeId, [])
      else some (.sendReturned request (.returned .kSuccess), api, [])
  | .trading request id trade => some (.announced request id trade, api, [.onTrade trade])
  | .announced request id trade =>
      some (.sendReturned request (api.fill id trade).1, (api.fill id trade).2, [])
  | .sendReturned .. => none
  | .cancelEntered request =>
      if api.connected then some (.cancelConnected request, api, [])
      else some (.cancelReturned request (.returned .kConnectionError), api, [])
  | .cancelConnected request =>
      match api.markCanceled request with
      | .error code => some (.cancelReturned request (.returned code), api, [])
      | .ok (canceled, after) => some (.marked request canceled, after, [])
  | .marked request canceled =>
      some (.notified request canceled, api, api.publishOrder canceled)
  | .notified request _ => some (.cancelReturned request (.returned .kSuccess), api, [])
  | .cancelReturned .. => none

/-- The id under which the next piece of a call stores an order. -/
def storing? : Frame → Option UInt64
  | .allocated _ id => some id
  | _ => none

/-- The order a `SendOrder` has stored and not yet finished with. -/
def openOrder? : Frame → Option (OrderRequest × UInt64)
  | .stored request id => some (request, id)
  | .ordered request id => some (request, id)
  | .trading request id _ => some (request, id)
  | .announced request id _ => some (request, id)
  | _ => none

/-- The trade a `SendOrder` has made and not yet appended. -/
def pendingTrade? : Frame → Option Trade
  | .trading _ _ trade => some trade
  | .announced _ _ trade => some trade
  | _ => none

/-- The id of the order that a `CancelOrder` has marked. -/
def canceledId? : Frame → Option UInt64
  | .marked request _ => some request.brokerOrderId
  | .notified request _ => some request.brokerOrderId
  | .cancelReturned request (.returned .kSuccess) => some request.brokerOrderId
  | _ => none

end Frame

def changeOutside (change : Outside) (api : MockTraderApi) : MockTraderApi × List Delivery :=
  match change with
  | .connect => (api.connect.api, api.connect.deliveries)
  | .disconnect => (api.disconnect, [])
  | .setAutoFill autoFill => (api.setAutoFill autoFill, [])

abbrev TraderPool := Concurrent.Pool MockTraderApi Frame Delivery

abbrev TraderLabel := Concurrent.Label OrderCall Unit Outside

/-- The machine of the overlapping calls. -/
def traderMachine (defaults : Defaults) :
    Concurrent.Machine MockTraderApi Frame OrderCall Unit Outside Delivery where
  enter := Frame.enter
  advance _ api frame := frame.advance defaults api
  outside := changeOutside

abbrev traderStep (defaults : Defaults) : TraderPool → TraderLabel → Option TraderPool :=
  Concurrent.step (traderMachine defaults)

/-! ## What one step of a frame does -/

/-- The steps of a call, one for each way through a piece. -/
inductive Frame.Moves (defaults : Defaults) (api : MockTraderApi) :
    Frame → Frame → MockTraderApi → List Delivery → Prop where
  | enterSend (request : OrderRequest) :
      Moves defaults api (.sendEntered request) (.sendConnected request) api []
  | refuseSend (request : OrderRequest) :
      Moves defaults api (.sendEntered request)
        (.sendReturned request (.returned .kConnectionError)) api []
  | allocate (request : OrderRequest) :
      Moves defaults api (.sendConnected request) (.allocated request (api.assignedId request))
        (api.allocate request) []
  | store (request : OrderRequest) (id : UInt64) :
      Moves defaults api (.allocated request id) (.stored request id)
        (api.storeOrder id (newOrder defaults request id)) []
  | order (request : OrderRequest) (id : UInt64) :
      Moves defaults api (.stored request id) (.ordered request id) api
        (api.publishOrder (newOrder defaults request id))
  | makeTrade (request : OrderRequest) (id : UInt64) (fills : api.fills = true) :
      Moves defaults api (.ordered request id)
        (.trading request id (newTrade defaults request id api.nextTradeId)) api.takeTradeId []
  | rest (request : OrderRequest) (id : UInt64) :
      Moves defaults api (.ordered request id) (.sendReturned request (.returned .kSuccess)) api []
  | announce (request : OrderRequest) (id : UInt64) (trade : Trade) :
      Moves defaults api (.trading request id trade) (.announced request id trade) api
        [.onTrade trade]
  | fill (request : OrderRequest) (id : UInt64) (trade : Trade) :
      Moves defaults api (.announced request id trade)
        (.sendReturned request (api.fill id trade).1) (api.fill id trade).2 []
  | enterCancel (request : CancelOrderRequest) :
      Moves defaults api (.cancelEntered request) (.cancelConnected request) api []
  | refuseCancel (request : CancelOrderRequest) :
      Moves defaults api (.cancelEntered request)
        (.cancelReturned request (.returned .kConnectionError)) api []
  | refuseMark (request : CancelOrderRequest) (code : ErrorCode)
      (marks : api.markCanceled request = .error code) :
      Moves defaults api (.cancelConnected request)
        (.cancelReturned request (.returned code)) api []
  | mark (request : CancelOrderRequest) (canceled : Order) (after : MockTraderApi)
      (marks : api.markCanceled request = .ok (canceled, after)) :
      Moves defaults api (.cancelConnected request) (.marked request canceled) after []
  | notify (request : CancelOrderRequest) (canceled : Order) :
      Moves defaults api (.marked request canceled) (.notified request canceled) api
        (api.publishOrder canceled)
  | finish (request : CancelOrderRequest) (canceled : Order) :
      Moves defaults api (.notified request canceled)
        (.cancelReturned request (.returned .kSuccess)) api []

theorem advance_moves {defaults : Defaults} {api result : MockTraderApi} {frame next : Frame}
    {emitted : List Delivery}
    (hadvance : frame.advance defaults api = some (next, result, emitted)) :
    frame.Moves defaults api next result emitted := by
  cases frame with
  | sendEntered request =>
      simp only [Frame.advance] at hadvance
      split at hadvance <;> cases hadvance
      · exact .enterSend request
      · exact .refuseSend request
  | sendConnected request => cases hadvance; exact .allocate request
  | allocated request id => cases hadvance; exact .store request id
  | stored request id => cases hadvance; exact .order request id
  | ordered request id =>
      simp only [Frame.advance] at hadvance
      split at hadvance <;> cases hadvance
      · exact .makeTrade request id ‹_›
      · exact .rest request id
  | trading request id trade => cases hadvance; exact .announce request id trade
  | announced request id trade => cases hadvance; exact .fill request id trade
  | sendReturned request outcome => cases hadvance
  | cancelEntered request =>
      simp only [Frame.advance] at hadvance
      split at hadvance <;> cases hadvance
      · exact .enterCancel request
      · exact .refuseCancel request
  | cancelConnected request =>
      simp only [Frame.advance] at hadvance
      cases hmark : api.markCanceled request with
      | error code =>
          rw [hmark] at hadvance
          cases hadvance
          exact .refuseMark request code hmark
      | ok marked =>
          rw [hmark] at hadvance
          cases hadvance
          exact .mark request _ _ hmark
  | marked request canceled => cases hadvance; exact .notify request canceled
  | notified request canceled => cases hadvance; exact .finish request canceled
  | cancelReturned request outcome => cases hadvance

/-- The steps that matter to the two stores; every other step is passive. -/
inductive Effect (defaults : Defaults) (api : MockTraderApi) :
    Frame → Frame → MockTraderApi → List Delivery → Prop where
  | passive {frame next : Frame} {result : MockTraderApi} {emitted : List Delivery}
      (orders : result.orders = api.orders)
      (trades : result.trades = api.trades)
      (counter : result.nextTradeId = api.nextTradeId)
      (openOrder : next.openOrder? = none ∨ next.openOrder? = frame.openOrder?)
      (notPending : frame.pendingTrade? = none)
      (stillNotPending : next.pendingTrade? = none)
      (canceled : next.canceledId? = frame.canceledId?)
      (noTrade : ∀ trade, Delivery.onTrade trade ∉ emitted) :
      Effect defaults api frame next result emitted
  | store (request : OrderRequest) (id : UInt64) :
      Effect defaults api (.allocated request id) (.stored request id)
        (api.storeOrder id (newOrder defaults request id)) []
  | makeTrade (request : OrderRequest) (id : UInt64) (fills : api.fills = true) :
      Effect defaults api (.ordered request id)
        (.trading request id (newTrade defaults request id api.nextTradeId))
        api.takeTradeId []
  | announce (request : OrderRequest) (id : UInt64) (trade : Trade) :
      Effect defaults api (.trading request id trade) (.announced request id trade)
        api [.onTrade trade]
  | fill (request : OrderRequest) (id : UInt64) (trade : Trade) :
      Effect defaults api (.announced request id trade)
        (.sendReturned request (api.fill id trade).1) (api.fill id trade).2 []
  | mark (request : CancelOrderRequest) (canceled : Order) (after : MockTraderApi)
      (marks : api.markCanceled request = .ok (canceled, after)) :
      Effect defaults api (.cancelConnected request) (.marked request canceled) after []

theorem publishOrder_noTrade (api : MockTraderApi) (order : Order) (trade : Trade) :
    Delivery.onTrade trade ∉ api.publishOrder order := by
  unfold publishOrder
  split <;> simp

theorem advance_effect {defaults : Defaults} {api result : MockTraderApi} {frame next : Frame}
    {emitted : List Delivery}
    (hadvance : frame.advance defaults api = some (next, result, emitted)) :
    Effect defaults api frame next result emitted := by
  cases advance_moves hadvance with
  | enterSend request => exact .passive rfl rfl rfl (.inl rfl) rfl rfl rfl (by simp)
  | refuseSend request => exact .passive rfl rfl rfl (.inl rfl) rfl rfl rfl (by simp)
  | allocate request =>
      exact .passive (allocate_orders api request) (allocate_trades api request)
        (allocate_nextTradeId api request) (.inl rfl) rfl rfl rfl (by simp)
  | store request id => exact .store request id
  | order request id =>
      exact .passive rfl rfl rfl (.inr rfl) rfl rfl rfl (publishOrder_noTrade api _)
  | makeTrade request id hfills => exact .makeTrade request id hfills
  | rest request id => exact .passive rfl rfl rfl (.inl rfl) rfl rfl rfl (by simp)
  | announce request id trade => exact .announce request id trade
  | fill request id trade => exact .fill request id trade
  | enterCancel request => exact .passive rfl rfl rfl (.inl rfl) rfl rfl rfl (by simp)
  | refuseCancel request => exact .passive rfl rfl rfl (.inl rfl) rfl rfl rfl (by simp)
  | refuseMark request code hmark =>
      refine .passive rfl rfl rfl (.inl rfl) rfl rfl ?_ (by simp)
      cases code with
      | kSuccess => exact absurd rfl (markCanceled_error hmark)
      | _ => rfl
  | mark request canceled _ hmark => exact .mark request canceled _ hmark
  | notify request canceled =>
      exact .passive rfl rfl rfl (.inl rfl) rfl rfl rfl (publishOrder_noTrade api _)
  | finish request canceled => exact .passive rfl rfl rfl (.inl rfl) rfl rfl rfl (by simp)

/-! ## An uninterrupted call is the sequential one -/

section Uninterrupted

open Concurrent

variable (defaults : Defaults) {api : MockTraderApi}

/-- The pieces of `SendOrder` up to the stored order and its event. -/
theorem solo_ordered (hup : api.connected = true) (request : OrderRequest) :
    let order := newOrder defaults request (api.assignedId request)
    let stored := (api.allocate request).storeOrder (api.assignedId request) order
    Solo (traderMachine defaults) () 4 api (.sendEntered request) stored
      (.ordered request (api.assignedId request)) (api.publishOrder order) := by
  intro order stored
  have hentered : (traderMachine defaults).advance () api (.sendEntered request) =
      some (.sendConnected request, api, []) := if_pos hup
  have hnotified : (traderMachine defaults).advance () stored
      (.stored request (api.assignedId request)) =
      some (.ordered request (api.assignedId request), stored, api.publishOrder order) := by
    change some (_, stored, stored.publishOrder order) = _
    simp only [publishOrder, stored, storeOrder_onOrder, allocate_onOrder]
  have hsolo := Solo.step hentered (.step rfl (.step rfl (.step hnotified (.refl _ _))))
  simpa only [List.nil_append, List.append_nil] using hsolo

/-- Left alone, the atomic pieces of `SendOrder` compose to the whole call. -/
theorem sendOrder_solo (api : MockTraderApi) (request : OrderRequest) :
    ∃ count, Solo (traderMachine defaults) () count api (.sendEntered request)
      (api.sendOrder defaults request).api
      (.sendReturned request (api.sendOrder defaults request).outcome)
      (api.sendOrder defaults request).deliveries := by
  cases hup : api.connected with
  | false =>
      rw [sendOrder_disconnected hup]
      have hrefused : (traderMachine defaults).advance () api (.sendEntered request) =
          some (.sendReturned request (.returned .kConnectionError), api, []) :=
        if_neg (by simp [hup])
      exact ⟨1, .step hrefused (.refl _ _)⟩
  | true =>
      have hordered := solo_ordered defaults hup request
      cases hfill : api.fills with
      | false =>
          rw [sendOrder_resting hup hfill]
          have hrested : (traderMachine defaults).advance ()
              ((api.allocate request).storeOrder (api.assignedId request)
                (newOrder defaults request (api.assignedId request)))
              (.ordered request (api.assignedId request)) = some (_, _, []) :=
            if_neg (by simp [hfill])
          have hsolo := hordered.trans (.step hrested (.refl _ _))
          simp only [List.append_nil] at hsolo
          exact ⟨5, hsolo⟩
      | true =>
          have hmade : (traderMachine defaults).advance ()
              ((api.allocate request).storeOrder (api.assignedId request)
                (newOrder defaults request (api.assignedId request)))
              (.ordered request (api.assignedId request)) = some _ :=
            if_pos (by simpa using hfill)
          rw [sendOrder_pieces hup hfill]
          have hsolo := hordered.trans (.step hmade (.step rfl (.step rfl (.refl _ _))))
          exact ⟨7, hsolo⟩

theorem cancelOrder_solo (api : MockTraderApi) (request : CancelOrderRequest) :
    ∃ count, Solo (traderMachine defaults) () count api (.cancelEntered request)
      (api.cancelOrder request).api
      (.cancelReturned request (api.cancelOrder request).outcome)
      (api.cancelOrder request).deliveries := by
  cases hup : api.connected with
  | false =>
      have hrefused : (traderMachine defaults).advance () api (.cancelEntered request) =
          some (.cancelReturned request (.returned .kConnectionError), api, []) :=
        if_neg (by simp [hup])
      have hreply : api.cancelOrder request = ⟨.returned .kConnectionError, [], api⟩ := by
        simp [cancelOrder, hup]
      rw [hreply]
      exact ⟨1, .step hrefused (.refl _ _)⟩
  | true =>
      have hentered : (traderMachine defaults).advance () api (.cancelEntered request) =
          some (.cancelConnected request, api, []) := if_pos hup
      cases hmark : api.markCanceled request with
      | error code =>
          have hrefused : (traderMachine defaults).advance () api (.cancelConnected request) =
              some (.cancelReturned request (.returned code), api, []) := by
            simp only [traderMachine, Frame.advance, hmark]
          have hreply : api.cancelOrder request = ⟨.returned code, [], api⟩ := by
            simp [cancelOrder, hup, hmark]
          rw [hreply]
          exact ⟨2, .step hentered (.step hrefused (.refl _ _))⟩
      | ok marked =>
          have hmarked : (traderMachine defaults).advance () api (.cancelConnected request) =
              some (.marked request marked.1, marked.2, []) := by
            simp only [traderMachine, Frame.advance, hmark]
          have hreply : api.cancelOrder request =
              ⟨.returned .kSuccess, marked.2.publishOrder marked.1, marked.2⟩ := by
            simp [cancelOrder, hup, hmark]
          rw [hreply]
          have hsolo := Solo.step hentered (.step hmarked (.step rfl (.step rfl (.refl _ _))))
          simp only [List.nil_append, List.append_nil] at hsolo
          exact ⟨4, hsolo⟩

/-- In a pool, a call entered last and left alone leaves the trader, its outcome and
its deliveries as the sequential call does. -/
theorem uninterrupted_sendOrder (api : MockTraderApi) (calls : List Frame) (log : List Delivery)
    (request : OrderRequest) :
    ∃ count, Runs.exec (traderStep defaults) ⟨api, calls, log⟩
        (.start (.sendOrder request) ::
          List.replicate count (.advance calls.length ())) =
      some ⟨(api.sendOrder defaults request).api,
        calls ++ [.sendReturned request (api.sendOrder defaults request).outcome],
        log ++ (api.sendOrder defaults request).deliveries⟩ := by
  obtain ⟨count, hsolo⟩ := sendOrder_solo defaults api request
  exact ⟨count, exec_solo hsolo calls log⟩

theorem uninterrupted_cancelOrder (api : MockTraderApi) (calls : List Frame) (log : List Delivery)
    (request : CancelOrderRequest) :
    ∃ count, Runs.exec (traderStep defaults) ⟨api, calls, log⟩
        (.start (.cancelOrder request) ::
          List.replicate count (.advance calls.length ())) =
      some ⟨(api.cancelOrder request).api,
        calls ++ [.cancelReturned request (api.cancelOrder request).outcome],
        log ++ (api.cancelOrder request).deliveries⟩ := by
  obtain ⟨count, hsolo⟩ := cancelOrder_solo defaults api request
  exact ⟨count, exec_solo hsolo calls log⟩

end Uninterrupted

end QtradeClient.Mock
