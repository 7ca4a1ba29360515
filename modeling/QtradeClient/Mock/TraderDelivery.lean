import QtradeClient.Library.Conservation
import QtradeClient.Mock.TraderChannels
import QtradeClient.Mock.TraderTrades

/-!
# What the callbacks are told, each thing once

A call reports to the callbacks between the sections that hold the mutex, so what an
observer has been told and what the stores say are not the same at every moment.  Each
report is accounted for nevertheless: a trade by its entry in the log or by the call that
is about to append it, an order event by the one call that is responsible for it.
-/

namespace QtradeClient.Mock

open Sdk Library MockTraderApi

/-! ## Trades -/

/-- The trade that is reported, to the callback or to the SPI. -/
def Delivery.trade? : Delivery → Option Trade
  | .onTrade trade => some trade
  | .spiTradeEvent trade _ => some trade
  | _ => none

/-- The trade that a `SendOrder` has reported and not yet appended. -/
def Frame.announced? : Frame → Option Trade
  | .announced _ _ trade => some trade
  | _ => none

theorem pendingTrade?_of_announced? (frame : Frame) (trade : Trade)
    (hannounced : frame.announced? = some trade) : frame.pendingTrade? = some trade := by
  cases frame with
  | announced request id made => exact hannounced
  | _ => cases hannounced

theorem publishOrder_trade? (api : MockTraderApi) (order : Order) :
    (api.publishOrder order).filterMap Delivery.trade? = [] := by
  unfold publishOrder
  split <;> rfl

theorem outside_noTrade (change : Outside) (api : MockTraderApi) :
    (changeOutside change api).2.filterMap Delivery.trade? = [] := by
  cases change with
  | connect =>
      change api.mockSpi.publishConnected.filterMap _ = []
      unfold MockTraderSpi.publishConnected
      split <;> rfl
  | disconnect => rfl
  | setAutoFill autoFill => rfl

/-- A trade is reported, then in the hands of its call, then in the log. -/
theorem conserves_trades (defaults : Defaults) :
    Concurrent.Conserves (traderMachine defaults) (fun _ => True) (fun _ => True)
      Delivery.trade? MockTraderApi.trades Frame.announced? where
  enters input := ⟨trivial, by cases input <;> rfl⟩
  advances {_ shared call next shared' emitted} _ _ hadvance := by
    refine ⟨trivial, trivial, ?_⟩
    rw [List.append_assoc]
    cases advance_moves hadvance with
    | allocate request =>
        rw [allocate_trades]
        exact .refl _
    | order request id =>
        rw [publishOrder_trade?]
        exact .refl _
    | fill request id trade =>
        rw [fill_trades, List.append_assoc]
        exact .refl _
    | mark request canceled after marks =>
        obtain ⟨stored, -, -, -, rfl⟩ := markCanceled_ok marks
        exact .refl _
    | notify request canceled =>
        rw [publishOrder_trade?]
        exact .refl _
    | _ => exact .refl _
  outside change {shared} _ := by
    refine ⟨trivial, ?_⟩
    change (shared.trades ++ (changeOutside change shared).2.filterMap _).Perm
      (changeOutside change shared).1.trades
    rw [outside_noTrade, List.append_nil]
    cases change <;> exact .refl _

/-- In every interleaving the trades that have been reported are those of the trade log and
those that a call is about to append to it, each of them once; and their names are
distinct. -/
theorem trades_delivered_once (defaults : Defaults) (spi : MockTraderSpi)
    (onOrder onTrade : Bool) (labels : List TraderLabel) (pool : TraderPool)
    (hrun : Runs.exec (traderStep defaults) (Concurrent.idle (.observed spi onOrder onTrade))
      labels = some pool) :
    (pool.log.filterMap Delivery.trade?).Perm
        (pool.shared.trades ++ pool.calls.filterMap Frame.announced?) ∧
      ((made pool).length < 2 ^ 64 →
        ((pool.log.filterMap Delivery.trade?).map Trade.tradeId).Nodup) := by
  have hidle : Concurrent.Accounts (fun _ => True) (fun _ => True) Delivery.trade?
      MockTraderApi.trades Frame.announced?
      (Concurrent.idle (.observed spi onOrder onTrade)) :=
    ⟨trivial, fun _ _ => trivial, .refl []⟩
  have hbalance := ((conserves_trades defaults).run hidle hrun).balance
  refine ⟨hbalance, fun hcount => ?_⟩
  have hnumbered : Numbered pool :=
    Runs.exec_preserves (fun h hstep => h.step hstep) hrun (numbered_idle spi onOrder onTrade)
  have hmade : ((made pool).map Trade.tradeId).Nodup :=
    hnumbered.names.nodup_iff.mpr (tradeNames_nodup hcount)
  apply (hbalance.map Trade.tradeId).nodup_iff.mpr
  have hannounced := Concurrent.filterMap_sublist fun call (_ : call ∈ pool.calls) =>
    pendingTrade?_of_announced? call
  exact hmade.sublist ((hannounced.append_left _).map _)

/-! ## Orders -/

/-- What an order event tells: that an order was placed, or that one was canceled. -/
inductive OrderNews where
  | placed (terms : Terms)
  | canceled (id : UInt64)

def OrderNews.canceledId? : OrderNews → Option UInt64
  | .placed _ => none
  | .canceled id => some id

def OrderNews.of (order : Order) : OrderNews :=
  if order.status = .kCanceled then .canceled order.brokerOrderId
  else .placed (orderTerms order)

/-- The order event that is delivered, to the callback or to the SPI. -/
def Delivery.orderNews? : Delivery → Option OrderNews
  | .onOrder order => some (.of order)
  | .spiOrderEvent order _ _ => some (.of order)
  | _ => none

/-- What a call has told: a send its order, unless it was refused, and a cancel its order
once it is past the notification. -/
def Frame.told? : Frame → Option OrderNews
  | .ordered request _ => some (.placed (requestTerms request))
  | .trading request _ _ => some (.placed (requestTerms request))
  | .announced request _ _ => some (.placed (requestTerms request))
  | .sendReturned _ (.returned .kConnectionError) => none
  | .sendReturned request _ => some (.placed (requestTerms request))
  | .notified request _ => some (.canceled request.brokerOrderId)
  | .cancelReturned request (.returned .kSuccess) => some (.canceled request.brokerOrderId)
  | _ => none

/-- A cancel carries the canceled snapshot of the order it names. -/
def Frame.Marks : Frame → Prop
  | .marked request canceled =>
      canceled.status = .kCanceled ∧ canceled.brokerOrderId = request.brokerOrderId
  | .notified request canceled =>
      canceled.status = .kCanceled ∧ canceled.brokerOrderId = request.brokerOrderId
  | _ => True

/-- An order callback is set, and the table is filed by id. -/
structure Telling (api : MockTraderApi) : Prop where
  onOrder : api.onOrder = true
  keyed : Keyed api.orders

theorem told?_filled (api : MockTraderApi) (request : OrderRequest) (id : UInt64)
    (trade : Trade) :
    (Frame.sendReturned request (api.fill id trade).1).told? =
      some (.placed (requestTerms request)) := by
  unfold fill
  split <;> rfl

theorem fill_telling {api : MockTraderApi} (h : Telling api) (id : UInt64) (trade : Trade) :
    Telling (api.fill id trade).2 := by
  cases hstored : api.orders.lookup id with
  | none =>
      unfold fill
      rw [hstored]
      exact ⟨h.onOrder, h.keyed⟩
  | some stored =>
      have hfiled : (filledBy stored trade).brokerOrderId = id := h.keyed id stored hstored
      rw [fill_of_lookup hstored]
      exact ⟨h.onOrder, h.keyed.insert hfiled⟩

theorem news_placed {api : MockTraderApi} (h : Telling api) (defaults : Defaults)
    (request : OrderRequest) (id : UInt64) :
    (api.publishOrder (newOrder defaults request id)).filterMap Delivery.orderNews? =
      [.placed (requestTerms request)] := by
  rw [publishOrder, if_pos h.onOrder]
  rfl

theorem news_canceled {api : MockTraderApi} (h : Telling api) {request : CancelOrderRequest}
    {canceled : Order} (hmarks : (Frame.marked request canceled).Marks) :
    (api.publishOrder canceled).filterMap Delivery.orderNews? =
      [.canceled request.brokerOrderId] := by
  obtain ⟨hstatus, hid⟩ := hmarks
  rw [publishOrder, if_pos h.onOrder, ← hid]
  exact List.filterMap_cons_some (congrArg some (if_pos hstatus))

/-- Each order event becomes the news of the call that delivers it. -/
theorem conserves_orders (defaults : Defaults) :
    Concurrent.Conserves (traderMachine defaults) Telling Frame.Marks Delivery.orderNews?
      (fun _ => []) Frame.told? where
  enters input := by cases input <;> exact ⟨trivial, rfl⟩
  advances {_ shared call next shared' emitted} h hmarks hadvance := by
    cases advance_moves hadvance with
    | enterSend request => exact ⟨h, trivial, .refl _⟩
    | refuseSend request => exact ⟨h, trivial, .refl _⟩
    | allocate request =>
        refine ⟨⟨?_, ?_⟩, trivial, .refl _⟩
        · exact (allocate_onOrder shared request).trans h.onOrder
        · exact (allocate_orders shared request).symm ▸ h.keyed
    | store request id => exact ⟨⟨h.onOrder, h.keyed.insert rfl⟩, trivial, .refl _⟩
    | order request id =>
        refine ⟨h, trivial, ?_⟩
        rw [news_placed h]
        exact .refl _
    | makeTrade request id hfills => exact ⟨⟨h.onOrder, h.keyed⟩, trivial, .refl _⟩
    | rest request id => exact ⟨h, trivial, .refl _⟩
    | announce request id trade => exact ⟨h, trivial, .refl _⟩
    | fill request id trade =>
        refine ⟨fill_telling h id trade, trivial, ?_⟩
        rw [told?_filled]
        exact .refl _
    | enterCancel request => exact ⟨h, trivial, .refl _⟩
    | refuseCancel request => exact ⟨h, trivial, .refl _⟩
    | refuseMark request code hmark =>
        rcases markCanceled_error_cases hmark with rfl | rfl <;> exact ⟨h, trivial, .refl _⟩
    | mark request canceled after hmark =>
        obtain ⟨stored, hstored, -, rfl, rfl⟩ := markCanceled_ok hmark
        have hfiled := h.keyed _ stored hstored
        exact ⟨⟨h.onOrder, h.keyed.insert hfiled⟩, ⟨rfl, hfiled⟩, .refl _⟩
    | notify request canceled =>
        refine ⟨h, hmarks, ?_⟩
        rw [news_canceled h hmarks]
        exact .refl _
    | finish request canceled => exact ⟨h, trivial, .refl _⟩
  outside change {shared} h := by
    cases change with
    | disconnect => exact ⟨⟨h.onOrder, h.keyed⟩, .refl _⟩
    | setAutoFill autoFill => exact ⟨⟨h.onOrder, h.keyed⟩, .refl _⟩
    | connect =>
        refine ⟨⟨h.onOrder, h.keyed⟩, ?_⟩
        change ([] ++ shared.mockSpi.publishConnected.filterMap _).Perm []
        unfold MockTraderSpi.publishConnected
        split <;> exact .refl _

/-- The orders that calls have canceled are distinct, and their ends are reached. -/
structure CanceledOnce (pool : TraderPool) : Prop where
  once : (pool.calls.filterMap Frame.canceledId?).Nodup
  ended : ∀ id ∈ pool.calls.filterMap Frame.canceledId?,
    ∃ order, pool.shared.orders.lookup id = some order ∧ order.status.isTerminal = true

/-- A write that ends an order, or writes over none that has ended, undoes no end. -/
theorem ended_insert {orders : OrderTable} {id : UInt64} {written : Order}
    (hwrites : written.status.isTerminal = true ∨
      ∀ order, orders.lookup id = some order → order.status.isTerminal = false)
    {other : UInt64}
    (hended : ∃ order, orders.lookup other = some order ∧ order.status.isTerminal = true) :
    ∃ order, (orders.insert id written).lookup other = some order ∧
      order.status.isTerminal = true := by
  obtain ⟨order, hlookup, hterminal⟩ := hended
  by_cases hother : other = id
  · subst hother
    refine ⟨written, Finmap.lookup_insert _, hwrites.resolve_right fun hopen => ?_⟩
    cases hterminal.symm.trans (hopen order hlookup)
  · exact ⟨order, (Finmap.lookup_insert_of_ne _ hother).trans hlookup, hterminal⟩

namespace CanceledOnce

open Concurrent

variable {defaults : Defaults} {pool result : TraderPool} {call next : Frame}
  {emitted : List Delivery} {before after : List Frame}

theorem idle (api : MockTraderApi) : CanceledOnce (Concurrent.idle api) where
  once := List.nodup_nil
  ended id hid := by cases hid

/-- A step that cancels nothing, by a call that has canceled as much as before. -/
theorem keep (h : CanceledOnce pool)
    (hstep : Advances (traderMachine defaults) () pool call next emitted before after result)
    (hsame : next.canceledId? = call.canceledId?)
    (hended : ∀ id, (∃ order, pool.shared.orders.lookup id = some order ∧
        order.status.isTerminal = true) →
      ∃ order, result.shared.orders.lookup id = some order ∧ order.status.isTerminal = true) :
    CanceledOnce result := by
  have hresult := hstep.result_filterMap Frame.canceledId?
  rw [hsame] at hresult
  have hperm := hresult.trans (hstep.pool_filterMap Frame.canceledId?).symm
  refine ⟨hperm.nodup_iff.mpr h.once, fun id hid => ?_⟩
  exact hended id (h.ended id (hperm.mem_iff.mp hid))

theorem advances (h : CanceledOnce pool)
    (hfresh : ∀ id, call.storing? = some id → id ∉ pool.shared.orders)
    (hstep : Advances (traderMachine defaults) () pool call next emitted before after result) :
    CanceledOnce result := by
  have heffect := advance_effect hstep.effect
  generalize hshared : result.shared = shared at heffect
  cases heffect with
  | passive orders _ _ _ _ _ canceled _ =>
      apply h.keep hstep canceled
      rw [hshared, orders]
      exact fun _ => id
  | store request id =>
      apply h.keep hstep rfl
      intro other hended
      rw [hshared]
      refine ended_insert (.inr fun order hlookup => ?_) hended
      exact absurd (Finmap.mem_of_lookup_eq_some hlookup) (hfresh id rfl)
  | makeTrade request id fills =>
      apply h.keep hstep rfl
      rw [hshared]
      exact fun _ hended => hended
  | announce request id trade =>
      apply h.keep hstep rfl
      rw [hshared]
      exact fun _ hended => hended
  | fill request id trade =>
      apply h.keep hstep rfl
      intro other hended
      rw [hshared]
      cases hstored : pool.shared.orders.lookup id with
      | none =>
          unfold fill
          rw [hstored]
          exact hended
      | some stored =>
          rw [fill_of_lookup hstored]
          exact ended_insert (.inl rfl) hended
  | mark request canceled marked marks =>
      obtain ⟨stored, hstored, hopen, -, rfl⟩ := markCanceled_ok marks
      have hpool := hstep.pool_filterMap Frame.canceledId?
      have hresult := hstep.result_filterMap Frame.canceledId?
      -- an order that was canceled before had come to its end, and this one had not
      have hnew : request.brokerOrderId ∉ (before ++ after).filterMap Frame.canceledId? := by
        intro hmem
        obtain ⟨order, hlookup, hterminal⟩ := h.ended _ (hpool.mem_iff.mpr hmem)
        obtain rfl := Option.some.inj (hstored.symm.trans hlookup)
        cases hopen.symm.trans hterminal
      constructor
      · apply hresult.nodup_iff.mpr
        exact List.nodup_cons.mpr ⟨hnew, hpool.nodup_iff.mp h.once⟩
      · intro id hid
        rw [hshared]
        rcases List.mem_cons.mp (hresult.mem_iff.mp hid) with rfl | hold
        · exact ⟨_, Finmap.lookup_insert _, rfl⟩
        · exact ended_insert (.inl rfl) (h.ended id (hpool.mem_iff.mpr hold))

theorem step (h : CanceledOnce pool) {label : TraderLabel} (hfresh : Fresh pool label)
    (hstep : traderStep defaults pool label = some result) : CanceledOnce result := by
  rcases step_cases hstep with ⟨input, rfl, rfl⟩ |
    ⟨index, _, call, next, emitted, before, after, rfl, hcall, hadvances⟩ | ⟨change, rfl, rfl⟩
  · have hnone : (Frame.enter input).canceledId? = none := by cases input <;> rfl
    have hcalls : (pool.calls ++ [Frame.enter input]).filterMap Frame.canceledId? =
        pool.calls.filterMap Frame.canceledId? := by
      rw [List.filterMap_append, List.filterMap_cons_none hnone, List.filterMap_nil,
        List.append_nil]
    exact ⟨hcalls.symm ▸ h.once, hcalls.symm ▸ h.ended⟩
  · apply h.advances ?_ hadvances
    intro id hstoring
    apply hfresh id
    rw [hcall, Option.bind_some]
    exact hstoring
  · cases change <;> exact ⟨h.once, h.ended⟩

end CanceledOnce

theorem canceledId?_of_told? (frame : Frame) (id : UInt64)
    (htold : frame.told?.bind OrderNews.canceledId? = some id) : frame.canceledId? = some id := by
  cases frame with
  | notified request canceled => exact htold
  | cancelReturned request outcome =>
      cases outcome with
      | raised => cases htold
      | returned code =>
          cases code with
          | kSuccess => exact htold
          | _ => cases htold
  | sendReturned request outcome =>
      cases outcome with
      | raised => cases htold
      | returned code => cases code <;> cases htold
  | _ => cases htold

/-- In every interleaving the order events are those of the calls that have got past their
notification, one for each: a send reports the terms it was asked for, a cancel the order it
names.  Where orders are stored under free ids, no order is reported canceled twice. -/
theorem orders_reported_once (defaults : Defaults) (spi : MockTraderSpi) (onTrade : Bool)
    (labels : List TraderLabel) (pool : TraderPool)
    (hrun : Runs.exec (traderStep defaults) (Concurrent.idle (.observed spi true onTrade))
      labels = some pool) :
    (pool.log.filterMap Delivery.orderNews?).Perm (pool.calls.filterMap Frame.told?) ∧
      (Runs.Along (traderStep defaults) Fresh (Concurrent.idle (.observed spi true onTrade))
          labels →
        ((pool.log.filterMap Delivery.orderNews?).filterMap OrderNews.canceledId?).Nodup) := by
  have hidle : Concurrent.Accounts Telling Frame.Marks Delivery.orderNews? (fun _ => [])
      Frame.told? (Concurrent.idle (.observed spi true onTrade)) :=
    ⟨⟨rfl, keyed_empty⟩, List.forall_mem_nil _, .refl []⟩
  have hbalance := ((conserves_orders defaults).run hidle hrun).balance
  rw [List.nil_append] at hbalance
  refine ⟨hbalance, fun hfresh => ?_⟩
  have honce : CanceledOnce pool :=
    Runs.exec_invariant (fun hok h hstep => h.step hok hstep) hfresh hrun (.idle _)
  apply (hbalance.filterMap OrderNews.canceledId?).nodup_iff.mpr
  rw [List.filterMap_filterMap]
  exact honce.once.sublist (Concurrent.filterMap_sublist fun call _ => canceledId?_of_told? call)

/-- Two orders are sent, one of them fills and the other is canceled. -/
theorem trades_delivered_once_sample :
    let labels : List TraderLabel :=
      [.outside .connect, .start (.sendOrder (.buyOne 5)), .start (.sendOrder (.buyOne 6)),
        .start (.cancelOrder ⟨6, "x"⟩)] ++ List.replicate 6 (.advance 0 ()) ++
        List.replicate 4 (.advance 1 ()) ++ List.replicate 4 (.advance 2 ())
    ∃ pool, Runs.exec (traderStep .zero) (Concurrent.idle (.observed ⟨false⟩ true true)) labels =
        some pool ∧
      (pool.log.filterMap Delivery.trade?).Perm
        (pool.shared.trades ++ pool.calls.filterMap Frame.announced?) := by
  intro labels
  exact ⟨_, rfl, (trades_delivered_once .zero ⟨false⟩ true true labels _ rfl).1⟩

/-- Of three orders the first one fills, and the other two are canceled by cancels that take
turns. -/
theorem orders_reported_once_sample :
    let labels : List TraderLabel :=
      [.outside .connect, .start (.sendOrder (.buyOne 5)), .start (.sendOrder (.buyOne 6)),
        .start (.sendOrder (.buyOne 7)), .start (.cancelOrder ⟨6, "x"⟩),
        .start (.cancelOrder ⟨7, "x"⟩)] ++ List.replicate 6 (.advance 0 ()) ++
        List.replicate 4 (.advance 1 ()) ++ List.replicate 4 (.advance 2 ()) ++
        List.replicate 2 (.advance 3 ()) ++ List.replicate 4 (.advance 4 ()) ++
        List.replicate 2 (.advance 3 ())
    ∃ pool, Runs.exec (traderStep .zero) (Concurrent.idle (.observed ⟨false⟩ true true)) labels =
        some pool ∧
      (pool.log.filterMap Delivery.orderNews?).filterMap OrderNews.canceledId? = [7, 6] ∧
      ((pool.log.filterMap Delivery.orderNews?).filterMap OrderNews.canceledId?).Nodup := by
  intro labels
  have hfresh : Runs.Along (traderStep .zero) Fresh
      (Concurrent.idle (.observed ⟨false⟩ true true)) labels := by decide
  obtain ⟨pool, hrun, hcanceled⟩ : ∃ pool,
      Runs.exec (traderStep .zero) (Concurrent.idle (.observed ⟨false⟩ true true)) labels =
        some pool ∧
      (pool.log.filterMap Delivery.orderNews?).filterMap OrderNews.canceledId? = [7, 6] :=
    ⟨_, rfl, rfl⟩
  exact ⟨pool, hrun, hcanceled,
    (orders_reported_once .zero ⟨false⟩ true labels pool hrun).2 hfresh⟩

/-! ## Orders before their trades -/

/-- The report of an order on the terms of a trade. -/
def Introduces (trade : Trade) (delivery : Delivery) : Prop :=
  ∃ order, delivery = .onOrder order ∧ order.brokerOrderId = trade.brokerOrderId ∧
    orderTerms order = tradeTerms trade

/-- Every trade in a log comes after the report of its order. -/
def OrdersFirst (log : List Delivery) : Prop :=
  ∀ (index : Nat) (trade : Trade), log[index]?.bind Delivery.trade? = some trade →
    ∃ earlier < index, ∃ delivery, log[earlier]? = some delivery ∧ Introduces trade delivery

namespace OrdersFirst

variable {log : List Delivery}

/-- Every trade of what is appended has its order in the log already. -/
theorem append (h : OrdersFirst log) {emitted : List Delivery}
    (hemitted : ∀ trade ∈ emitted.filterMap Delivery.trade?,
      ∃ delivery ∈ log, Introduces trade delivery) :
    OrdersFirst (log ++ emitted) := by
  intro index trade htrade
  rcases Nat.lt_or_ge index log.length with hold | hnew
  · rw [List.getElem?_append_left hold] at htrade
    obtain ⟨earlier, hearlier, delivery, hdelivery, hintroduces⟩ := h index trade htrade
    refine ⟨earlier, hearlier, delivery, ?_, hintroduces⟩
    exact (List.getElem?_append_left (hearlier.trans hold)).trans hdelivery
  · rw [List.getElem?_append_right hnew, Option.bind_eq_some_iff] at htrade
    obtain ⟨reported, hreported, htrade⟩ := htrade
    have hnewTrade := List.mem_filterMap.mpr ⟨reported, List.mem_of_getElem? hreported, htrade⟩
    obtain ⟨delivery, hmem, hintroduces⟩ := hemitted trade hnewTrade
    obtain ⟨earlier, hdelivery⟩ := List.mem_iff_getElem?.mp hmem
    have hearlier := (List.getElem?_eq_some_iff.mp hdelivery).1
    refine ⟨earlier, hearlier.trans_le hnew, delivery, ?_, hintroduces⟩
    exact (List.getElem?_append_left hearlier).trans hdelivery

theorem append_noTrade (h : OrdersFirst log) {emitted : List Delivery}
    (hnone : emitted.filterMap Delivery.trade? = []) : OrdersFirst (log ++ emitted) := by
  refine h.append fun trade htrade => ?_
  rw [hnone] at htrade
  cases htrade

theorem append_trade (h : OrdersFirst log) {trade : Trade}
    (hintroduced : ∃ delivery ∈ log, Introduces trade delivery) :
    OrdersFirst (log ++ [.onTrade trade]) := by
  refine h.append fun made hmade => ?_
  obtain rfl := List.mem_singleton.mp hmade
  exact hintroduced

end OrdersFirst

/-- A send between its order event and its trade event finds the former in the log. -/
def Frame.Introduced (defaults : Defaults) (log : List Delivery) : Frame → Prop
  | .ordered request id => .onOrder (newOrder defaults request id) ∈ log
  | .trading _ _ trade => ∃ delivery ∈ log, Introduces trade delivery
  | _ => True

theorem Frame.Introduced.append {defaults : Defaults} {log : List Delivery} {frame : Frame}
    (h : frame.Introduced defaults log) (emitted : List Delivery) :
    frame.Introduced defaults (log ++ emitted) := by
  cases frame with
  | ordered request id => exact List.mem_append_left emitted h
  | trading request id trade =>
      obtain ⟨delivery, hmem, hintroduces⟩ := h
      exact ⟨delivery, List.mem_append_left emitted hmem, hintroduces⟩
  | _ => trivial

structure Introducing (defaults : Defaults) (pool : TraderPool) : Prop where
  onOrder : pool.shared.onOrder = true
  log : OrdersFirst pool.log
  calls : ∀ frame ∈ pool.calls, frame.Introduced defaults pool.log

namespace Introducing

open Concurrent

variable {defaults : Defaults} {pool result : TraderPool} {call next : Frame}
  {emitted : List Delivery} {before after : List Frame}

theorem idle {api : MockTraderApi} (horder : api.onOrder = true) :
    Introducing defaults (Concurrent.idle api) where
  onOrder := horder
  log index trade htrade := by cases htrade
  calls frame hframe := by cases hframe

/-- What one step of a call adds to the log, and what the log then tells of it. -/
theorem moved {shared : MockTraderApi} (h : Introducing defaults pool)
    (hmoves : call.Moves defaults pool.shared next shared emitted)
    (hcall : call.Introduced defaults pool.log) :
    OrdersFirst (pool.log ++ emitted) ∧ next.Introduced defaults (pool.log ++ emitted) := by
  have hsilent : OrdersFirst (pool.log ++ []) := (List.append_nil pool.log).symm ▸ h.log
  cases hmoves with
  | order request id =>
      refine ⟨h.log.append_noTrade (publishOrder_trade? pool.shared _), ?_⟩
      rw [publishOrder, if_pos h.onOrder]
      exact List.mem_append_right pool.log (List.mem_singleton_self _)
  | makeTrade request id fills =>
      have hlog : .onOrder (newOrder defaults request id) ∈ pool.log ++ [] :=
        List.mem_append_left [] hcall
      exact ⟨hsilent, _, hlog, _, rfl, rfl, rfl⟩
  | announce request id trade => exact ⟨h.log.append_trade hcall, trivial⟩
  | notify request canceled =>
      exact ⟨h.log.append_noTrade (publishOrder_trade? pool.shared _), trivial⟩
  | _ => exact ⟨hsilent, trivial⟩

theorem step (h : Introducing defaults pool) {label : TraderLabel}
    (hstep : traderStep defaults pool label = some result) : Introducing defaults result := by
  obtain ⟨horder, -⟩ := step_reports h.onOrder hstep
  suffices hkept : OrdersFirst result.log ∧
      ∀ frame ∈ result.calls, frame.Introduced defaults result.log from
    ⟨horder, hkept.1, hkept.2⟩
  rcases step_cases hstep with ⟨input, rfl, rfl⟩ |
    ⟨index, _, call, next, emitted, before, after, rfl, -, hadvances⟩ | ⟨change, rfl, rfl⟩
  · refine ⟨h.log, fun frame hframe => ?_⟩
    rcases List.mem_append.mp hframe with hold | hnew
    · exact h.calls frame hold
    · rw [List.mem_singleton.mp hnew]
      cases input <;> trivial
  · obtain ⟨hlog, hnext⟩ :=
      h.moved (advance_moves hadvances.effect) (h.calls call hadvances.call_mem)
    rw [hadvances.result_log]
    refine ⟨hlog, fun frame hframe => ?_⟩
    rcases hadvances.mem_result hframe with rfl | hother
    · exact hnext
    · exact (h.calls frame (hadvances.still_mem hother)).append emitted
  · refine ⟨h.log.append_noTrade (outside_noTrade change pool.shared), fun frame hframe => ?_⟩
    exact (h.calls frame hframe).append _

end Introducing

/-- In every interleaving, whatever ids the requests ask for, each trade that is reported
comes after the report of an order with its id and its terms. -/
theorem orders_before_trades (defaults : Defaults) (spi : MockTraderSpi) (onTrade : Bool)
    (labels : List TraderLabel) (pool : TraderPool)
    (hrun : Runs.exec (traderStep defaults) (Concurrent.idle (.observed spi true onTrade))
      labels = some pool) : OrdersFirst pool.log := by
  have hintroducing : Introducing defaults pool :=
    Runs.exec_preserves (fun h hstep => h.step hstep) hrun (.idle rfl)
  exact hintroducing.log

/-- Two sends under one id take turns. -/
theorem orders_before_trades_sample :
    let labels : List TraderLabel :=
      [.outside .connect, .start (.sendOrder (.buyOne 5)), .start (.sendOrder (.buyOne 5))] ++
        List.replicate 5 (.advance 0 ()) ++ List.replicate 7 (.advance 1 ()) ++
        List.replicate 2 (.advance 0 ())
    ∃ pool, Runs.exec (traderStep .zero) (Concurrent.idle (.observed ⟨false⟩ true true)) labels =
        some pool ∧ OrdersFirst pool.log := by
  intro labels
  exact ⟨_, rfl, orders_before_trades .zero ⟨false⟩ true labels _ rfl⟩

end QtradeClient.Mock
