import QtradeClient.Mock.TraderThreads

/-!
# Calls in flight and the order table

A `SendOrder` lets go of the mutex between storing its order and filling it.  The
invariant `InFlight` says what stays true of the order meanwhile: it is in the
table with the terms of its request and not filled, no other call works on it, and
a trade made for it carries the same terms.
-/

namespace QtradeClient.Mock

open Sdk Library MockTraderApi

/-- What a request, its order and its trade have to agree on. -/
structure Terms where
  clientOrderId : String
  instrument : String
  market : MarketType
  side : SideType
  price : Float
  volume : Int

def requestTerms (request : OrderRequest) : Terms :=
  ⟨request.clientOrderId, request.instrument, request.market, request.side, request.price,
    request.volume⟩

def orderTerms (order : Order) : Terms :=
  ⟨order.clientOrderId, order.instrument, order.market, order.side, order.price, order.volume⟩

def tradeTerms (trade : Trade) : Terms :=
  ⟨trade.clientOrderId, trade.instrument, trade.market, trade.side, trade.price, trade.volume⟩

/-- An order that its `SendOrder` has not filled. -/
def Unfilled (order : Order) : Prop :=
  order.status = .kNotTradedQueueing ∨ order.status = .kCanceled

theorem Unfilled.ne_filled {order : Order} (h : Unfilled order) : order.status ≠ .kFilled := by
  rcases h with h | h <;> rw [h] <;> decide

def Frame.openId? (frame : Frame) : Option UInt64 := frame.openOrder?.map Prod.snd

structure InFlight (pool : TraderPool) : Prop where
  openOrders : ∀ frame ∈ pool.calls, ∀ request id, frame.openOrder? = some (request, id) →
    ∃ order, pool.shared.orders.lookup id = some order ∧
      orderTerms order = requestTerms request ∧ Unfilled order
  openOnce : (pool.calls.filterMap Frame.openId?).Nodup
  pending : ∀ frame ∈ pool.calls, ∀ trade, frame.pendingTrade? = some trade →
    ∃ request id, frame.openOrder? = some (request, id) ∧
      trade.brokerOrderId = id ∧ tradeTerms trade = requestTerms request

/-- A send stores under an id that the table does not hold. -/
def Fresh (pool : TraderPool) : TraderLabel → Prop
  | .start _ => True
  | .advance index _ =>
      ∀ id ∈ pool.calls[index]?.bind Frame.storing?, id ∉ pool.shared.orders
  | .outside _ => True

instance (pool : TraderPool) : DecidablePred (Fresh pool)
  | .start _ => isTrue trivial
  | .advance _ _ => Option.decidableForallMem _
  | .outside _ => isTrue trivial

/-- A trader as constructed, with its observers in place and no call made. -/
def MockTraderApi.observed (spi : MockTraderSpi) (onOrder onTrade : Bool) : MockTraderApi :=
  { create with mockSpi := spi, onOrder := onOrder, onTrade := onTrade }

theorem inFlight_idle (api : MockTraderApi) : InFlight (Concurrent.idle api) where
  openOrders frame hframe := by cases hframe
  openOnce := List.nodup_nil
  pending frame hframe := by cases hframe

namespace InFlight

open Concurrent

variable {defaults : Defaults} {pool result : TraderPool} {call next : Frame}
  {emitted : List Delivery} {before after : List Frame}

theorem openId_mem (h : InFlight pool) {id : UInt64}
    (hid : id ∈ pool.calls.filterMap Frame.openId?) : id ∈ pool.shared.orders := by
  obtain ⟨frame, hframe, hopen⟩ := List.mem_filterMap.mp hid
  obtain ⟨⟨request, id'⟩, horder, rfl⟩ := Option.map_eq_some_iff.mp hopen
  obtain ⟨order, hlookup, -, -⟩ := h.openOrders frame hframe request id' horder
  exact Finmap.mem_of_lookup_eq_some hlookup

/-- No other call in flight works on the order of the call that steps. -/
theorem open_elsewhere (h : InFlight pool)
    (hstep : Advances (traderMachine defaults) () pool call next emitted before after result)
    {request request' : OrderRequest} {id id' : UInt64} {other : Frame}
    (hcall : call.openOrder? = some (request, id)) (hother : other ∈ before ++ after)
    (hopen : other.openOrder? = some (request', id')) : id' ≠ id := by
  have hnodup := (hstep.pool_filterMap Frame.openId?).nodup_iff.mp h.openOnce
  have hcallId : call.openId? = some id := by rw [Frame.openId?, hcall]; rfl
  have hotherId : other.openId? = some id' := by rw [Frame.openId?, hopen]; rfl
  rw [hcallId, Option.toList_some, List.singleton_append, List.nodup_cons] at hnodup
  rintro rfl
  exact hnodup.1 (List.mem_filterMap.mpr ⟨other, hother, hotherId⟩)

theorem openOnce_of_sublist (h : InFlight pool)
    (hstep : Advances (traderMachine defaults) () pool call next emitted before after result)
    (hopen : next.openOrder? = none ∨ next.openOrder? = call.openOrder?) :
    (result.calls.filterMap Frame.openId?).Nodup := by
  have hnodup := (hstep.pool_filterMap Frame.openId?).nodup_iff.mp h.openOnce
  apply (hstep.result_filterMap Frame.openId?).nodup_iff.mpr
  rcases hopen with hnone | hsame
  · rw [Frame.openId?, hnone, Option.map_none, Option.toList_none, List.nil_append]
    exact (List.nodup_append.mp hnodup).2.1
  · rw [Frame.openId?, hsame]
    exact hnodup

/-! ## Each step keeps the invariant -/

/-- A step that leaves the table alone. -/
theorem keep (h : InFlight pool)
    (hstep : Advances (traderMachine defaults) () pool call next emitted before after result)
    (horders : result.shared.orders = pool.shared.orders)
    (hopen : next.openOrder? = none ∨ next.openOrder? = call.openOrder?)
    (hpending : ∀ trade, next.pendingTrade? = some trade →
      ∃ request id, next.openOrder? = some (request, id) ∧
        trade.brokerOrderId = id ∧ tradeTerms trade = requestTerms request) :
    InFlight result where
  openOrders frame hframe request id hid := by
    rw [horders]
    rcases hstep.mem_result hframe with rfl | hother
    · rcases hopen with hnone | hsame
      · cases hnone.symm.trans hid
      · exact h.openOrders call hstep.call_mem request id (hsame.symm.trans hid)
    · exact h.openOrders frame (hstep.still_mem hother) request id hid
  openOnce := h.openOnce_of_sublist hstep hopen
  pending frame hframe trade htrade := by
    rcases hstep.mem_result hframe with rfl | hother
    · exact hpending trade htrade
    · exact h.pending frame (hstep.still_mem hother) trade htrade

theorem store (h : InFlight pool) {request : OrderRequest} {id : UInt64}
    (hfresh : id ∉ pool.shared.orders)
    (hstep : Advances (traderMachine defaults) () pool (.allocated request id)
      (.stored request id) emitted before after result)
    (horders : result.shared.orders =
      pool.shared.orders.insert id (newOrder defaults request id)) : InFlight result where
  openOrders frame hframe request' id' hopen := by
    rw [horders]
    rcases hstep.mem_result hframe with rfl | hother
    · cases hopen
      exact ⟨newOrder defaults request id, Finmap.lookup_insert _, rfl, .inl rfl⟩
    · obtain ⟨order, hlookup, hrest⟩ :=
        h.openOrders frame (hstep.still_mem hother) request' id' hopen
      have hid : id' ≠ id := by
        rintro rfl
        exact hfresh (Finmap.mem_of_lookup_eq_some hlookup)
      exact ⟨order, (Finmap.lookup_insert_of_ne _ hid).trans hlookup, hrest⟩
  openOnce := by
    have hnodup := (hstep.pool_filterMap Frame.openId?).nodup_iff.mp h.openOnce
    apply (hstep.result_filterMap Frame.openId?).nodup_iff.mpr
    refine List.nodup_cons.mpr ⟨fun hmem => hfresh (h.openId_mem ?_), hnodup⟩
    exact (hstep.pool_filterMap Frame.openId?).mem_iff.mpr hmem
  pending frame hframe trade htrade := by
    rcases hstep.mem_result hframe with rfl | hother
    · cases htrade
    · exact h.pending frame (hstep.still_mem hother) trade htrade

/-- The call that fills an order has finished with it. -/
theorem fill (h : InFlight pool) {request : OrderRequest} {id : UInt64} {trade : Trade}
    (hstep : Advances (traderMachine defaults) () pool (.announced request id trade) next
      emitted before after result)
    (hopen : next.openOrder? = none) (hpending : next.pendingTrade? = none) {filled : Order}
    (horders : result.shared.orders = pool.shared.orders.insert id filled) :
    InFlight result where
  openOrders frame hframe request' id' hid := by
    rw [horders]
    rcases hstep.mem_result hframe with rfl | hother
    · cases hopen.symm.trans hid
    · obtain ⟨order, hlookup, hrest⟩ :=
        h.openOrders frame (hstep.still_mem hother) request' id' hid
      have hne : id' ≠ id := h.open_elsewhere hstep rfl hother hid
      exact ⟨order, (Finmap.lookup_insert_of_ne _ hne).trans hlookup, hrest⟩
  openOnce := h.openOnce_of_sublist hstep (.inl hopen)
  pending frame hframe other hother := by
    rcases hstep.mem_result hframe with rfl | hstill
    · cases hpending.symm.trans hother
    · exact h.pending frame (hstep.still_mem hstill) other hother

/-- A cancel may hit an order that a send still works on, which leaves it unfilled. -/
theorem mark (h : InFlight pool) {request : CancelOrderRequest} {canceled stored : Order}
    (hstep : Advances (traderMachine defaults) () pool (.cancelConnected request)
      (.marked request canceled) emitted before after result)
    (hstored : pool.shared.orders.lookup request.brokerOrderId = some stored)
    (horders : result.shared.orders =
      pool.shared.orders.insert request.brokerOrderId (canceledBy stored request)) :
    InFlight result where
  openOrders frame hframe request' id' hopen := by
    rw [horders]
    rcases hstep.mem_result hframe with rfl | hother
    · cases hopen
    · obtain ⟨order, hlookup, hterms, hunfilled⟩ :=
        h.openOrders frame (hstep.still_mem hother) request' id' hopen
      by_cases hid : id' = request.brokerOrderId
      · subst hid
        cases hstored.symm.trans hlookup
        exact ⟨_, Finmap.lookup_insert _, hterms, .inr rfl⟩
      · exact ⟨order, (Finmap.lookup_insert_of_ne _ hid).trans hlookup, hterms, hunfilled⟩
  openOnce := h.openOnce_of_sublist hstep (.inl rfl)
  pending frame hframe other hother := by
    rcases hstep.mem_result hframe with rfl | hstill
    · cases hother
    · exact h.pending frame (hstep.still_mem hstill) other hother

/-- What a fill finds: the stored order, unfilled, and a trade on its terms. -/
theorem fillable (h : InFlight pool) {request : OrderRequest} {id : UInt64} {trade : Trade}
    (hmem : .announced request id trade ∈ pool.calls) :
    ∃ stored, pool.shared.orders.lookup id = some stored ∧ Unfilled stored ∧
      trade.brokerOrderId = id ∧ tradeTerms trade = orderTerms stored := by
  obtain ⟨stored, hstored, hterms, hunfilled⟩ := h.openOrders _ hmem request id rfl
  obtain ⟨_, _, ⟨rfl, rfl⟩, htrade, htradeTerms⟩ := h.pending _ hmem trade rfl
  exact ⟨stored, hstored, hunfilled, htrade, htradeTerms.trans hterms.symm⟩

theorem advances (h : InFlight pool)
    (hfresh : ∀ id, call.storing? = some id → id ∉ pool.shared.orders)
    (hstep : Advances (traderMachine defaults) () pool call next emitted before after result) :
    InFlight result := by
  have heffect := advance_effect hstep.effect
  generalize hresult : result.shared = shared at heffect
  cases heffect with
  | passive orders trades counter openOrder notPending stillNotPending canceled noTrade =>
      apply h.keep hstep (hresult ▸ orders) openOrder
      intro trade htrade
      cases stillNotPending.symm.trans htrade
  | store request id => exact h.store (hfresh id rfl) hstep (by rw [hresult]; rfl)
  | makeTrade request id fills =>
      apply h.keep hstep (by rw [hresult]; rfl) (.inr rfl)
      intro trade htrade
      cases htrade
      exact ⟨request, id, rfl, rfl, rfl⟩
  | announce request id trade =>
      apply h.keep hstep (by rw [hresult]) (.inr rfl)
      intro other hother
      cases hother
      exact h.pending _ hstep.call_mem trade rfl
  | fill request id trade =>
      obtain ⟨stored, hstored, -, -, -⟩ := h.fillable hstep.call_mem
      exact h.fill hstep rfl rfl (by rw [hresult, fill_of_lookup hstored])
  | mark request canceled after marks =>
      obtain ⟨stored, hstored, -, -, hafter⟩ := markCanceled_ok marks
      exact h.mark hstep hstored (by rw [hresult, hafter])

/-- A call that enters works on nothing yet. -/
theorem enter (h : InFlight pool) (call : OrderCall) :
    InFlight { pool with calls := pool.calls ++ [Frame.enter call] } := by
  have hopen : (Frame.enter call).openOrder? = none := by cases call <;> rfl
  have hpending : (Frame.enter call).pendingTrade? = none := by cases call <;> rfl
  constructor
  · intro frame hframe request id hid
    rcases List.mem_append.mp hframe with hold | hnew
    · exact h.openOrders frame hold request id hid
    · rw [List.mem_singleton.mp hnew, hopen] at hid
      cases hid
  · rw [List.filterMap_append]
    simp only [List.filterMap_cons, Frame.openId?, hopen, Option.map_none, List.filterMap_nil,
      List.append_nil]
    exact h.openOnce
  · intro frame hframe trade htrade
    rcases List.mem_append.mp hframe with hold | hnew
    · exact h.pending frame hold trade htrade
    · rw [List.mem_singleton.mp hnew, hpending] at htrade
      cases htrade

theorem step {label : TraderLabel} (hfresh : Fresh pool label) (h : InFlight pool)
    (hstep : traderStep defaults pool label = some result) : InFlight result := by
  rcases step_cases hstep with ⟨input, rfl, rfl⟩ |
    ⟨index, _, call, next, emitted, before, after, rfl, hcall, hadvances⟩ | ⟨change, rfl, rfl⟩
  · exact h.enter input
  · apply h.advances ?_ hadvances
    intro id hstoring
    apply hfresh id
    rw [hcall, Option.bind_some]
    exact hstoring
  · cases change with
    | connect => exact ⟨h.openOrders, h.openOnce, h.pending⟩
    | disconnect => exact ⟨h.openOrders, h.openOnce, h.pending⟩
    | setAutoFill autoFill => exact ⟨h.openOrders, h.openOnce, h.pending⟩

end InFlight

end QtradeClient.Mock
