import QtradeClient.Mock.TraderFlight

/-!
# Cancels against fills

A cancel refuses an order whose status is terminal, but the last piece of
`SendOrder` marks its order filled without looking at the status again.  A cancel
that lands after the decision to fill, or a fill begun after a cancel, therefore
rewrites a terminal status.  `CancelClear` says that neither happens at a step, and
under it canceled and traded orders stay apart.
-/

namespace QtradeClient.Mock

open Sdk Library MockTraderApi

def statusOf (orders : OrderTable) (id : UInt64) : Option OrderStatusType :=
  (orders.lookup id).map Order.status

@[simp] theorem statusOf_insert_self (orders : OrderTable) (id : UInt64) (order : Order) :
    statusOf (orders.insert id order) id = some order.status := by
  rw [statusOf, Finmap.lookup_insert, Option.map_some]

theorem statusOf_insert_of_ne (orders : OrderTable) {id other : UInt64} (order : Order)
    (hne : other ≠ id) : statusOf (orders.insert id order) other = statusOf orders other := by
  rw [statusOf, statusOf, Finmap.lookup_insert_of_ne _ hne]

theorem statusOf_of_lookup {orders : OrderTable} {id : UInt64} {order : Order}
    (hlookup : orders.lookup id = some order) : statusOf orders id = some order.status := by
  rw [statusOf, hlookup, Option.map_some]

namespace Frame

/-- The order that the next piece of a call begins to fill if the trader fills. -/
def fillsNext? : Frame → Option UInt64
  | .ordered _ id => some id
  | _ => none

/-- The order that the next piece of a call looks up and cancels. -/
def cancelsNext? : Frame → Option UInt64
  | .cancelConnected request => some request.brokerOrderId
  | _ => none

/-- The order that a call has begun to fill and has not filled yet. -/
def filling? (frame : Frame) : Option UInt64 := frame.pendingTrade?.map Trade.brokerOrderId

end Frame

/-- The step does not begin to fill a terminal order, and does not cancel an order that
another call has begun to fill. -/
def CancelClear (pool : TraderPool) : TraderLabel → Prop
  | .start _ => True
  | .advance index _ =>
      (∀ id ∈ pool.calls[index]?.bind Frame.fillsNext?, pool.shared.fills = true →
        ∀ order ∈ pool.shared.orders.lookup id, order.status.isTerminal = false) ∧
      (∀ id ∈ pool.calls[index]?.bind Frame.cancelsNext?,
        ∀ order ∈ pool.shared.orders.lookup id, order.status.isTerminal = false →
          ∀ frame ∈ pool.calls, frame.filling? ≠ some id)
  | .outside _ => True

instance (pool : TraderPool) : DecidablePred (CancelClear pool)
  | .start _ => isTrue trivial
  | .advance _ _ => show Decidable (_ ∧ _) from
      @instDecidableAnd _ _ (Option.decidableForallMem _) (Option.decidableForallMem _)
  | .outside _ => isTrue trivial

/-- The trade was published or appended. -/
def Traded (pool : TraderPool) (trade : Trade) : Prop :=
  .onTrade trade ∈ pool.log ∨ trade ∈ pool.shared.trades

structure CancelSafe (pool : TraderPool) : Prop where
  inFlight : InFlight pool
  filling : ∀ frame ∈ pool.calls, ∀ trade, frame.pendingTrade? = some trade →
    statusOf pool.shared.orders trade.brokerOrderId = some .kNotTradedQueueing
  canceled : ∀ frame ∈ pool.calls, ∀ id, frame.canceledId? = some id →
    statusOf pool.shared.orders id = some .kCanceled
  published : ∀ trade, Traded pool trade →
    statusOf pool.shared.orders trade.brokerOrderId = some .kFilled ∨
      ∃ frame ∈ pool.calls, frame.pendingTrade? = some trade

theorem cancelSafe_observed (spi : MockTraderSpi) (onOrder onTrade : Bool) :
    CancelSafe (Concurrent.idle (.observed spi onOrder onTrade)) where
  inFlight := inFlight_idle _
  filling frame hframe := by cases hframe
  canceled frame hframe := by cases hframe
  published trade htrade := by rcases htrade with hlog | htrades <;> contradiction

/-! ## What a clear step does to the statuses -/

section Steps

open Concurrent

variable {defaults : Defaults} {pool result : TraderPool} {call next : Frame}
  {emitted : List Delivery} {before after : List Frame}

/-- The ways a step can change the status of an order. -/
inductive StatusChange (pool result : TraderPool) (call : Frame) (id : UInt64) : Prop where
  | same (status : statusOf result.shared.orders id = statusOf pool.shared.orders id)
  | stored (absent : statusOf pool.shared.orders id = none)
  | filled (trade : Trade) (pending : call.pendingTrade? = some trade)
      (order : trade.brokerOrderId = id)
      (status : statusOf result.shared.orders id = some .kFilled)
  | canceled (marks : call.cancelsNext? = some id)
      (order : Order) (lookup : pool.shared.orders.lookup id = some order)
      (notTerminal : order.status.isTerminal = false)
      (status : statusOf result.shared.orders id = some .kCanceled)

theorem statusChange (h : InFlight pool)
    (hfresh : ∀ id, call.storing? = some id → id ∉ pool.shared.orders)
    (hstep : Advances (traderMachine defaults) () pool call next emitted before after result)
    (id : UInt64) : StatusChange pool result call id := by
  have heffect := advance_effect hstep.effect
  generalize hresult : result.shared = shared at heffect
  cases heffect with
  | passive orders trades counter openOrder notPending stillNotPending canceled noTrade =>
      exact .same (by rw [hresult, orders])
  | store request stored =>
      by_cases hid : id = stored
      · subst hid
        refine .stored ?_
        rw [statusOf, Finmap.lookup_eq_none.mpr (hfresh id rfl), Option.map_none]
      · exact .same (by rw [hresult, storeOrder_orders, statusOf_insert_of_ne _ _ hid])
  | makeTrade request stored fills => exact .same (by rw [hresult]; rfl)
  | announce request stored trade => exact .same (by rw [hresult])
  | fill request stored trade =>
      obtain ⟨order, horder, -, htrade, -⟩ := h.fillable hstep.call_mem
      rw [fill_of_lookup horder] at hresult
      by_cases hid : id = stored
      · subst hid
        exact .filled trade rfl htrade (by rw [hresult, statusOf_insert_self]; rfl)
      · exact .same (by rw [hresult, statusOf_insert_of_ne _ _ hid])
  | mark request order marked marks =>
      obtain ⟨stored, hstored, hterminal, -, rfl⟩ := markCanceled_ok marks
      by_cases hid : id = request.brokerOrderId
      · subst hid
        exact .canceled rfl stored hstored hterminal
          (by rw [hresult, statusOf_insert_self]; rfl)
      · exact .same (by rw [hresult, statusOf_insert_of_ne _ _ hid])

/-- A trade in hand after a step was there before it, or the step has made it. -/
theorem pending_before
    (hstep : Advances (traderMachine defaults) () pool call next emitted before after result)
    {trade : Trade} (htrade : next.pendingTrade? = some trade) :
    (call.pendingTrade? = some trade ∧ result.shared.orders = pool.shared.orders) ∨
      call.fillsNext? = some trade.brokerOrderId ∧ pool.shared.fills = true ∧
        (∃ request, call.openOrder? = some (request, trade.brokerOrderId)) ∧
        result.shared.orders = pool.shared.orders := by
  have heffect := advance_effect hstep.effect
  generalize hresult : result.shared = shared at heffect
  cases heffect with
  | passive orders trades counter openOrder notPending stillNotPending canceled noTrade =>
      cases stillNotPending.symm.trans htrade
  | store request id => cases htrade
  | makeTrade request id fills =>
      cases htrade
      exact .inr ⟨rfl, fills, ⟨request, rfl⟩, rfl⟩
  | announce request id trade => exact .inl ⟨htrade, rfl⟩
  | fill request id trade => cases htrade
  | mark request canceled after marks => cases htrade

/-- A trade leaves the hands of its call only when it fills its order. -/
theorem pending_after (h : InFlight pool)
    (hstep : Advances (traderMachine defaults) () pool call next emitted before after result)
    {trade : Trade} (htrade : call.pendingTrade? = some trade) :
    next.pendingTrade? = some trade ∨
      statusOf result.shared.orders trade.brokerOrderId = some .kFilled := by
  have heffect := advance_effect hstep.effect
  generalize hresult : result.shared = shared at heffect
  cases heffect with
  | passive orders trades counter openOrder notPending stillNotPending canceled noTrade =>
      cases notPending.symm.trans htrade
  | store request id => cases htrade
  | makeTrade request id fills => cases htrade
  | announce request id trade => exact .inl htrade
  | fill request id trade =>
      obtain ⟨order, horder, -, rfl, -⟩ := h.fillable hstep.call_mem
      cases htrade
      refine .inr ?_
      rw [fill_of_lookup horder, statusOf_insert_self]
      rfl
  | mark request canceled after marks => cases htrade

/-- A trade is published or appended only out of the hands of its call. -/
theorem traded_before
    (hstep : Advances (traderMachine defaults) () pool call next emitted before after result)
    {trade : Trade} (htrade : Traded result trade) :
    Traded pool trade ∨ call.pendingTrade? = some trade := by
  rw [Traded, hstep.result_log, List.mem_append] at htrade
  have heffect := advance_effect hstep.effect
  generalize result.shared = shared at heffect htrade
  cases heffect with
  | passive orders trades counter openOrder notPending stillNotPending canceled noTrade =>
      rw [trades] at htrade
      rcases htrade with (hlog | hnew) | htrades
      · exact .inl (.inl hlog)
      · exact absurd hnew (noTrade trade)
      · exact .inl (.inr htrades)
  | store request id => exact .inl (by simpa [Traded] using htrade)
  | makeTrade request id fills => exact .inl (by simpa [Traded] using htrade)
  | announce request id made =>
      rcases htrade with (hlog | hnew) | htrades
      · exact .inl (.inl hlog)
      · cases List.mem_singleton.mp hnew
        exact .inr rfl
      · exact .inl (.inr htrades)
  | fill request id made =>
      rw [fill_trades, List.mem_append] at htrade
      rcases htrade with (hlog | hnew) | htrades | hmade
      · exact .inl (.inl hlog)
      · cases hnew
      · exact .inl (.inr htrades)
      · cases List.mem_singleton.mp hmade
        exact .inr rfl
  | mark request canceled after marks =>
      obtain ⟨stored, -, -, -, rfl⟩ := markCanceled_ok marks
      exact .inl (by simpa [Traded] using htrade)

/-- A call that has canceled an order did so before, or the step has just marked it. -/
theorem canceled_before
    (hstep : Advances (traderMachine defaults) () pool call next emitted before after result)
    {id : UInt64} (hid : next.canceledId? = some id) :
    call.canceledId? = some id ∨ statusOf result.shared.orders id = some .kCanceled := by
  have heffect := advance_effect hstep.effect
  generalize result.shared = shared at heffect
  cases heffect with
  | passive orders trades counter openOrder notPending stillNotPending canceled noTrade =>
      exact .inl (canceled.symm.trans hid)
  | store request id => cases hid
  | makeTrade request id fills => cases hid
  | announce request id trade => cases hid
  | fill request id trade => cases hid
  | mark request canceled after marks =>
      obtain ⟨stored, -, -, -, rfl⟩ := markCanceled_ok marks
      cases hid
      refine .inr ?_
      rw [statusOf_insert_self]
      rfl

end Steps

/-! ## Clear runs are safe -/

namespace CancelSafe

open Concurrent

variable {defaults : Defaults} {pool result : TraderPool} {call next : Frame}
  {emitted : List Delivery} {before after : List Frame}

/-- A clear step leaves every terminal status as it is. -/
theorem terminal_kept (h : CancelSafe pool)
    (hfresh : ∀ id, call.storing? = some id → id ∉ pool.shared.orders)
    (hstep : Advances (traderMachine defaults) () pool call next emitted before after result)
    {id : UInt64} {status : OrderStatusType}
    (hstatus : statusOf pool.shared.orders id = some status)
    (hterminal : status.isTerminal = true) :
    statusOf result.shared.orders id = some status := by
  cases statusChange h.inFlight hfresh hstep id with
  | same hsame => exact hsame.trans hstatus
  | stored habsent => cases habsent.symm.trans hstatus
  | filled trade hpending horder hfilled =>
      have hqueueing := h.filling call hstep.call_mem trade hpending
      rw [horder, hstatus] at hqueueing
      cases hqueueing
      cases hterminal
  | canceled hmarks order hlookup hnotTerminal hcanceled =>
      cases (statusOf_of_lookup hlookup).symm.trans hstatus
      rw [hnotTerminal] at hterminal
      cases hterminal

/-- While a trade is in hand, a clear step of another call leaves its order queueing. -/
theorem filling_kept (h : CancelSafe pool)
    (hfresh : ∀ id, call.storing? = some id → id ∉ pool.shared.orders)
    (hclear : ∀ id, call.cancelsNext? = some id →
      ∀ order, pool.shared.orders.lookup id = some order → order.status.isTerminal = false →
        ∀ frame ∈ pool.calls, frame.filling? ≠ some id)
    (hstep : Advances (traderMachine defaults) () pool call next emitted before after result)
    {frame : Frame} (hframe : frame ∈ before ++ after) {trade : Trade}
    (htrade : frame.pendingTrade? = some trade) :
    statusOf result.shared.orders trade.brokerOrderId = some .kNotTradedQueueing := by
  have hmem := hstep.still_mem hframe
  have hqueueing := h.filling frame hmem trade htrade
  cases statusChange h.inFlight hfresh hstep trade.brokerOrderId with
  | same hsame => exact hsame.trans hqueueing
  | stored habsent => cases habsent.symm.trans hqueueing
  | filled other hpending horder hfilled =>
      obtain ⟨_, id, hopen, hid, -⟩ := h.inFlight.pending call hstep.call_mem other hpending
      obtain ⟨_, id', hopen', hid', -⟩ := h.inFlight.pending frame hmem trade htrade
      have hne : id' ≠ id := h.inFlight.open_elsewhere hstep hopen hframe hopen'
      exact absurd (hid'.symm.trans (horder.symm.trans hid)) hne
  | canceled hmarks order hlookup hnotTerminal hcanceled =>
      refine absurd ?_ (hclear _ hmarks order hlookup hnotTerminal frame hmem)
      rw [Frame.filling?, htrade, Option.map_some]

theorem advances (h : CancelSafe pool)
    (hfresh : ∀ id, call.storing? = some id → id ∉ pool.shared.orders)
    (hfills : ∀ id, call.fillsNext? = some id → pool.shared.fills = true →
      ∀ order, pool.shared.orders.lookup id = some order → order.status.isTerminal = false)
    (hcancels : ∀ id, call.cancelsNext? = some id →
      ∀ order, pool.shared.orders.lookup id = some order → order.status.isTerminal = false →
        ∀ frame ∈ pool.calls, frame.filling? ≠ some id)
    (hstep : Advances (traderMachine defaults) () pool call next emitted before after result) :
    CancelSafe result where
  inFlight := h.inFlight.advances hfresh hstep
  filling frame hframe trade htrade := by
    rcases hstep.mem_result hframe with rfl | hother
    · rcases pending_before hstep htrade with ⟨hpending, horders⟩ |
        ⟨hnext, hfill, ⟨request, hopen⟩, horders⟩
      · rw [horders]
        exact h.filling call hstep.call_mem trade hpending
      · obtain ⟨order, hlookup, -, hunfilled⟩ :=
          h.inFlight.openOrders call hstep.call_mem request _ hopen
        have hnotTerminal := hfills _ hnext hfill order hlookup
        rw [horders, statusOf_of_lookup hlookup]
        rcases hunfilled with hqueueing | hcanceled
        · rw [hqueueing]
        · rw [hcanceled] at hnotTerminal
          cases hnotTerminal
    · exact h.filling_kept hfresh hcancels hstep hother htrade
  canceled frame hframe id hid := by
    have hkept (hstatus : statusOf pool.shared.orders id = some .kCanceled) :
        statusOf result.shared.orders id = some .kCanceled :=
      h.terminal_kept hfresh hstep hstatus rfl
    rcases hstep.mem_result hframe with rfl | hother
    · rcases canceled_before hstep hid with hbefore | hmarked
      · exact hkept (h.canceled call hstep.call_mem id hbefore)
      · exact hmarked
    · exact hkept (h.canceled frame (hstep.still_mem hother) id hid)
  published trade htrade := by
    have hhanded (hpending : call.pendingTrade? = some trade) :
        statusOf result.shared.orders trade.brokerOrderId = some .kFilled ∨
          ∃ frame ∈ result.calls, frame.pendingTrade? = some trade := by
      rcases pending_after h.inFlight hstep hpending with hnext | hfilled
      · exact .inr ⟨next, hstep.next_mem, hnext⟩
      · exact .inl hfilled
    rcases traded_before hstep htrade with hbefore | hpending
    · rcases h.published trade hbefore with hfilled | ⟨frame, hframe, hheld⟩
      · exact .inl (h.terminal_kept hfresh hstep hfilled rfl)
      · rcases hstep.mem_pool hframe with rfl | hstill
        · exact hhanded hheld
        · exact .inr ⟨frame, hstill, hheld⟩
    · exact hhanded hpending

theorem enter (h : CancelSafe pool) (input : OrderCall) :
    CancelSafe { pool with calls := pool.calls ++ [Frame.enter input] } where
  inFlight := h.inFlight.enter input
  filling frame hframe trade htrade := by
    rcases List.mem_append.mp hframe with hold | hnew
    · exact h.filling frame hold trade htrade
    · rw [List.mem_singleton.mp hnew] at htrade
      cases input <;> cases htrade
  canceled frame hframe id hid := by
    rcases List.mem_append.mp hframe with hold | hnew
    · exact h.canceled frame hold id hid
    · rw [List.mem_singleton.mp hnew] at hid
      cases input <;> cases hid
  published trade htrade := by
    rcases h.published trade htrade with hfilled | ⟨frame, hframe, hheld⟩
    · exact .inl hfilled
    · exact .inr ⟨frame, List.mem_append_left _ hframe, hheld⟩

/-- What happens outside the calls touches neither store and publishes no trade. -/
theorem outside (h : CancelSafe pool) (change : Outside) :
    CancelSafe ⟨(changeOutside change pool.shared).1, pool.calls,
      pool.log ++ (changeOutside change pool.shared).2⟩ := by
  have horders : (changeOutside change pool.shared).1.orders = pool.shared.orders := by
    cases change <;> rfl
  have htrades : (changeOutside change pool.shared).1.trades = pool.shared.trades := by
    cases change <;> rfl
  have hquiet : ∀ trade, Delivery.onTrade trade ∉ (changeOutside change pool.shared).2 := by
    intro trade hmem
    cases change with
    | connect =>
        simp only [changeOutside, connect, MockTraderSpi.publishConnected] at hmem
        split at hmem <;> simp at hmem
    | disconnect => cases hmem
    | setAutoFill autoFill => cases hmem
  constructor
  · constructor
    · rw [horders]
      exact h.inFlight.openOrders
    · exact h.inFlight.openOnce
    · exact h.inFlight.pending
  · rw [horders]
    exact h.filling
  · rw [horders]
    exact h.canceled
  · intro trade htrade
    rw [Traded, htrades, List.mem_append] at htrade
    rw [horders]
    exact h.published trade (htrade.imp_left fun hlog => hlog.resolve_right (hquiet trade))

/-- One step of a clear run: the invariant stays, and so does every terminal status. -/
theorem step {label : TraderLabel} (hok : Fresh pool label ∧ CancelClear pool label)
    (h : CancelSafe pool) (hstep : traderStep defaults pool label = some result) :
    CancelSafe result ∧ ∀ id status, statusOf pool.shared.orders id = some status →
      status.isTerminal = true → statusOf result.shared.orders id = some status := by
  obtain ⟨hfresh, hclear⟩ := hok
  rcases step_cases hstep with ⟨input, rfl, rfl⟩ |
    ⟨index, _, call, next, emitted, before, after, rfl, hcall, hadvances⟩ | ⟨change, rfl, rfl⟩
  · exact ⟨h.enter input, fun _ _ hstatus _ => hstatus⟩
  · simp only [Fresh, CancelClear, hcall, Option.bind_some] at hfresh hclear
    exact ⟨h.advances hfresh hclear.1 hclear.2 hadvances,
      fun _ _ hstatus hterminal => h.terminal_kept hfresh hadvances hstatus hterminal⟩
  · refine ⟨h.outside change, fun _ _ hstatus _ => ?_⟩
    cases change <;> exact hstatus

end CancelSafe

/-- No status that was terminal at some point of the run is another one at its end. -/
def TerminalsKept (defaults : Defaults) (start pool : TraderPool) (labels : List TraderLabel) :
    Prop :=
  ∀ first rest middle, labels = first ++ rest →
    Runs.exec (traderStep defaults) start first = some middle →
    ∀ id status, statusOf middle.shared.orders id = some status → status.isTerminal = true →
      statusOf pool.shared.orders id = some status

/-- No id has both a cancel that succeeded and a trade. -/
def NeverBoth (pool : TraderPool) : Prop :=
  ∀ cancel : CancelOrderRequest, .cancelReturned cancel (.returned .kSuccess) ∈ pool.calls →
    ∀ trade, Traded pool trade → trade.brokerOrderId ≠ cancel.brokerOrderId

theorem CancelSafe.neverBoth {pool : TraderPool} (h : CancelSafe pool) : NeverBoth pool := by
  intro cancel hcancel trade htrade hsame
  have hcanceled := h.canceled _ hcancel _ rfl
  rw [← hsame] at hcanceled
  rcases h.published trade htrade with hfilled | ⟨frame, hframe, hheld⟩
  · cases hfilled.symm.trans hcanceled
  · cases (h.filling frame hframe trade hheld).symm.trans hcanceled

section Runs

variable {defaults : Defaults} {start result : TraderPool} {labels : List TraderLabel}

theorem cancelSafe_run
    (hok : Runs.Along (traderStep defaults)
      (fun pool label => Fresh pool label ∧ CancelClear pool label) start labels)
    (hrun : Runs.exec (traderStep defaults) start labels = some result)
    (hstart : CancelSafe start) : CancelSafe result :=
  Runs.exec_invariant (fun hok h hstep => (h.step hok hstep).1) hok hrun hstart

theorem terminalsKept_run
    (hok : Runs.Along (traderStep defaults)
      (fun pool label => Fresh pool label ∧ CancelClear pool label) start labels)
    (hrun : Runs.exec (traderStep defaults) start labels = some result)
    (hstart : CancelSafe start) : TerminalsKept defaults start result labels := by
  intro first rest middle hsplit hfirst id status hstatus hterminal
  subst hsplit
  obtain ⟨hfirstOk, hrestOk⟩ := Runs.along_append.mp hok
  rw [Runs.exec_append, hfirst, Option.bind_some] at hrun
  have hmiddle : CancelSafe middle := cancelSafe_run hfirstOk hfirst hstart
  let Holds : TraderPool → Prop := fun pool =>
    CancelSafe pool ∧ statusOf pool.shared.orders id = some status
  have hholds : Holds result := by
    refine Runs.exec_invariant ?_ (hrestOk middle hfirst) hrun ⟨hmiddle, hstatus⟩
    rintro pool label next hstepOk ⟨hsafe, hbefore⟩ hstep
    obtain ⟨hnext, hstays⟩ := hsafe.step hstepOk hstep
    exact ⟨hnext, hstays id status hbefore hterminal⟩
  exact hholds.2

end Runs

/-! ## Which runs keep cancels and fills apart -/

/-- In every run that stores under free ids and whose steps are all clear, a terminal
status never changes, and no order is both canceled and traded. -/
theorem clear_runs_safe (defaults : Defaults) (spi : MockTraderSpi) (onOrder onTrade : Bool)
    (labels : List TraderLabel) (pool : TraderPool)
    (hfresh : Runs.Along (traderStep defaults) Fresh
      (Concurrent.idle (.observed spi onOrder onTrade)) labels)
    (hclear : Runs.Along (traderStep defaults) CancelClear
      (Concurrent.idle (.observed spi onOrder onTrade)) labels)
    (hrun : Runs.exec (traderStep defaults)
      (Concurrent.idle (.observed spi onOrder onTrade)) labels = some pool) :
    TerminalsKept defaults (Concurrent.idle (.observed spi onOrder onTrade)) pool labels ∧
      NeverBoth pool := by
  have hstart := cancelSafe_observed spi onOrder onTrade
  have hok := hfresh.and hclear
  exact ⟨terminalsKept_run hok hrun hstart, (cancelSafe_run hok hrun hstart).neverBoth⟩

/-- One order fills and refuses a late cancel, another one rests and is canceled. -/
theorem clear_runs_safe_sample :
    let labels : List TraderLabel :=
      [.outside .connect, .start (.sendOrder (.buyOne 0)), .start (.cancelOrder ⟨1, "x"⟩)] ++
        List.replicate 7 (.advance 0 ()) ++ List.replicate 2 (.advance 1 ()) ++
        [.outside (.setAutoFill false), .start (.sendOrder (.buyOne 0)),
          .start (.cancelOrder ⟨2, "x"⟩)] ++
        List.replicate 4 (.advance 2 ()) ++ List.replicate 4 (.advance 3 ())
    let start := Concurrent.idle (.observed ⟨false⟩ true true)
    (Runs.exec (traderStep .zero) start labels).isSome ∧
      ∀ pool, Runs.exec (traderStep .zero) start labels = some pool →
        TerminalsKept .zero start pool labels ∧ NeverBoth pool :=
  ⟨by decide, fun pool hrun =>
    clear_runs_safe .zero ⟨false⟩ true true _ pool (by decide) (by decide) hrun⟩

/-- A cancel made from inside the order callback of a filling send succeeds; the send
then trades and fills the canceled order. -/
theorem cancel_then_filled :
    let first : List TraderLabel :=
      [.outside .connect, .start (.sendOrder (.buyOne 0))] ++ List.replicate 4 (.advance 0 ()) ++
        .start (.cancelOrder ⟨1, "x"⟩) :: List.replicate 4 (.advance 1 ())
    let labels := first ++ List.replicate 3 (.advance 0 ())
    let start := Concurrent.idle (.observed ⟨false⟩ true true)
    Runs.Along (traderStep .zero) Fresh start labels ∧
      ∃ pool, Runs.exec (traderStep .zero) start labels = some pool ∧
        ¬ TerminalsKept .zero start pool labels ∧ ¬ NeverBoth pool := by
  refine ⟨by decide, _, rfl, fun hkept => ?_, fun hnever => ?_⟩
  · have hcanceled := hkept _ _ _ rfl rfl 1 .kCanceled (by decide) rfl
    exact absurd hcanceled (by decide)
  · exact hnever ⟨1, "x"⟩ (.tail _ (.head _)) _ (.inr (.head _)) rfl

end QtradeClient.Mock
