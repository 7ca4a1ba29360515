import Mathlib.Algebra.Ring.Int.Defs
import QtradeClient.Mock.TraderFlight

/-!
# The order table and the trade log agree

The two stores of the mock trader are written by different pieces of a call, under
two separate acquisitions of the mutex.  `Filed` relates them to each other, and
`InFlight` to the calls that have written only one of them so far.
-/

namespace QtradeClient.Mock

open Sdk Library MockTraderApi

/-- The trades of one order. -/
def tradesOf (trades : List Trade) (id : UInt64) : List Trade :=
  trades.filter fun trade => trade.brokerOrderId = id

theorem tradesOf_concat_self {trades : List Trade} {id : UInt64} {trade : Trade}
    (htrade : trade.brokerOrderId = id) :
    tradesOf (trades ++ [trade]) id = tradesOf trades id ++ [trade] := by
  simp [tradesOf, htrade]

theorem tradesOf_append_other {trades more : List Trade} {id : UInt64}
    (hmore : ∀ trade ∈ more, trade.brokerOrderId ≠ id) :
    tradesOf (trades ++ more) id = tradesOf trades id := by
  have hnone : tradesOf more id = [] := by
    rw [tradesOf, List.filter_eq_nil_iff]
    intro trade htrade hid
    exact hmore trade htrade (of_decide_eq_true hid)
  rw [tradesOf, List.filter_append]
  change _ ++ tradesOf more id = _
  rw [hnone, List.append_nil]
  rfl

/-- One entry of the table and the trades filed under it. -/
structure Entry (trades : List Trade) (id : UInt64) (order : Order) : Prop where
  filed : order.brokerOrderId = id
  filled : order.status = .kFilled →
    order.tradedVolume = order.volume ∧ order.leftVolume = 0 ∧
      ∃ trade, tradesOf trades id = [trade] ∧ tradeTerms trade = orderTerms order
  unfilled : order.status ≠ .kFilled →
    order.tradedVolume = 0 ∧ order.leftVolume = order.volume ∧ tradesOf trades id = []

namespace Entry

variable {trades : List Trade} {id : UInt64} {order : Order}

theorem append_other (h : Entry trades id order) {more : List Trade}
    (hmore : ∀ trade ∈ more, trade.brokerOrderId ≠ id) : Entry (trades ++ more) id order where
  filed := h.filed
  filled := by
    rw [tradesOf_append_other hmore]
    exact h.filled
  unfilled := by
    rw [tradesOf_append_other hmore]
    exact h.unfilled

/-- A new order has no trade yet. -/
theorem new {defaults : Defaults} (hdefault : defaults.order.tradedVolume = 0)
    (request : OrderRequest) (hnone : tradesOf trades id = []) :
    Entry trades id (newOrder defaults request id) where
  filed := rfl
  filled hstatus := by cases hstatus
  unfilled _ := ⟨hdefault, rfl, hnone⟩

theorem canceled (h : Entry trades id order) (hstatus : order.status ≠ .kFilled)
    (request : CancelOrderRequest) : Entry trades id (canceledBy order request) where
  filed := h.filed
  filled hcanceled := by cases hcanceled
  unfilled _ := h.unfilled hstatus

/-- An unfilled order and the trade of its `SendOrder` make a filled one. -/
theorem filledBy (h : Entry trades id order) (hstatus : order.status ≠ .kFilled)
    {trade : Trade} (htrade : trade.brokerOrderId = id)
    (hterms : tradeTerms trade = orderTerms order) :
    Entry (trades ++ [trade]) id (MockTraderApi.filledBy order trade) where
  filed := h.filed
  filled _ := by
    refine ⟨rfl, rfl, trade, ?_, hterms⟩
    rw [tradesOf_concat_self htrade, (h.unfilled hstatus).2.2, List.nil_append]
  unfilled hstill := absurd rfl hstill

theorem volumes (h : Entry trades id order) :
    order.tradedVolume + order.leftVolume = order.volume ∧
      order.tradedVolume = ((tradesOf trades id).map Trade.volume).sum := by
  by_cases hstatus : order.status = .kFilled
  · obtain ⟨htraded, hleft, trade, htrades, hterms⟩ := h.filled hstatus
    have hvolume : trade.volume = order.volume := congrArg Terms.volume hterms
    rw [htrades, List.map_singleton, List.sum_singleton, htraded, hleft, hvolume]
    exact ⟨Int.add_zero _, rfl⟩
  · obtain ⟨htraded, hleft, hnone⟩ := h.unfilled hstatus
    rw [hnone, htraded, hleft]
    exact ⟨Int.zero_add _, rfl⟩

end Entry

/-- Every order has its trades, and every trade its order. -/
structure Filed (orders : OrderTable) (trades : List Trade) : Prop where
  entries : ∀ id order, orders.lookup id = some order → Entry trades id order
  named : ∀ trade ∈ trades, trade.brokerOrderId ∈ orders

namespace Filed

variable {orders : OrderTable} {trades : List Trade}

theorem empty : Filed ∅ [] where
  entries id order hlookup := by
    rw [Finmap.lookup_empty] at hlookup
    cases hlookup
  named trade htrade := by cases htrade

theorem no_trades (h : Filed orders trades) {id : UInt64} (hfresh : id ∉ orders) :
    tradesOf trades id = [] := by
  rw [tradesOf, List.filter_eq_nil_iff]
  intro trade htrade hid
  have hnamed := h.named trade htrade
  rw [of_decide_eq_true hid] at hnamed
  exact hfresh hnamed

/-- Writing one entry together with trades for it alone. -/
theorem write (h : Filed orders trades) {id : UInt64} {order : Order} {more : List Trade}
    (hentry : Entry (trades ++ more) id order)
    (hmore : ∀ trade ∈ more, trade.brokerOrderId = id) :
    Filed (orders.insert id order) (trades ++ more) where
  entries other found hlookup := by
    by_cases hid : other = id
    · subst hid
      rw [Finmap.lookup_insert] at hlookup
      cases hlookup
      exact hentry
    · rw [Finmap.lookup_insert_of_ne _ hid] at hlookup
      apply (h.entries other found hlookup).append_other
      intro trade htrade hsame
      apply hid
      rw [← hsame, hmore trade htrade]
  named trade htrade := by
    rw [Finmap.mem_insert]
    rcases List.mem_append.mp htrade with hold | hnew
    · exact .inr (h.named trade hold)
    · exact .inl (hmore trade hnew)

/-- Writing one entry and no trade. -/
theorem write_entry (h : Filed orders trades) {id : UInt64} {order : Order}
    (hentry : Entry trades id order) : Filed (orders.insert id order) trades := by
  rw [← List.append_nil trades] at hentry ⊢
  apply h.write hentry
  intro trade htrade
  cases htrade

/-- A trade in the log is filed under an order, which it has filled. -/
theorem traded (h : Filed orders trades) {trade : Trade} (htrade : trade ∈ trades) :
    ∃ order, orders.lookup trade.brokerOrderId = some order ∧
      order.status = .kFilled ∧ tradeTerms trade = orderTerms order := by
  obtain ⟨order, hlookup⟩ := Finmap.mem_iff.mp (h.named trade htrade)
  have hentry := h.entries _ order hlookup
  have hmem : trade ∈ tradesOf trades trade.brokerOrderId :=
    List.mem_filter.mpr ⟨htrade, decide_eq_true rfl⟩
  have hstatus : order.status = .kFilled := by
    by_contra hunfilled
    rw [(hentry.unfilled hunfilled).2.2] at hmem
    cases hmem
  obtain ⟨-, -, only, honly, hterms⟩ := hentry.filled hstatus
  rw [honly, List.mem_singleton] at hmem
  exact ⟨order, hlookup, hstatus, hmem ▸ hterms⟩

end Filed

/-- The two stores agree, and the calls in flight know where they stand. -/
structure Ledger (pool : TraderPool) : Prop where
  inFlight : InFlight pool
  filed : Filed pool.shared.orders pool.shared.trades

namespace Ledger

open Concurrent

variable {defaults : Defaults} {pool result : TraderPool}

theorem advances (h : Ledger pool) (hdefault : defaults.order.tradedVolume = 0)
    {call next : Frame} {emitted : List Delivery} {before after : List Frame}
    (hfresh : ∀ id, call.storing? = some id → id ∉ pool.shared.orders)
    (hstep : Advances (traderMachine defaults) () pool call next emitted before after result) :
    Filed result.shared.orders result.shared.trades := by
  have heffect := advance_effect hstep.effect
  generalize result.shared = shared at heffect
  cases heffect with
  | passive orders trades counter openOrder notPending stillNotPending canceled noTrade =>
      rw [orders, trades]
      exact h.filed
  | store request id =>
      have hnone := h.filed.no_trades (hfresh id rfl)
      exact h.filed.write_entry (.new hdefault request hnone)
  | makeTrade request id fills => exact h.filed
  | announce request id trade => exact h.filed
  | fill request id trade =>
      obtain ⟨stored, hstored, hunfilled, htrade, hterms⟩ :=
        h.inFlight.fillable hstep.call_mem
      have hentry := (h.filed.entries id stored hstored).filledBy hunfilled.ne_filled
        htrade hterms
      rw [fill_of_lookup hstored]
      apply h.filed.write hentry
      intro other hother
      rw [List.mem_singleton.mp hother, htrade]
  | mark request canceled after marks =>
      obtain ⟨stored, hstored, hterminal, -, rfl⟩ := markCanceled_ok marks
      have hnotFilled : stored.status ≠ .kFilled := by
        intro hfilled
        rw [hfilled] at hterminal
        cases hterminal
      exact h.filed.write_entry ((h.filed.entries _ stored hstored).canceled hnotFilled request)

theorem step (hdefault : defaults.order.tradedVolume = 0) {label : TraderLabel}
    (hfresh : Fresh pool label) (h : Ledger pool)
    (hstep : traderStep defaults pool label = some result) : Ledger result := by
  refine ⟨h.inFlight.step hfresh hstep, ?_⟩
  rcases step_cases hstep with ⟨input, rfl, rfl⟩ |
    ⟨index, _, call, next, emitted, before, after, rfl, hcall, hadvances⟩ | ⟨change, rfl, rfl⟩
  · exact h.filed
  · apply h.advances hdefault ?_ hadvances
    intro id hstoring
    apply hfresh id
    rw [hcall, Option.bind_some]
    exact hstoring
  · cases change with
    | connect => exact h.filed
    | disconnect => exact h.filed
    | setAutoFill autoFill => exact h.filed

end Ledger

theorem ledger_observed (spi : MockTraderSpi) (onOrder onTrade : Bool) :
    Ledger (Concurrent.idle (.observed spi onOrder onTrade)) :=
  ⟨inFlight_idle _, .empty⟩

theorem ledger_run {defaults : Defaults} (hdefault : defaults.order.tradedVolume = 0)
    {start result : TraderPool} {labels : List TraderLabel}
    (hfresh : Runs.Along (traderStep defaults) Fresh start labels)
    (hrun : Runs.exec (traderStep defaults) start labels = some result)
    (hstart : Ledger start) : Ledger result :=
  Runs.exec_invariant (Ledger.step hdefault) hfresh hrun hstart

end QtradeClient.Mock
