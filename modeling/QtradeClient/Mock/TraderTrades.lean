import QtradeClient.Library.Numbering
import QtradeClient.Mock.TraderLedger

/-!
# Numbers of trades, and the whole ledger

A trade takes its number before the trade callback runs and enters the log after
it, so calls in flight may hold numbers that the log does not show yet, and may
append them in another order.  Together with the ledger this gives the agreement
of the two stores in every reachable state.
-/

namespace QtradeClient.Mock

open Sdk Library MockTraderApi

theorem tradeName_injective : Function.Injective tradeName := by
  intro first second hname
  have hrepr : first.toNat.repr = second.toNat.repr := (String.append_right_inj _).mp hname
  have hdigits : Nat.toDigits 10 first.toNat = Nat.toDigits 10 second.toNat := by
    rw [← Nat.toList_repr, ← Nat.toList_repr, hrepr]
  apply UInt64.toNat_inj.mp
  rw [← Nat.ofDigitChars_ten_toDigits (n := first.toNat), hdigits,
    Nat.ofDigitChars_ten_toDigits]

/-- The trades a run has made: those in the log and those in hand. -/
def made (pool : TraderPool) : List Trade :=
  pool.shared.trades ++ pool.calls.filterMap Frame.pendingTrade?

/-- The names a counter gives out from one on. -/
def tradeNames (count : Nat) : List String :=
  ((List.range' 1 count).map UInt64.ofNat).map tradeName

theorem tradeNames_succ (count : Nat) :
    tradeNames (count + 1) = tradeNames count ++ [tradeName (UInt64.ofNat (count + 1))] := by
  rw [tradeNames, List.range'_concat, List.map_append, List.map_append, Nat.one_mul,
    Nat.add_comm 1 count]
  rfl

theorem tradeNames_nodup {count : Nat} (hcount : count < 2 ^ 64) : (tradeNames count).Nodup :=
  (Numbering.counter_nodup (by omega)).map tradeName_injective

/-- The trades made carry the names given out so far, each once. -/
structure Numbered (pool : TraderPool) : Prop where
  names : ((made pool).map Trade.tradeId).Perm (tradeNames (made pool).length)
  counter : pool.shared.nextTradeId = UInt64.ofNat ((made pool).length + 1)

theorem numbered_idle (spi : MockTraderSpi) (onOrder onTrade : Bool) :
    Numbered (Concurrent.idle (.observed spi onOrder onTrade)) :=
  ⟨.refl [], rfl⟩

namespace Numbered

open Concurrent

variable {defaults : Defaults} {pool result : TraderPool} {call next : Frame}
  {emitted : List Delivery} {before after : List Frame}

theorem of_perm (h : Numbered pool) (hmade : (made result).Perm (made pool))
    (hcounter : result.shared.nextTradeId = pool.shared.nextTradeId) : Numbered result where
  names := by
    rw [hmade.length_eq]
    exact (hmade.map Trade.tradeId).trans h.names
  counter := by
    rw [hmade.length_eq, hcounter]
    exact h.counter

theorem take (h : Numbered pool) (trade : Trade)
    (hmade : (made result).Perm (made pool ++ [trade]))
    (htrade : trade.tradeId = tradeName pool.shared.nextTradeId)
    (hcounter : result.shared.nextTradeId = pool.shared.nextTradeId + 1) : Numbered result where
  names := by
    rw [hmade.length_eq, List.length_append, List.length_singleton, tradeNames_succ]
    apply (hmade.map Trade.tradeId).trans
    rw [List.map_append, List.map_singleton, htrade, h.counter]
    exact h.names.append_right _
  counter := by
    rw [hmade.length_eq, List.length_append, List.length_singleton, hcounter, h.counter,
      Numbering.counter_succ]

theorem advances (h : Numbered pool)
    (hstep : Advances (traderMachine defaults) () pool call next emitted before after result) :
    Numbered result := by
  have hpool := hstep.pool_filterMap Frame.pendingTrade?
  have hresult := hstep.result_filterMap Frame.pendingTrade?
  have heffect := advance_effect hstep.effect
  generalize hshared : result.shared = shared at heffect
  cases heffect with
  | passive orders trades counter openOrder notPending stillNotPending canceled noTrade =>
      rw [notPending] at hpool
      rw [stillNotPending] at hresult
      refine h.of_perm ?_ (hshared ▸ counter)
      rw [made, made, hshared, trades]
      exact (hresult.trans hpool.symm).append_left _
  | store request id =>
      refine h.of_perm ?_ (by rw [hshared]; rfl)
      rw [made, made, hshared]
      exact (hresult.trans hpool.symm).append_left _
  | makeTrade request id fills =>
      refine h.take (newTrade defaults request id pool.shared.nextTradeId) ?_ rfl
        (by rw [hshared]; rfl)
      rw [made, made, hshared, List.append_assoc]
      refine List.Perm.append_left _ (hresult.trans ?_)
      exact List.perm_append_comm.trans (hpool.symm.append_right _)
  | announce request id trade =>
      refine h.of_perm ?_ (by rw [hshared])
      rw [made, made, hshared]
      exact (hresult.trans hpool.symm).append_left _
  | fill request id trade =>
      refine h.of_perm ?_ (by rw [hshared, fill_nextTradeId])
      rw [made, made, hshared, fill_trades, List.append_assoc]
      exact ((hresult.append_left _).trans hpool.symm).append_left _
  | mark request canceled after marks =>
      obtain ⟨stored, hstored, hterminal, -, hafter⟩ := markCanceled_ok marks
      refine h.of_perm ?_ (by rw [hshared, hafter])
      rw [made, made, hshared, hafter]
      exact (hresult.trans hpool.symm).append_left _

theorem step (h : Numbered pool) {label : TraderLabel}
    (hstep : traderStep defaults pool label = some result) : Numbered result := by
  rcases step_cases hstep with ⟨input, rfl, rfl⟩ |
    ⟨index, _, call, next, emitted, before, after, rfl, hcall, hadvances⟩ | ⟨change, rfl, rfl⟩
  · refine h.of_perm ?_ rfl
    have hpending : (Frame.enter input).pendingTrade? = none := by cases input <;> rfl
    change (_ ++ (pool.calls ++ [Frame.enter input]).filterMap _).Perm _
    rw [List.filterMap_append, List.filterMap_cons, hpending, List.filterMap_nil,
      List.append_nil]
    exact .refl _
  · exact h.advances hadvances
  · cases change with
    | connect => exact ⟨h.names, h.counter⟩
    | disconnect => exact ⟨h.names, h.counter⟩
    | setAutoFill autoFill => exact ⟨h.names, h.counter⟩

theorem ids_nodup (h : Numbered pool) (hcount : (made pool).length < 2 ^ 64) :
    (pool.shared.trades.map Trade.tradeId).Nodup := by
  have hmade : ((made pool).map Trade.tradeId).Nodup :=
    h.names.nodup_iff.mpr (tradeNames_nodup hcount)
  exact hmade.sublist ((List.sublist_append_left _ _).map _)

end Numbered

/-! ## The agreement of the two stores -/

/-- The two stores of the trader, as a reader of both expects to find them. -/
structure Agreement (orders : OrderTable) (trades : List Trade) : Prop where
  traded : ∀ trade ∈ trades, ∃ order, orders.lookup trade.brokerOrderId = some order ∧
    order.status = .kFilled ∧ tradeTerms trade = orderTerms order
  filledOnce : ∀ id order, orders.lookup id = some order → order.status = .kFilled →
    ∃ trade, tradesOf trades id = [trade]
  untraded : ∀ id order, orders.lookup id = some order → order.status ≠ .kFilled →
    tradesOf trades id = []
  volumes : ∀ id order, orders.lookup id = some order →
    order.tradedVolume + order.leftVolume = order.volume ∧
      order.tradedVolume = ((tradesOf trades id).map Trade.volume).sum

theorem Filed.agreement {orders : OrderTable} {trades : List Trade}
    (h : Filed orders trades) : Agreement orders trades where
  traded _ htrade := h.traded htrade
  filledOnce id order hlookup hstatus := by
    obtain ⟨-, -, trade, htrade, -⟩ := (h.entries id order hlookup).filled hstatus
    exact ⟨trade, htrade⟩
  untraded id order hlookup hstatus := ((h.entries id order hlookup).unfilled hstatus).2.2
  volumes id order hlookup := (h.entries id order hlookup).volumes

/-- In every state that overlapping calls can reach, storing under free ids, the order
table and the trade log agree, and trade ids do not repeat while the numbers last. -/
theorem stores_agree (defaults : Defaults) (hdefault : defaults.order.tradedVolume = 0)
    (spi : MockTraderSpi) (onOrder onTrade : Bool) (labels : List TraderLabel)
    (pool : TraderPool)
    (hfresh : Runs.Along (traderStep defaults) Fresh
      (Concurrent.idle (.observed spi onOrder onTrade)) labels)
    (hrun : Runs.exec (traderStep defaults)
      (Concurrent.idle (.observed spi onOrder onTrade)) labels = some pool) :
    Agreement pool.shared.orders pool.shared.trades ∧
      ((made pool).length < 2 ^ 64 → (pool.shared.trades.map Trade.tradeId).Nodup) := by
  have hledger : Ledger pool :=
    ledger_run hdefault hfresh hrun (ledger_observed spi onOrder onTrade)
  have hnumbered : Numbered pool :=
    Runs.exec_preserves (fun h hstep => h.step hstep) hrun
      (numbered_idle spi onOrder onTrade)
  exact ⟨hledger.filed.agreement, hnumbered.ids_nodup⟩

/-- An order is canceled between its trade and its fill, another one fills. -/
theorem stores_agree_sample :
    let labels : List TraderLabel :=
      [.outside .connect, .start (.sendOrder (.buyOne 0)), .start (.sendOrder (.buyOne 9)),
        .start (.cancelOrder ⟨9, "x"⟩)] ++ List.replicate 5 (.advance 1 ()) ++
        List.replicate 4 (.advance 2 ()) ++ List.replicate 7 (.advance 0 ())
    let start := Concurrent.idle (.observed ⟨false⟩ true true)
    (Runs.exec (traderStep .zero) start labels).isSome ∧
      ∀ pool, Runs.exec (traderStep .zero) start labels = some pool →
        Agreement pool.shared.orders pool.shared.trades :=
  ⟨by decide, fun pool hrun =>
    (stores_agree .zero rfl ⟨false⟩ true true _ pool (by decide) hrun).1⟩

end QtradeClient.Mock
