import QtradeClient.Mock.TraderLedger
import QtradeClient.Mock.TraderQueries

/-!
# The three queries agree

`QueryOrders` reads the order table, `QueryTrades` and `QueryPositions` the trade log.  In
a run that stores under free ids the filled orders and the trades are the same on their
terms, so the positions are what the filled orders add up to.
-/

namespace QtradeClient.Mock

open Sdk Library Library.Tally MockTraderApi

/-- The request for the filled orders. -/
def filledOrders : QueryOrdersRequest := ⟨"", 0, .kFilled⟩

/-- How far an order on these terms moves the position in its instrument, once filled. -/
def Terms.signedVolume (terms : Terms) : Int :=
  if terms.side = .kBuy then terms.volume else -terms.volume

/-- What orders of an instrument add up to. -/
def exposure (orders : Multiset Order) (instrument : String) : Int :=
  ((orders.filter fun order => order.instrument = instrument).map fun order =>
    (orderTerms order).signedVolume).sum

/-- What a filled order and its trade have in common. -/
def orderFill (order : Order) : UInt64 × Terms := (order.brokerOrderId, orderTerms order)

def tradeFill (trade : Trade) : UInt64 × Terms := (trade.brokerOrderId, tradeTerms trade)

theorem Filed.agree {orders : OrderTable} {trades : List Trade} (h : Filed orders trades) :
    Agree (fun trade => trade.brokerOrderId) (fun order => order.status = .kFilled) tradeFill
      orderFill trades orders where
  single id order hlookup hfilled := by
    have hentry := h.entries id order hlookup
    obtain ⟨-, -, trade, htrades, hterms⟩ := hentry.filled hfilled
    have hmem : trade ∈ tradesOf trades id := htrades ▸ List.mem_singleton_self trade
    have hid : trade.brokerOrderId = id := of_decide_eq_true (List.mem_filter.mp hmem).2
    exact ⟨trade, htrades, Prod.ext (hid.trans hentry.filed.symm) hterms⟩
  none id order hlookup hunfilled := ((h.entries id order hlookup).unfilled hunfilled).2.2
  named := h.named

theorem queryOrders_filled (api : MockTraderApi) :
    api.queryOrders filledOrders =
      (api.orders.entries.filter fun entry => entry.2.status = .kFilled).map
        fun entry => entry.2 := by
  unfold queryOrders
  refine congrArg _ (Multiset.filter_congr fun entry _ => ?_)
  by_cases hfilled : entry.2.status = .kFilled <;> simp [matchesQuery, filledOrders, hfilled]

theorem queryTrades_all (api : MockTraderApi) : api.queryTrades ⟨"", "", 0⟩ = api.trades := by
  apply List.filter_eq_self.mpr
  intro trade _
  simp [matchesTradesQuery]

/-- The trades are the filled orders, with their ids and on their terms. -/
theorem trades_are_fills {api : MockTraderApi} (h : Filed api.orders api.trades) :
    (api.trades.map tradeFill : Multiset (UInt64 × Terms)) =
      (api.queryOrders filledOrders).map orderFill := by
  rw [h.agree.map_eq, queryOrders_filled, Multiset.map_map]
  rfl

/-- So the net of an instrument is what its filled orders add up to. -/
theorem netVolume_eq_exposure {api : MockTraderApi} (h : Filed api.orders api.trades)
    (instrument : String) :
    netVolume api.trades instrument = exposure (api.queryOrders filledOrders) instrument := by
  have hfills := congrArg
    (fun fills : Multiset (UInt64 × Terms) =>
      ((fills.filter fun fill => fill.2.instrument = instrument).map fun fill =>
        fill.2.signedVolume).sum)
    (trades_are_fills h)
  simp only [← Multiset.map_coe, Multiset.filter_map, Multiset.map_map] at hfills
  rw [netVolume, ← Multiset.sum_coe, ← Multiset.map_coe, ← Multiset.filter_coe]
  exact hfills

/-- In every interleaving that stores under free ids: the trades that `QueryTrades` answers
with are the filled orders that `QueryOrders` answers with, each under its id and on its
terms; there is a position in an instrument exactly if an order in it is filled, and it
holds what the filled orders in the instrument add up to. -/
theorem queries_agree (defaults : Defaults) (hdefault : defaults.order.tradedVolume = 0)
    {blank : Position} (hblank : blank.totalVolume = 0) (spi : MockTraderSpi)
    (onOrder onTrade : Bool) (labels : List TraderLabel) (pool : TraderPool)
    (hfresh : Runs.Along (traderStep defaults) Fresh
      (Concurrent.idle (.observed spi onOrder onTrade)) labels)
    (hrun : Runs.exec (traderStep defaults)
      (Concurrent.idle (.observed spi onOrder onTrade)) labels = some pool)
    (response : QueryPositionResponse) :
    let filled := pool.shared.queryOrders filledOrders
    let positions := (queryPositions blank pool.shared ⟨""⟩ response).2.positions
    ((pool.shared.queryTrades ⟨"", "", 0⟩).map tradeFill : Multiset (UInt64 × Terms)) =
        filled.map orderFill ∧
      (∀ instrument, (∃ p ∈ positions, p.instrument = instrument) ↔
        ∃ order ∈ filled, order.instrument = instrument) ∧
      ∀ p ∈ positions, heldVolume p = exposure filled p.instrument := by
  intro filled positions
  have hledger : Ledger pool :=
    ledger_run hdefault hfresh hrun (ledger_observed spi onOrder onTrade)
  have hfills := trades_are_fills hledger.filed
  refine ⟨?_, fun instrument => ?_, fun p hp => ?_⟩
  · rw [queryTrades_all]
    exact hfills
  · have hinstruments := congrArg (Multiset.map fun fill => fill.2.instrument) hfills
    rw [Multiset.map_map, Multiset.map_coe, List.map_map] at hinstruments
    have htraded : instrument ∈ (pool.shared.trades.map fun trade => trade.instrument :
        Multiset String) ↔ instrument ∈ filled.map fun order => order.instrument :=
      hinstruments ▸ Iff.rfl
    rw [Multiset.mem_coe, List.mem_map, Multiset.mem_map] at htraded
    refine (exists_mem_queryPositions hblank).trans (.trans ?_ htraded)
    exact exists_congr fun trade => and_congr_right fun _ => and_iff_right (.inl rfl)
  · rw [(sides_of_mem hblank hp).2.1]
    exact netVolume_eq_exposure hledger.filed p.instrument

/-- Two orders fill and a third one is canceled on the way to its fill. -/
theorem queries_agree_sample :
    let labels : List TraderLabel :=
      [.outside .connect, .start (.sendOrder (.buyOne 5)), .start (.sendOrder (.buyOne 6)),
        .start (.sendOrder (.buyOne 7)), .start (.cancelOrder ⟨7, "x"⟩)] ++
        List.replicate 7 (.advance 0 ()) ++ List.replicate 4 (.advance 2 ()) ++
        List.replicate 7 (.advance 1 ()) ++ List.replicate 4 (.advance 3 ())
    ∃ pool, Runs.exec (traderStep .zero) (Concurrent.idle (.observed ⟨false⟩ true true)) labels =
        some pool ∧
      ((pool.shared.queryTrades ⟨"", "", 0⟩).map tradeFill : Multiset (UInt64 × Terms)) =
        (pool.shared.queryOrders filledOrders).map orderFill ∧
      ∀ p ∈ (queryPositions .flat pool.shared ⟨""⟩ ⟨0⟩).2.positions,
        heldVolume p = exposure (pool.shared.queryOrders filledOrders) p.instrument := by
  intro labels
  have hfresh : Runs.Along (traderStep .zero) Fresh
      (Concurrent.idle (.observed ⟨false⟩ true true)) labels := by decide
  have hflat : Position.flat.totalVolume = 0 := rfl
  exact ⟨_, rfl, (queries_agree .zero rfl hflat ⟨false⟩ true true labels _ hfresh rfl ⟨0⟩).imp id
    And.right⟩

end QtradeClient.Mock
