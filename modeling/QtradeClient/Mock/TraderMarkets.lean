import QtradeClient.Mock.TraderObservers
import QtradeClient.Mock.TraderQueries

/-!
# Positions of one code on several markets

The accounts of `QueryPositions` are kept under the instrument alone, and the market of
an account is that of the trade that was booked last.  So the positions tell markets
apart exactly as long as no code that is asked for was traded on two of them.
-/

namespace QtradeClient.Mock

open Sdk Library.Tally

namespace MockTraderApi

/-- The net of the trades of an instrument on one market. -/
def pairVolume (trades : List Trade) (instrument : String) (market : MarketType) : Int :=
  ((trades.filter fun trade => trade.instrument = instrument ∧ trade.market = market).map
    signedVolume).sum

/-- The trade is one that the request asks for. -/
def AskedFor (request : QueryPositionRequest) (trade : Trade) : Prop :=
  request.instrument = "" ∨ trade.instrument = request.instrument

instance (request : QueryPositionRequest) (trade : Trade) : Decidable (AskedFor request trade) :=
  inferInstanceAs (Decidable (_ ∨ _))

/-- No code that is asked for was traded on two markets. -/
def OneMarket (trades : List Trade) (request : QueryPositionRequest) : Prop :=
  ∀ first ∈ trades, ∀ second ∈ trades, AskedFor request first →
    first.instrument = second.instrument → first.market = second.market

instance (trades : List Trade) (request : QueryPositionRequest) :
    Decidable (OneMarket trades request) :=
  inferInstanceAs (Decidable (∀ first ∈ trades, ∀ second ∈ trades, AskedFor request first →
    first.instrument = second.instrument → first.market = second.market))

/-- The positions of the answer are those of the traded pairs of instrument and market. -/
structure MarketsApart (blank : Position) (api : MockTraderApi) (request : QueryPositionRequest)
    (response : QueryPositionResponse) : Prop where
  nets : ∀ p ∈ (queryPositions blank api request response).2.positions,
    heldVolume p = pairVolume api.trades p.instrument p.market
  own : ∀ trade ∈ api.trades, AskedFor request trade →
    ∃ p ∈ (queryPositions blank api request response).2.positions,
      p.instrument = trade.instrument ∧ p.market = trade.market
  unordered : ∀ other : MockTraderApi, other.trades.Perm api.trades → ∀ cleared,
    (queryPositions blank other request cleared).2.positions =
      (queryPositions blank api request response).2.positions

section Markets

variable {blank : Position} {api : MockTraderApi} {request : QueryPositionRequest}
  {response : QueryPositionResponse}

/-- An answer has one position for an instrument at most. -/
theorem eq_of_instrument (hblank : blank.totalVolume = 0) {first second : Position}
    (hfirst : first ∈ (queryPositions blank api request response).2.positions)
    (hsecond : second ∈ (queryPositions blank api request response).2.positions)
    (hinstrument : first.instrument = second.instrument) : first = second := by
  obtain ⟨instrument, account, hlookup, rfl⟩ := (mem_queryPositions ..).mp hfirst
  obtain ⟨other, account', hlookup', rfl⟩ := (mem_queryPositions ..).mp hsecond
  rw [settle_instrument, settle_instrument, (lookup_netPositions hblank hlookup).1,
    (lookup_netPositions hblank hlookup').1] at hinstrument
  rw [hinstrument, hlookup'] at hlookup
  rw [Option.some.inj hlookup]

@[simp]
theorem settle_market (position : Position) : (settle position).market = position.market := by
  unfold settle
  split <;> rfl

/-- With one market for each code, a position is on the market of its trades. -/
theorem market_of_mem (hone : OneMarket api.trades request) (hblank : blank.totalVolume = 0)
    {position : Position}
    (hmem : position ∈ (queryPositions blank api request response).2.positions)
    {trade : Trade} (htrade : trade ∈ api.trades)
    (hinstrument : trade.instrument = position.instrument) : position.market = trade.market := by
  obtain ⟨instrument, account, hlookup, rfl⟩ := (mem_queryPositions ..).mp hmem
  rw [settle_instrument, (lookup_netPositions hblank hlookup).1] at hinstrument
  rw [settle_market]
  rw [netPositions, lookup_tally] at hlookup
  refine account_of_book (fun account => account.market = trade.market) ?_ hlookup
  intro _ entry hentry
  obtain ⟨hasked, hkey⟩ := List.mem_filter.mp hentry
  obtain ⟨hentry, hmatches⟩ := List.mem_filter.mp hasked
  have hsame : entry.instrument = trade.instrument :=
    (of_decide_eq_true hkey).trans hinstrument.symm
  exact hone entry hentry trade htrade (matchesPositionQuery_iff.mp hmatches) hsame

theorem pairVolume_of_oneMarket (hone : OneMarket api.trades request) {trade : Trade}
    (htrade : trade ∈ api.trades) (hasked : AskedFor request trade) :
    pairVolume api.trades trade.instrument trade.market =
      netVolume api.trades trade.instrument := by
  have hpair : (api.trades.filter fun other =>
        other.instrument = trade.instrument ∧ other.market = trade.market) =
      api.trades.filter fun other => other.instrument = trade.instrument := by
    apply List.filter_congr
    intro other hother
    rw [Bool.eq_iff_iff, decide_eq_true_iff, decide_eq_true_iff]
    refine and_iff_left_of_imp fun hinstrument => ?_
    exact (hone trade htrade other hother hasked hinstrument.symm).symm
  rw [pairVolume, hpair, netVolume]

/-- Trades of one code on one market may be booked in any order. -/
theorem bookTrade_comm {first second : Trade} (hinstrument : first.instrument = second.instrument)
    (hmarket : first.market = second.market) (position : Position) :
    bookTrade (bookTrade position first) second = bookTrade (bookTrade position second) first := by
  simp only [bookTrade, hinstrument, hmarket, add_right_comm]

theorem queryPositions_perm (hone : OneMarket api.trades request) {other : MockTraderApi}
    (hperm : other.trades.Perm api.trades) (cleared : QueryPositionResponse) :
    (queryPositions blank other request cleared).2.positions =
      (queryPositions blank api request response).2.positions := by
  have htable :
      netPositions blank api.trades request = netPositions blank other.trades request := by
    apply tally_perm (hperm.symm.filter _)
    intro first hfirst second hsecond hinstrument
    obtain ⟨hfirst, hasked⟩ := List.mem_filter.mp hfirst
    have hmarket := hone first hfirst second (List.mem_filter.mp hsecond).1
      (matchesPositionQuery_iff.mp hasked) hinstrument
    exact bookTrade_comm hinstrument hmarket
  rw [positions_queryPositions, positions_queryPositions, htable]

theorem apart_of_oneMarket (hone : OneMarket api.trades request)
    (hblank : blank.totalVolume = 0) : MarketsApart blank api request response where
  nets position hmem := by
    obtain ⟨trade, htrade, hasked, hinstrument⟩ :=
      (exists_mem_queryPositions hblank).mp ⟨position, hmem, rfl⟩
    have hmarket := market_of_mem hone hblank hmem htrade hinstrument
    obtain ⟨-, hheld, -, -⟩ := sides_of_mem hblank hmem
    rw [hheld, hmarket, ← hinstrument, pairVolume_of_oneMarket hone htrade hasked]
  own trade htrade hasked := by
    obtain ⟨position, hmem, hinstrument⟩ :=
      (exists_mem_queryPositions hblank).mpr ⟨trade, htrade, hasked, rfl⟩
    exact ⟨position, hmem, hinstrument, market_of_mem hone hblank hmem htrade hinstrument.symm⟩
  unordered _ hperm := queryPositions_perm hone hperm

/-- Two markets of one code would need two positions of one instrument. -/
theorem oneMarket_of_apart (hblank : blank.totalVolume = 0)
    (hapart : MarketsApart blank api request response) : OneMarket api.trades request := by
  intro first hfirst second hsecond hasked hinstrument
  have hother : AskedFor request second := hasked.imp_right hinstrument.symm.trans
  obtain ⟨position, hmem, hcode, hmarket⟩ := hapart.own first hfirst hasked
  obtain ⟨position', hmem', hcode', hmarket'⟩ := hapart.own second hsecond hother
  have hsame : position = position' :=
    eq_of_instrument hblank hmem hmem' (hcode.trans (hinstrument.trans hcode'.symm))
  rw [← hmarket, ← hmarket', hsame]

end Markets

/-- The positions tell markets apart, and do not depend on the order of the log, exactly
when no code that is asked for was traded on two markets. -/
theorem queryPositions_apart_iff {blank : Position} (hblank : blank.totalVolume = 0)
    (api : MockTraderApi) (request : QueryPositionRequest) (response : QueryPositionResponse) :
    MarketsApart blank api request response ↔ OneMarket api.trades request :=
  ⟨oneMarket_of_apart hblank, fun hone => apart_of_oneMarket hone hblank⟩

section Samples

/-- A connected trader with a trade callback that was sent an order to buy one lot, and
then one to sell one lot of the same code on another market. -/
private def twoMarkets : MockTraderApi :=
  let listening := (create.connect.api).setTradeCallback true
  let bought := (listening.sendOrder .zero (.buyOne 1)).api
  (bought.sendOrder .zero
    { OrderRequest.buyOne 2 with market := .other 1, side := .other 1 }).api

/-- One code on one market. -/
private def sameMarket : MockTraderApi :=
  let listening := (create.connect.api).setTradeCallback true
  let bought := (listening.sendOrder .zero (.buyOne 1)).api
  (bought.sendOrder .zero { OrderRequest.buyOne 2 with side := .other 1 }).api

theorem queryPositions_apart_sameMarket :
    MarketsApart .flat sameMarket ⟨""⟩ ⟨0⟩ := by
  apply (queryPositions_apart_iff (show Position.flat.totalVolume = 0 from rfl) sameMarket
    ⟨""⟩ ⟨0⟩).mpr
  intro first hfirst second hsecond _ _
  have hmarket : ∀ trade ∈ sameMarket.trades, trade.market = .kInit := by decide
  rw [hmarket first hfirst, hmarket second hsecond]

/-- The lot bought on one market and the lot sold on another make one flat position. -/
theorem queryPositions_nets_across_markets :
    ¬MarketsApart .flat twoMarkets ⟨""⟩ ⟨0⟩ ∧
      pairVolume twoMarkets.trades "IF2401" .kInit = 1 ∧
      pairVolume twoMarkets.trades "IF2401" (.other 1) = -1 ∧
      (queryPositions .flat twoMarkets ⟨""⟩ ⟨0⟩).2.positions =
        {⟨"IF2401", .other 1, .kLong, 0⟩} := by
  refine ⟨fun hapart => ?_, by decide, by decide, by decide⟩
  have hmixed : ¬OneMarket twoMarkets.trades ⟨""⟩ := by decide
  exact hmixed (oneMarket_of_apart rfl hapart)

end Samples

end MockTraderApi

end QtradeClient.Mock
