import Mathlib.Algebra.BigOperators.Group.List.Basic
import Mathlib.Algebra.Ring.Int.Defs
import QtradeClient.Library.Tally
import QtradeClient.Mock.TraderApi

/-!
# Trades and positions read back

`QueryTrades` filters the trade log.  `QueryPositions` accumulates the matching trades
under their instruments and then gives each account a side.  The source walks an
`unordered_map` for its answer, so the answer is a multiset.
-/

namespace QtradeClient.Mock

open Sdk Library.Tally

/-- Both query responses are cleared before anything is put in. -/
structure QueryPositionResponse where
  positions : Multiset Position

def QueryPositionResponse.clear (response : QueryPositionResponse) : QueryPositionResponse :=
  { response with positions := 0 }

namespace MockTraderApi

def matchesTradesQuery (request : QueryTradesRequest) (trade : Trade) : Bool :=
  !((request.instrument ≠ "" && trade.instrument ≠ request.instrument) ||
    (request.orderId ≠ "" && trade.orderId ≠ request.orderId) ||
    (request.brokerOrderId ≠ 0 && trade.brokerOrderId ≠ request.brokerOrderId))

def queryTrades (api : MockTraderApi) (request : QueryTradesRequest) : List Trade :=
  api.trades.filter (matchesTradesQuery request)

def matchesPositionQuery (request : QueryPositionRequest) (trade : Trade) : Bool :=
  !(request.instrument ≠ "" && request.instrument ≠ trade.instrument)

/-- The body of the loop over the trades. -/
def bookTrade (position : Position) (trade : Trade) : Position :=
  { position with
    instrument := trade.instrument
    market := trade.market
    direction := .kNet
    totalVolume :=
      position.totalVolume + if trade.side = .kBuy then trade.volume else -trade.volume }

/-- The body of the loop over the accounts. -/
def settle (position : Position) : Position :=
  if position.totalVolume < 0 then
    { position with direction := .kShort, totalVolume := -position.totalVolume }
  else { position with direction := .kLong }

/-- The local map of `QueryPositions` after its first loop; `blank` is the default
`Position` that the map makes for a new instrument. -/
def netPositions (blank : Position) (trades : List Trade) (request : QueryPositionRequest) :
    Finmap fun _ : String => Position :=
  tally (fun trade => trade.instrument) blank bookTrade
    (trades.filter (matchesPositionQuery request))

def queryPositions (blank : Position) (api : MockTraderApi) (request : QueryPositionRequest)
    (response : QueryPositionResponse) : ErrorCode × QueryPositionResponse :=
  let cleared := response.clear
  (.kSuccess,
    { cleared with
      positions := cleared.positions +
        (netPositions blank api.trades request).entries.map fun entry => settle entry.2 })

/-! ## What the filters select -/

theorem matchesPositionQuery_iff {request : QueryPositionRequest} {trade : Trade} :
    matchesPositionQuery request trade = true ↔
      request.instrument = "" ∨ trade.instrument = request.instrument := by
  by_cases hall : request.instrument = ""
  · simp [matchesPositionQuery, hall]
  · simp [matchesPositionQuery, hall, eq_comm]

theorem filter_all_positions (trades : List Trade) :
    trades.filter (matchesPositionQuery ⟨""⟩) = trades := by
  apply List.filter_eq_self.mpr
  intro trade _
  exact matchesPositionQuery_iff.mpr (.inl rfl)

theorem filter_positions_of {instrument : String} (hnamed : instrument ≠ "")
    (trades : List Trade) :
    trades.filter (matchesPositionQuery ⟨instrument⟩) =
      under (fun trade => trade.instrument) instrument trades := by
  apply List.filter_congr
  intro trade _
  rw [Bool.eq_iff_iff, matchesPositionQuery_iff, decide_eq_true_iff]
  exact or_iff_right hnamed

/-! ## Nets -/

/-- How far a trade moves the position in its instrument. -/
def signedVolume (trade : Trade) : Int :=
  if trade.side = .kBuy then trade.volume else -trade.volume

def netVolume (trades : List Trade) (instrument : String) : Int :=
  ((trades.filter fun trade => trade.instrument = instrument).map signedVolume).sum

/-- The volume a position stands for, short ones below zero. -/
def heldVolume (position : Position) : Int :=
  match position.direction with
  | .kLong => position.totalVolume
  | .kShort => -position.totalVolume
  | _ => 0

@[simp]
theorem settle_instrument (position : Position) :
    (settle position).instrument = position.instrument := by
  unfold settle
  split <;> rfl

/-- Giving an account its side keeps the volume it stands for. -/
theorem settle_sides (position : Position) :
    0 ≤ (settle position).totalVolume ∧
      heldVolume (settle position) = position.totalVolume ∧
      ((settle position).direction = .kShort ∧ position.totalVolume < 0 ∨
        (settle position).direction = .kLong ∧ 0 ≤ position.totalVolume) := by
  unfold settle
  by_cases hshort : position.totalVolume < 0
  · rw [if_pos hshort]
    refine ⟨?_, Int.neg_neg _, .inl ⟨rfl, hshort⟩⟩
    change 0 ≤ -position.totalVolume
    omega
  · rw [if_neg hshort]
    have hlong : 0 ≤ position.totalVolume := by omega
    exact ⟨hlong, rfl, .inr ⟨rfl, hlong⟩⟩

theorem totalVolume_account {blank position : Position} (hblank : blank.totalVolume = 0)
    {trades : List Trade} (haccount : account blank bookTrade trades = some position) :
    position.totalVolume = (trades.map signedVolume).sum := by
  induction trades using List.reverseRecOn generalizing position with
  | nil => cases haccount
  | append_singleton trades trade ih =>
      rw [account_concat] at haccount
      obtain rfl := Option.some.inj haccount
      rw [List.map_append, List.sum_append, List.map_singleton, List.sum_singleton]
      change (Option.getD _ blank).totalVolume + signedVolume trade = _
      cases hbefore : account blank bookTrade trades with
      | none =>
          obtain rfl := account_eq_none_iff.mp hbefore
          rw [Option.getD_none, hblank, List.map_nil, List.sum_nil]
      | some before => rw [Option.getD_some, ih hbefore]

/-- A filter lets all trades of an instrument through or none. -/
theorem under_filter {request : QueryPositionRequest} {instrument : String}
    (hmatches : request.instrument = "" ∨ instrument = request.instrument)
    (trades : List Trade) :
    under (fun trade => trade.instrument) instrument
        (trades.filter (matchesPositionQuery request)) =
      under (fun trade => trade.instrument) instrument trades := by
  unfold under
  rw [List.filter_filter]
  apply List.filter_congr
  intro trade _
  rw [Bool.eq_iff_iff, Bool.and_eq_true, decide_eq_true_iff, matchesPositionQuery_iff]
  refine and_iff_left_of_imp fun hinstrument => ?_
  obtain rfl : trade.instrument = instrument := hinstrument
  exact hmatches

/-- The instruments with an account are those of the matching trades. -/
theorem lookup_netPositions_isSome {blank : Position} {trades : List Trade}
    {request : QueryPositionRequest} {instrument : String} :
    (∃ position, (netPositions blank trades request).lookup instrument = some position) ↔
      ∃ trade ∈ trades, (request.instrument = "" ∨ trade.instrument = request.instrument) ∧
        trade.instrument = instrument := by
  rw [← Option.isSome_iff_exists, ← Option.ne_none_iff_isSome, Ne, netPositions,
    lookup_tally_eq_none_iff]
  push Not
  simp only [List.mem_filter, matchesPositionQuery_iff, and_assoc]

/-- What the account of an instrument holds once the log is booked. -/
theorem lookup_netPositions {blank position : Position} (hblank : blank.totalVolume = 0)
    {trades : List Trade} {request : QueryPositionRequest} {instrument : String}
    (hlookup : (netPositions blank trades request).lookup instrument = some position) :
    position.instrument = instrument ∧
      position.totalVolume = netVolume trades instrument := by
  obtain ⟨trade, -, hmatches, rfl⟩ := lookup_netPositions_isSome.mp ⟨position, hlookup⟩
  rw [netPositions, lookup_tally] at hlookup
  constructor
  · apply account_of_book (fun account => account.instrument = trade.instrument) _ hlookup
    intro _ entry hentry
    exact of_decide_eq_true (List.mem_filter.mp hentry).2
  · rw [under_filter hmatches] at hlookup
    exact totalVolume_account hblank hlookup

/-! ## Answers -/

section Answers

variable (blank : Position) (api : MockTraderApi) (request : QueryPositionRequest)
  (response : QueryPositionResponse)

theorem positions_queryPositions :
    (queryPositions blank api request response).2.positions =
      (netPositions blank api.trades request).entries.map fun entry => settle entry.2 :=
  zero_add _

theorem mem_queryPositions {position : Position} :
    position ∈ (queryPositions blank api request response).2.positions ↔
      ∃ instrument account,
        (netPositions blank api.trades request).lookup instrument = some account ∧
          settle account = position := by
  rw [positions_queryPositions, Multiset.mem_map]
  constructor
  · rintro ⟨⟨instrument, account⟩, hentry, hsettle⟩
    exact ⟨instrument, account, Finmap.mem_lookup_iff.mpr hentry, hsettle⟩
  · rintro ⟨instrument, account, hlookup, hsettle⟩
    exact ⟨⟨instrument, account⟩, Finmap.mem_lookup_iff.mp hlookup, hsettle⟩

end Answers

/-- The instruments of an answer, one for each entry, are the keys of the table. -/
theorem instruments_queryPositions {blank : Position} (hblank : blank.totalVolume = 0)
    (api : MockTraderApi) (request : QueryPositionRequest) (response : QueryPositionResponse) :
    (queryPositions blank api request response).2.positions.map (fun p => p.instrument) =
      (netPositions blank api.trades request).entries.keys := by
  rw [positions_queryPositions, Multiset.map_map]
  apply Multiset.map_congr rfl
  rintro ⟨instrument, account⟩ hentry
  rw [Function.comp_apply, settle_instrument]
  exact (lookup_netPositions hblank (Finmap.mem_lookup_iff.mpr hentry)).1

/-- Every entry of an answer carries the net of its instrument. -/
theorem sides_of_mem {blank : Position} (hblank : blank.totalVolume = 0) {api : MockTraderApi}
    {request : QueryPositionRequest} {response : QueryPositionResponse} {position : Position}
    (hmem : position ∈ (queryPositions blank api request response).2.positions) :
    0 ≤ position.totalVolume ∧
      heldVolume position = netVolume api.trades position.instrument ∧
      (position.direction = .kLong ∨ position.direction = .kShort) ∧
      (position.direction = .kShort ↔ netVolume api.trades position.instrument < 0) := by
  rw [mem_queryPositions] at hmem
  obtain ⟨instrument, account, hlookup, rfl⟩ := hmem
  obtain ⟨rfl, hnet⟩ := lookup_netPositions hblank hlookup
  obtain ⟨hsize, hheld, hside⟩ := settle_sides account
  rw [settle_instrument, ← hnet]
  rcases hside with ⟨hshort, hnegative⟩ | ⟨hlong, hpositive⟩
  · exact ⟨hsize, hheld, .inr hshort, iff_of_true hshort hnegative⟩
  · have hnot : (settle account).direction ≠ .kShort := by
      rw [hlong]
      decide
    exact ⟨hsize, hheld, .inl hlong, iff_of_false hnot (by omega)⟩

/-- The instruments that an answer mentions are those of the matching trades. -/
theorem exists_mem_queryPositions {blank : Position} (hblank : blank.totalVolume = 0)
    {api : MockTraderApi} {request : QueryPositionRequest} {response : QueryPositionResponse}
    {instrument : String} :
    (∃ position ∈ (queryPositions blank api request response).2.positions,
        position.instrument = instrument) ↔
      ∃ trade ∈ api.trades, (request.instrument = "" ∨ trade.instrument = request.instrument) ∧
        trade.instrument = instrument := by
  rw [← lookup_netPositions_isSome]
  constructor
  · rintro ⟨position, hmem, rfl⟩
    obtain ⟨instrument, account, hlookup, rfl⟩ := (mem_queryPositions ..).mp hmem
    obtain ⟨rfl, -⟩ := lookup_netPositions hblank hlookup
    rw [settle_instrument]
    exact ⟨account, hlookup⟩
  · rintro ⟨account, hlookup⟩
    refine ⟨settle account, (mem_queryPositions ..).mpr ⟨instrument, account, hlookup, rfl⟩, ?_⟩
    rw [settle_instrument]
    exact (lookup_netPositions hblank hlookup).1

/-- Naming an instrument selects its entry of the whole answer. -/
theorem queryPositions_named {blank : Position} (hblank : blank.totalVolume = 0)
    (api : MockTraderApi) (response other : QueryPositionResponse) {instrument : String}
    (hnamed : instrument ≠ "") :
    (queryPositions blank api ⟨instrument⟩ response).2.positions =
      (queryPositions blank api ⟨""⟩ other).2.positions.filter
        fun p => p.instrument = instrument := by
  have htable : (netPositions blank api.trades ⟨instrument⟩).entries =
      (netPositions blank api.trades ⟨""⟩).entries.filter
        fun entry => entry.1 = instrument := by
    rw [netPositions, netPositions, filter_positions_of hnamed, filter_all_positions]
    exact entries_tally_under api.trades instrument
  rw [positions_queryPositions, positions_queryPositions, htable, Multiset.filter_map]
  apply congrArg
  apply Multiset.filter_congr
  rintro ⟨found, account⟩ hentry
  have hfound := (lookup_netPositions hblank (Finmap.mem_lookup_iff.mpr hentry)).1
  rw [Function.comp_apply, settle_instrument, hfound]

/-- One entry for each instrument with a matching trade, each on the side and with the
volume of the net; a named instrument selects its entry of the whole answer. -/
theorem queryPositions_nets {blank : Position} (hblank : blank.totalVolume = 0)
    (api : MockTraderApi) (request : QueryPositionRequest) (response : QueryPositionResponse) :
    let answer := (queryPositions blank api request response).2.positions
    (answer.map fun p => p.instrument).Nodup ∧
      (∀ instrument, (∃ p ∈ answer, p.instrument = instrument) ↔
        ∃ trade ∈ api.trades,
          (request.instrument = "" ∨ trade.instrument = request.instrument) ∧
            trade.instrument = instrument) ∧
      (∀ p ∈ answer, 0 ≤ p.totalVolume ∧
        heldVolume p = netVolume api.trades p.instrument ∧
        (p.direction = .kLong ∨ p.direction = .kShort) ∧
        (p.direction = .kShort ↔ netVolume api.trades p.instrument < 0)) ∧
      ∀ instrument, instrument ≠ "" → ∀ first second,
        (queryPositions blank api ⟨instrument⟩ first).2.positions =
          (queryPositions blank api ⟨""⟩ second).2.positions.filter
            fun p => p.instrument = instrument := by
  refine ⟨?_, ?_, ?_, ?_⟩
  · rw [instruments_queryPositions hblank]
    exact Multiset.nodup_keys.mpr (netPositions blank api.trades request).nodupKeys
  · intro instrument
    exact exists_mem_queryPositions hblank
  · intro position hmem
    exact sides_of_mem hblank hmem
  · intro instrument hnamed first second
    exact queryPositions_named hblank api first second hnamed

/-- A trader that bought one lot and then sold two. -/
def crossed : MockTraderApi :=
  { create with
    trades :=
      [newTrade .zero (.buyOne 1) 1 1,
        newTrade .zero { OrderRequest.buyOne 2 with volume := 2, side := .other 1 } 2 2] }

theorem queryPositions_nets_crossed :
    ∃ p ∈ (queryPositions .flat crossed ⟨"IF2401"⟩ ⟨{.flat}⟩).2.positions,
      p.instrument = "IF2401" ∧ p.direction = .kShort ∧ heldVolume p = -1 := by
  obtain ⟨-, hentries, hsides, -⟩ :=
    queryPositions_nets (show Position.flat.totalVolume = 0 from rfl) crossed ⟨"IF2401"⟩ ⟨{.flat}⟩
  have hnet : netVolume crossed.trades "IF2401" = -1 := by decide
  obtain ⟨p, hp, hinstrument⟩ :=
    (hentries "IF2401").mpr ⟨_, List.mem_cons_self, .inr rfl, rfl⟩
  obtain ⟨-, hheld, -, hshort⟩ := hsides p hp
  rw [hinstrument, hnet] at hheld hshort
  exact ⟨p, hp, hinstrument, hshort.mpr (by decide), hheld⟩

end MockTraderApi

end QtradeClient.Mock
