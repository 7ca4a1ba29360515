import Mathlib.Algebra.BigOperators.Intervals
import Mathlib.Algebra.Order.BigOperators.Group.Finset
import Mathlib.Algebra.Order.Field.Rat
import Mathlib.Tactic.Linarith
import Mathlib.Tactic.NormNum
import Mathlib.Tactic.Ring
import QtradeClient.Mock.QuoteApi

/-!
# The prices of the mock ticks

In exact arithmetic the prices of a tick are in order around its last price.  That price
is a walk, carried from one instrument and one pass to the next, without anything that
turns it back; so how long the prices stay positive is a matter of the draws.
-/

namespace QtradeClient.Mock

instance : PriceArithmetic ℚ where
  ofInt number := number

/-! ## Passes in a row -/

section Passes

variable {π : Type} [PriceArithmetic π]

/-- The outer loop; each pass sees the list of instruments of its time. -/
def Generator.passes (depth : Nat) (surroundings : Surroundings π) (generator : Generator π) :
    List (List String) → List (MarketTick π) × Generator π
  | [] => ([], generator)
  | instruments :: later =>
      let made := generator.pass depth surroundings instruments
      let others := made.2.passes depth surroundings later
      (made.1 ++ others.1, others.2)

theorem Generator.pass_append (depth : Nat) (surroundings : Surroundings π)
    (generator : Generator π) (first second : List String) :
    generator.pass depth surroundings (first ++ second) =
      ((generator.pass depth surroundings first).1 ++
          ((generator.pass depth surroundings first).2.pass depth surroundings second).1,
        ((generator.pass depth surroundings first).2.pass depth surroundings second).2) := by
  induction first generalizing generator with
  | nil => rfl
  | cons instrument first ih => rw [List.cons_append, pass, ih, pass, List.cons_append]

/-- Several passes make the ticks of one pass over all their instruments. -/
theorem Generator.passes_eq_pass (depth : Nat) (surroundings : Surroundings π)
    (generator : Generator π) (lists : List (List String)) :
    generator.passes depth surroundings lists =
      generator.pass depth surroundings lists.flatten := by
  induction lists generalizing generator with
  | nil => rfl
  | cons instruments later ih => rw [passes, ih, List.flatten_cons, pass_append]

end Passes

/-! ## The walk -/

section Walk

variable {depth : Nat} {surroundings : Surroundings ℚ} {generator : Generator ℚ}

/-- The price that the first draws lead to. -/
def walk (surroundings : Surroundings ℚ) (draws : Nat) : ℚ :=
  100 + ∑ i ∈ Finset.range draws, surroundings.draw i

theorem walk_succ (draws : Nat) :
    walk surroundings (draws + 1) = walk surroundings draws + surroundings.draw draws := by
  rw [walk, walk, Finset.sum_range_succ, add_assoc]

/-- Draws of half a unit at most take the walk half a unit further at most. -/
theorem le_walk (hdraws : ∀ i, -1 / 2 ≤ surroundings.draw i) (draws : Nat) :
    100 - (draws : ℚ) / 2 ≤ walk surroundings draws := by
  have hsum : Finset.card (Finset.range draws) • (-1 / 2 : ℚ) ≤
      ∑ i ∈ Finset.range draws, surroundings.draw i :=
    Finset.card_nsmul_le_sum _ _ _ fun i _ => hdraws i
  rw [Finset.card_range, nsmul_eq_mul] at hsum
  rw [walk]
  linarith

/-- The price of the generator is where its draws have led. -/
def Generator.OnWalk (surroundings : Surroundings ℚ) (generator : Generator ℚ) : Prop :=
  generator.basePrice = walk surroundings generator.made

theorem onWalk_start : Generator.start.OnWalk surroundings := by
  simp only [Generator.OnWalk, Generator.start, walk, Finset.range_zero, Finset.sum_empty]
  norm_num

theorem Generator.OnWalk.tick (hwalk : generator.OnWalk surroundings) (instrument : String) :
    generator.tick depth surroundings instrument =
      (makeTick depth instrument (surroundings.unixMillisNow generator.made)
          (walk surroundings (generator.made + 1)),
        ⟨walk surroundings (generator.made + 1), generator.made + 1⟩) := by
  rw [walk_succ, ← hwalk]
  rfl

/-- The tick of each entry is made at the price that the walk has reached. -/
theorem Generator.OnWalk.pass (hwalk : generator.OnWalk surroundings)
    (instruments : List String) (k : Nat) :
    (generator.pass depth surroundings instruments).1[k]? =
      instruments[k]?.map fun instrument =>
        makeTick depth instrument (surroundings.unixMillisNow (generator.made + k))
          (walk surroundings (generator.made + k + 1)) := by
  induction instruments generalizing generator k with
  | nil => rfl
  | cons instrument instruments ih =>
      rw [Generator.pass, hwalk.tick]
      cases k with
      | zero => rfl
      | succ k =>
          have hnext : Generator.OnWalk surroundings
              ⟨walk surroundings (generator.made + 1), generator.made + 1⟩ := rfl
          have hindex : generator.made + 1 + k = generator.made + (k + 1) := by omega
          rw [List.getElem?_cons_succ, List.getElem?_cons_succ, ih hnext, hindex]

end Walk

/-! ## One tick -/

/-- The prices of a tick are in order around the last one. -/
structure WellPriced (tick : MarketTick ℚ) : Prop where
  bids : tick.bidPrice.Pairwise (· > ·)
  asks : tick.askPrice.Pairwise (· < ·)
  belowLast : ∀ bid ∈ tick.bidPrice, bid < tick.lastPrice
  aboveLast : ∀ ask ∈ tick.askPrice, tick.lastPrice < ask
  openInRange : tick.lowPrice ≤ tick.openPrice ∧ tick.openPrice ≤ tick.highPrice
  lastInRange : tick.lowPrice ≤ tick.lastPrice ∧ tick.lastPrice ≤ tick.highPrice
  turnover : tick.turnover = tick.lastPrice * tick.volume

/-- All prices of a tick. -/
def MarketTick.prices {π : Type} (tick : MarketTick π) : List π :=
  [tick.lastPrice, tick.avgPrice, tick.openPrice, tick.highPrice, tick.lowPrice,
    tick.preClosePrice] ++ tick.bidPrice ++ tick.askPrice

/-- How far below the last price the prices of a tick reach: two units down to the low
price, and a fifth of a unit for each level of the book. -/
def reach (depth : Nat) : ℚ := max 2 ((depth : ℚ) / 5)

section OneTick

variable (depth : Nat) (instrument : String) (dataTime : Int) (basePrice : ℚ)

theorem bidPrice_makeTick :
    (makeTick depth instrument dataTime basePrice).bidPrice =
      (List.range depth).map fun i : Nat => basePrice - ((i : ℚ) + 1) / 5 := by
  apply List.map_congr_left
  intro i _
  simp only [PriceArithmetic.ofInt]
  push_cast
  ring

theorem askPrice_makeTick :
    (makeTick depth instrument dataTime basePrice).askPrice =
      (List.range depth).map fun i : Nat => basePrice + ((i : ℚ) + 1) / 5 := by
  apply List.map_congr_left
  intro i _
  simp only [PriceArithmetic.ofInt]
  push_cast
  ring

theorem wellPriced_makeTick : WellPriced (makeTick depth instrument dataTime basePrice) where
  bids := by
    rw [bidPrice_makeTick]
    apply List.Pairwise.map _ _ List.pairwise_lt_range
    intro i j hlevel
    have hcast : (i : ℚ) < j := Nat.cast_lt.mpr hlevel
    change basePrice - (j + 1) / 5 < basePrice - (i + 1) / 5
    linarith
  asks := by
    rw [askPrice_makeTick]
    apply List.Pairwise.map _ _ List.pairwise_lt_range
    intro i j hlevel
    have hcast : (i : ℚ) < j := Nat.cast_lt.mpr hlevel
    change basePrice + (i + 1) / 5 < basePrice + (j + 1) / 5
    linarith
  belowLast := by
    intro bid hbid
    rw [bidPrice_makeTick] at hbid
    obtain ⟨i, -, rfl⟩ := List.mem_map.mp hbid
    have hlevel : (0 : ℚ) ≤ i := Nat.cast_nonneg i
    change basePrice - (i + 1) / 5 < basePrice
    linarith
  aboveLast := by
    intro ask hask
    rw [askPrice_makeTick] at hask
    obtain ⟨i, -, rfl⟩ := List.mem_map.mp hask
    have hlevel : (0 : ℚ) ≤ i := Nat.cast_nonneg i
    change basePrice < basePrice + (i + 1) / 5
    linarith
  openInRange := by
    constructor
    · change basePrice - 2.0 ≤ basePrice - 1.0
      linarith
    · change basePrice - 1.0 ≤ basePrice + 2.0
      linarith
  lastInRange := by
    constructor
    · change basePrice - 2.0 ≤ basePrice
      linarith
    · change basePrice ≤ basePrice + 2.0
      linarith
  turnover := rfl

theorem reach_lt_of_prices_pos
    (hpos : ∀ price ∈ (makeTick depth instrument dataTime basePrice).prices, 0 < price) :
    reach depth < basePrice := by
  have hlow : 0 < basePrice - 2.0 := hpos _ (by simp [MarketTick.prices, makeTick])
  have htwo : 2 < basePrice := by linarith
  rw [reach, max_lt_iff]
  refine ⟨htwo, ?_⟩
  cases depth with
  | zero =>
      rw [Nat.cast_zero, zero_div]
      linarith
  | succ levels =>
      -- the deepest bid is the lowest one
      have hbid : basePrice - ((levels : ℚ) + 1) / 5 ∈
          (makeTick (levels + 1) instrument dataTime basePrice).bidPrice := by
        rw [bidPrice_makeTick]
        exact List.mem_map.mpr ⟨levels, List.mem_range.mpr (Nat.lt_succ_self levels), rfl⟩
      have hdeepest := hpos _ (List.mem_append_left _ (List.mem_append_right _ hbid))
      rw [Nat.cast_succ]
      linarith

theorem prices_pos_of_reach_lt (hreach : reach depth < basePrice) :
    ∀ price ∈ (makeTick depth instrument dataTime basePrice).prices, 0 < price := by
  obtain ⟨htwo, hdepth⟩ := max_lt_iff.mp hreach
  have hbids : ∀ bid ∈ (makeTick depth instrument dataTime basePrice).bidPrice, 0 < bid := by
    intro bid hbid
    rw [bidPrice_makeTick] at hbid
    obtain ⟨i, hi, rfl⟩ := List.mem_map.mp hbid
    have hlevel : (i : ℚ) + 1 ≤ depth := by
      exact_mod_cast Nat.succ_le_of_lt (List.mem_range.mp hi)
    linarith
  have hasks : ∀ ask ∈ (makeTick depth instrument dataTime basePrice).askPrice, 0 < ask := by
    intro ask hask
    have hlast : basePrice < ask := (wellPriced_makeTick ..).aboveLast ask hask
    linarith
  intro price hprice
  rcases List.mem_append.mp hprice with hprice | hask
  · rcases List.mem_append.mp hprice with hside | hbid
    · simp only [makeTick, List.mem_cons, List.not_mem_nil, or_false] at hside
      rcases hside with rfl | rfl | rfl | rfl | rfl | rfl <;> linarith
    · exact hbids price hbid
  · exact hasks price hask

/-- The prices are positive exactly when the lowest of them is. -/
theorem prices_pos_iff :
    (∀ price ∈ (makeTick depth instrument dataTime basePrice).prices, 0 < price) ↔
      reach depth < basePrice :=
  ⟨reach_lt_of_prices_pos depth instrument dataTime basePrice,
    prices_pos_of_reach_lt depth instrument dataTime basePrice⟩

end OneTick

/-! ## Every tick -/

section EveryTick

variable {depth : Nat} {surroundings : Surroundings ℚ} {lists : List (List String)}

/-- The ticks of the passes from the start of the thread, one for each entry of the lists. -/
theorem ticks_getElem? (k : Nat) :
    (Generator.start.passes depth surroundings lists).1[k]? =
      lists.flatten[k]?.map fun instrument =>
        makeTick depth instrument (surroundings.unixMillisNow k)
          (walk surroundings (k + 1)) := by
  rw [Generator.passes_eq_pass, onWalk_start.pass]
  simp only [Generator.start, Nat.zero_add]

end EveryTick

/-- Whatever the passes and the draws, every tick has its prices in order.  They are all
positive exactly while the walk stays above what the tick reaches down to, and it does so
at least until as many draws have been made as could take it there. -/
theorem mock_ticks_priced (depth : Nat) (surroundings : Surroundings ℚ)
    (hdraws : ∀ i, -1 / 2 ≤ surroundings.draw i ∧ surroundings.draw i < 1 / 2)
    (lists : List (List String)) (k : Nat) (tick : MarketTick ℚ)
    (htick : (Generator.start.passes depth surroundings lists).1[k]? = some tick) :
    WellPriced tick ∧
      ((∀ price ∈ tick.prices, 0 < price) ↔ reach depth < walk surroundings (k + 1)) ∧
      (((k + 1 : Nat) : ℚ) / 2 + reach depth < 100 → ∀ price ∈ tick.prices, 0 < price) := by
  rw [ticks_getElem?] at htick
  obtain ⟨instrument, -, rfl⟩ := Option.map_eq_some_iff.mp htick
  refine ⟨wellPriced_makeTick .., prices_pos_iff .., fun hfew => ?_⟩
  have hbound := le_walk (fun i => (hdraws i).1) (k + 1)
  have habove : reach depth < walk surroundings (k + 1) := by linarith
  exact (prices_pos_iff ..).mpr habove

/-- The third tick of a walk that goes up by a quarter and down by a third in turn, over two
passes with different lists. -/
theorem mock_ticks_priced_moving :
    let surroundings : Surroundings ℚ :=
      ⟨fun i => if i % 2 = 0 then 1 / 4 else -1 / 3, fun _ => 0⟩
    let lists := [["IF2401", "IC2401"], ["IC2401"]]
    ∃ tick, (Generator.start.passes 10 surroundings lists).1[2]? = some tick ∧
      tick.lastPrice = 100 + 1 / 6 ∧ WellPriced tick ∧ ∀ price ∈ tick.prices, 0 < price := by
  intro surroundings lists
  have hdraws : ∀ i, -1 / 2 ≤ surroundings.draw i ∧ surroundings.draw i < 1 / 2 := by
    intro i
    change (-1 / 2 : ℚ) ≤ ite _ _ _ ∧ ite _ _ _ < (1 / 2 : ℚ)
    split <;> norm_num
  have htick : (Generator.start.passes 10 surroundings lists).1[2]? =
      some (makeTick 10 "IC2401" 0 (walk surroundings 3)) := by
    rw [ticks_getElem?]
    rfl
  have hwalk : walk surroundings 3 = 100 + 1 / 6 := by
    norm_num [walk, surroundings, Finset.sum_range_succ]
  obtain ⟨hpriced, -, hpos⟩ := mock_ticks_priced 10 surroundings hdraws lists 2 _ htick
  exact ⟨_, htick, hwalk, hpriced, hpos (by norm_num [reach])⟩

/-- With one instrument and draws that all go down, the walk is at two after 196 passes,
and the low price at zero. -/
theorem mock_ticks_fall :
    let surroundings : Surroundings ℚ := ⟨fun _ => -1 / 2, fun _ => 0⟩
    (∀ i, -1 / 2 ≤ surroundings.draw i ∧ surroundings.draw i < 1 / 2) ∧
      ∃ tick ∈ (Generator.start.passes 10 surroundings (List.replicate 196 ["IF2401"])).1,
        tick.lowPrice = 0 ∧ ¬∀ price ∈ tick.prices, 0 < price := by
  intro surroundings
  have hdraws : ∀ i, -1 / 2 ≤ surroundings.draw i ∧ surroundings.draw i < 1 / 2 := by
    intro i
    change (-1 / 2 : ℚ) ≤ -1 / 2 ∧ (-1 / 2 : ℚ) < 1 / 2
    norm_num
  have htick : (Generator.start.passes 10 surroundings
        (List.replicate 196 ["IF2401"])).1[195]? =
      some (makeTick 10 "IF2401" 0 (walk surroundings 196)) := by
    rw [ticks_getElem?, List.flatten_replicate_singleton, List.getElem?_replicate]
    rfl
  have hwalk : walk surroundings 196 = 2 := by
    rw [walk, Finset.sum_const, Finset.card_range]
    norm_num
  have hlow : (makeTick 10 "IF2401" 0 (walk surroundings 196)).lowPrice = 0 := by
    change walk surroundings 196 - 2.0 = 0
    rw [hwalk]
    norm_num
  have hmem : (makeTick 10 "IF2401" 0 (walk surroundings 196)).lowPrice ∈
      (makeTick 10 "IF2401" 0 (walk surroundings 196)).prices := by
    simp [MarketTick.prices]
  refine ⟨hdraws, _, List.mem_of_getElem? htick, hlow, fun hpos => ?_⟩
  have hlowest := hpos _ hmem
  rw [hlow] at hlowest
  exact lt_irrefl 0 hlowest

end QtradeClient.Mock
