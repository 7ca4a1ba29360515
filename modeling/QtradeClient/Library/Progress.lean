import QtradeClient.Library.Concurrent

/-!
# Calls that come to an end

A rank is a number that each step of a call lowers, whatever the store and the other
calls are.  It bounds the steps that a call can take; and where a call with a positive
rank always has a step, every run can be continued until all its calls are over.
-/

namespace Library.Concurrent

variable {σ κ ι χ ω δ : Type*}

/-- The rank of a call falls with each of its steps, and is zero only at its end. -/
structure Ranked (machine : Machine σ κ ι χ ω δ) (rank : κ → Nat) : Prop where
  lowers : ∀ {choice shared call after}, machine.advance choice shared call = some after →
    rank after.1 < rank call
  moves : ∀ {call}, rank call ≠ 0 → ∀ choice shared,
    ∃ after, machine.advance choice shared call = some after

/-- The label lets the call at an index advance. -/
def Label.advances (index : Nat) : Label ι χ ω → Bool
  | .advance advanced _ => advanced = index
  | _ => false

/-- The label lets some call advance. -/
def Label.isAdvance : Label ι χ ω → Bool
  | .advance .. => true
  | _ => false

/-- The ranks of all calls together. -/
def rankSum (rank : κ → Nat) : List κ → Nat
  | [] => 0
  | call :: rest => rank call + rankSum rank rest

theorem rankSum_append (rank : κ → Nat) (first second : List κ) :
    rankSum rank (first ++ second) = rankSum rank first + rankSum rank second := by
  induction first with
  | nil => exact (Nat.zero_add _).symm
  | cons call rest ih =>
      change rank call + rankSum rank (rest ++ second) = _
      rw [ih, rankSum, Nat.add_assoc]

section Steps

variable {machine : Machine σ κ ι χ ω δ} {pool result : Pool σ κ δ} {label : Label ι χ ω}

/-- A call stands still in every step that does not let it advance. -/
theorem step_getElem?_of_still (hstep : step machine pool label = some result) {index : Nat}
    (hstill : label.advances index = false) {call : κ} (hcall : pool.calls[index]? = some call) :
    result.calls[index]? = some call := by
  cases label with
  | start input =>
      cases hstep
      exact List.getElem?_append_left (List.getElem?_eq_some_iff.mp hcall).1 ▸ hcall
  | outside change =>
      cases hstep
      exact hcall
  | advance advanced choice =>
      obtain ⟨moved, -, hmap⟩ := Option.bind_eq_some_iff.mp hstep
      obtain ⟨after, -, rfl⟩ := Option.map_eq_some_iff.mp hmap
      have hother : advanced ≠ index := of_decide_eq_false hstill
      exact (List.getElem?_set_ne hother).trans hcall

/-- The call that advances takes one of its own steps. -/
theorem step_getElem?_of_advances (hstep : step machine pool label = some result) {index : Nat}
    (hmoves : label.advances index = true) {call : κ} (hcall : pool.calls[index]? = some call) :
    ∃ choice after, machine.advance choice pool.shared call = some after ∧
      result.calls[index]? = some after.1 := by
  cases label with
  | start input => cases hmoves
  | outside change => cases hmoves
  | advance advanced choice =>
      obtain rfl : advanced = index := of_decide_eq_true hmoves
      obtain ⟨moved, hmoved, hmap⟩ := Option.bind_eq_some_iff.mp hstep
      obtain ⟨after, hadvance, rfl⟩ := Option.map_eq_some_iff.mp hmap
      obtain rfl : moved = call := Option.some.inj (hmoved.symm.trans hcall)
      refine ⟨choice, after, hadvance, ?_⟩
      exact List.getElem?_set_self (List.getElem?_eq_some_iff.mp hcall).1

/-- A call after a step is new, stood still, or took one of its own steps. -/
theorem step_getElem?_cases (hstep : step machine pool label = some result) {index : Nat}
    {call : κ} (hcall : result.calls[index]? = some call) :
    (∃ input, call = machine.enter input) ∨ pool.calls[index]? = some call ∨
      ∃ choice earlier emitted, label = .advance index choice ∧
        pool.calls[index]? = some earlier ∧
        machine.advance choice pool.shared earlier = some (call, result.shared, emitted) := by
  cases label with
  | start input =>
      cases hstep
      rcases Nat.lt_or_ge index pool.calls.length with hold | hnew
      · rw [List.getElem?_append_left hold] at hcall
        exact .inr (.inl hcall)
      · rw [List.getElem?_append_right hnew] at hcall
        exact .inl ⟨input, List.mem_singleton.mp (List.mem_of_getElem? hcall)⟩
  | outside change =>
      cases hstep
      exact .inr (.inl hcall)
  | advance advanced choice =>
      obtain ⟨earlier, hearlier, hmap⟩ := Option.bind_eq_some_iff.mp hstep
      obtain ⟨⟨next, shared, emitted⟩, hadvance, rfl⟩ := Option.map_eq_some_iff.mp hmap
      by_cases hother : advanced = index
      · subst hother
        rw [List.getElem?_set_self (List.getElem?_eq_some_iff.mp hearlier).1] at hcall
        cases hcall
        exact .inr (.inr ⟨choice, earlier, emitted, rfl, hearlier, hadvance⟩)
      · rw [List.getElem?_set_ne hother] at hcall
        exact .inr (.inl hcall)

end Steps

namespace Ranked

variable {machine : Machine σ κ ι χ ω δ} {rank : κ → Nat}

/-- In any run a call takes no more steps than its rank. -/
theorem advances_le (h : Ranked machine rank) {start result : Pool σ κ δ}
    {labels : List (Label ι χ ω)} (hrun : Runs.exec (step machine) start labels = some result)
    {index : Nat} {call : κ} (hcall : start.calls[index]? = some call) :
    ∃ final, result.calls[index]? = some final ∧
      rank final + labels.countP (Label.advances index) ≤ rank call := by
  induction labels generalizing start call with
  | nil =>
      obtain rfl : start = result := Option.some.inj hrun
      exact ⟨call, hcall, Nat.le_refl _⟩
  | cons label labels ih =>
      obtain ⟨middle, hstep, hrest⟩ := Runs.exec_cons_eq_some hrun
      cases hmoves : label.advances index with
      | false =>
          obtain ⟨final, hfinal, hle⟩ := ih hrest (step_getElem?_of_still hstep hmoves hcall)
          rw [List.countP_cons_of_neg (by simp [hmoves])]
          exact ⟨final, hfinal, hle⟩
      | true =>
          obtain ⟨choice, after, hadvance, hafter⟩ :=
            step_getElem?_of_advances hstep hmoves hcall
          obtain ⟨final, hfinal, hle⟩ := ih hrest hafter
          have hlower := h.lowers hadvance
          rw [List.countP_cons_of_pos hmoves]
          exact ⟨final, hfinal, by omega⟩

/-- A bound on the rank of every call that a run starts with or enters is a bound on the
steps of each. -/
theorem advances_le_bound (h : Ranked machine rank) {bound : Nat}
    (henter : ∀ input, rank (machine.enter input) ≤ bound) {start result : Pool σ κ δ}
    (hcalls : ∀ call ∈ start.calls, rank call ≤ bound) {labels : List (Label ι χ ω)}
    (hrun : Runs.exec (step machine) start labels = some result) (index : Nat) :
    labels.countP (Label.advances index) ≤ bound := by
  induction labels generalizing start with
  | nil => exact Nat.zero_le _
  | cons label labels ih =>
      cases hcall : start.calls[index]? with
      | some call =>
          obtain ⟨final, -, hle⟩ := h.advances_le hrun hcall
          have hrank := hcalls call (List.mem_of_getElem? hcall)
          omega
      | none =>
          obtain ⟨middle, hstep, hrest⟩ := Runs.exec_cons_eq_some hrun
          have hstill : label.advances index = false := by
            cases label with
            | advance advanced choice =>
                refine decide_eq_false fun hsame => ?_
                obtain ⟨moved, hmoved, -⟩ := Option.bind_eq_some_iff.mp hstep
                rw [hsame, hcall] at hmoved
                cases hmoved
            | _ => rfl
          rw [List.countP_cons_of_neg (by simp [hstill])]
          refine ih (fun call hmem => ?_) hrest
          rcases step_cases hstep with ⟨input, rfl, rfl⟩ |
            ⟨_, choice, moved, next, _, before, after, rfl, -, hadvances⟩ | ⟨change, rfl, rfl⟩
          · rcases List.mem_append.mp hmem with hold | hnew
            · exact hcalls call hold
            · rw [List.mem_singleton.mp hnew]
              exact henter input
          · rcases hadvances.mem_result hmem with rfl | hother
            · have hlower := h.lowers hadvances.effect
              have hrank := hcalls moved hadvances.call_mem
              exact Nat.le_trans (Nat.le_of_lt hlower) hrank
            · exact hcalls call (hadvances.still_mem hother)
          · exact hcalls call hmem

/-- A call that is not over can be let advance, which lowers the ranks together. -/
theorem exists_step (h : Ranked machine rank) (choice : χ) {pool : Pool σ κ δ} {call : κ}
    (hcall : call ∈ pool.calls) (hrank : rank call ≠ 0) :
    ∃ index result, step machine pool (.advance index choice) = some result ∧
      result.calls.length = pool.calls.length ∧
      rankSum rank result.calls < rankSum rank pool.calls := by
  obtain ⟨index, hindex⟩ := List.mem_iff_getElem?.mp hcall
  obtain ⟨after, hadvance⟩ := h.moves hrank choice pool.shared
  obtain ⟨before, rest, hcalls, hset⟩ := exists_around hindex after.1
  refine ⟨index, ⟨after.2.1, pool.calls.set index after.1, pool.log ++ after.2.2⟩, ?_,
    List.length_set, ?_⟩
  · rw [step, hindex, Option.bind_some, hadvance]
    rfl
  · have hlower := h.lowers hadvance
    change rankSum rank (pool.calls.set index after.1) < _
    rw [hset, hcalls, rankSum_append, rankSum_append, rankSum, rankSum]
    omega

/-- Every run can be continued, by letting calls advance alone, until all calls are over. -/
theorem exists_completion (h : Ranked machine rank) (choice : χ) (pool : Pool σ κ δ) :
    ∃ labels result, Runs.exec (step machine) pool labels = some result ∧
      (∀ label ∈ labels, label.isAdvance = true) ∧
      labels.length ≤ rankSum rank pool.calls ∧ result.calls.length = pool.calls.length ∧
      ∀ call ∈ result.calls, rank call = 0 := by
  induction hsum : rankSum rank pool.calls using Nat.strongRecOn generalizing pool with
  | _ sum ih =>
      by_cases hover : ∀ call ∈ pool.calls, rank call = 0
      · exact ⟨[], pool, rfl, List.forall_mem_nil _, Nat.zero_le _, rfl, hover⟩
      · push Not at hover
        obtain ⟨call, hcall, hrank⟩ := hover
        obtain ⟨index, middle, hstep, hlength, hlower⟩ := h.exists_step choice hcall hrank
        obtain ⟨labels, result, hrun, hadvances, hle, hcount, hdone⟩ :=
          ih _ (hsum ▸ hlower) middle rfl
        refine ⟨.advance index choice :: labels, result, ?_, ?_, ?_, hcount.trans hlength, hdone⟩
        · rw [Runs.exec_cons_of_step hstep]
          exact hrun
        · exact List.forall_mem_cons.mpr ⟨rfl, hadvances⟩
        · rw [List.length_cons]
          omega

end Ranked

end Library.Concurrent
