import Mathlib.Data.List.Perm.Basic
import QtradeClient.Library.Runs

/-!
# Calls in flight over a shared store

A machine gives the atomic steps of one call on a store that all calls share.  A
pool holds the store, every call that was ever entered, and a log of what the
steps emit.  One step of the pool enters a new call, advances one call, or lets
something outside the calls change the store, so the runs of a pool are all the
interleavings of any number of calls.  A call entered from inside another one is
an interleaving in which the outer call does not advance meanwhile.
-/

namespace Library.Concurrent

/-- `σ` is the store, `κ` the state of a call, `ι` what a call is entered with, `χ`
a choice made by the environment of a step, `ω` a change from outside, and `δ` an
entry of the log. -/
structure Machine (σ κ ι χ ω δ : Type*) where
  enter : ι → κ
  advance : χ → σ → κ → Option (κ × σ × List δ)
  outside : ω → σ → σ × List δ

structure Pool (σ κ δ : Type*) where
  shared : σ
  calls : List κ
  log : List δ

inductive Label (ι χ ω : Type*) where
  | start (input : ι)
  | advance (index : Nat) (choice : χ)
  | outside (change : ω)

variable {σ κ ι χ ω δ : Type*}

/-- A store with no call in flight and nothing emitted. -/
def idle (shared : σ) : Pool σ κ δ := ⟨shared, [], []⟩

def step (machine : Machine σ κ ι χ ω δ) (pool : Pool σ κ δ) :
    Label ι χ ω → Option (Pool σ κ δ)
  | .start input => some { pool with calls := pool.calls ++ [machine.enter input] }
  | .advance index choice =>
      pool.calls[index]?.bind fun call =>
        (machine.advance choice pool.shared call).map fun after =>
          ⟨after.2.1, pool.calls.set index after.1, pool.log ++ after.2.2⟩
  | .outside change =>
      let after := machine.outside change pool.shared
      some ⟨after.1, pool.calls, pool.log ++ after.2⟩

/-- A list around the entry at an index, before and after that entry is replaced. -/
theorem exists_around {calls : List κ} {index : Nat} {call : κ}
    (hcall : calls[index]? = some call) (next : κ) :
    ∃ before after, calls = before ++ call :: after ∧
      calls.set index next = before ++ next :: after := by
  obtain ⟨hindex, rfl⟩ := List.getElem?_eq_some_iff.mp hcall
  refine ⟨calls.take index, calls.drop (index + 1), ?_, ?_⟩
  · rw [List.getElem_cons_drop, List.take_append_drop]
  · exact List.set_eq_take_append_cons_drop.trans (if_pos hindex)

/-- The call at `call` steps to `next`, all other calls standing still. -/
structure Advances (machine : Machine σ κ ι χ ω δ) (choice : χ) (pool : Pool σ κ δ)
    (call next : κ) (emitted : List δ) (before after : List κ) (result : Pool σ κ δ) : Prop where
  effect : machine.advance choice pool.shared call = some (next, result.shared, emitted)
  calls : pool.calls = before ++ call :: after
  result_calls : result.calls = before ++ next :: after
  result_log : result.log = pool.log ++ emitted

/-- The three kinds of step of a pool. -/
theorem step_cases {machine : Machine σ κ ι χ ω δ} {pool result : Pool σ κ δ}
    {label : Label ι χ ω} (hstep : step machine pool label = some result) :
    (∃ input, label = .start input ∧
      result = { pool with calls := pool.calls ++ [machine.enter input] }) ∨
    (∃ index choice call next emitted before after, label = .advance index choice ∧
      pool.calls[index]? = some call ∧
      Advances machine choice pool call next emitted before after result) ∨
    (∃ change, label = .outside change ∧
      result = ⟨(machine.outside change pool.shared).1, pool.calls,
        pool.log ++ (machine.outside change pool.shared).2⟩) := by
  cases label with
  | start input => exact .inl ⟨input, rfl, (Option.some.inj hstep).symm⟩
  | outside change => exact .inr (.inr ⟨change, rfl, (Option.some.inj hstep).symm⟩)
  | advance index choice =>
      refine .inr (.inl ?_)
      obtain ⟨call, hcall, hmap⟩ := Option.bind_eq_some_iff.mp hstep
      obtain ⟨⟨next, shared, emitted⟩, heffect, rfl⟩ := Option.map_eq_some_iff.mp hmap
      obtain ⟨before, after, hcalls, hset⟩ := exists_around hcall next
      exact ⟨index, choice, call, next, emitted, before, after, rfl, hcall,
        ⟨heffect, hcalls, hset, rfl⟩⟩

namespace Advances

variable {machine : Machine σ κ ι χ ω δ} {choice : χ} {pool result : Pool σ κ δ}
  {call next : κ} {emitted : List δ} {before after : List κ}

theorem call_mem (h : Advances machine choice pool call next emitted before after result) :
    call ∈ pool.calls := by
  rw [h.calls]
  exact List.mem_append_right before List.mem_cons_self

theorem next_mem (h : Advances machine choice pool call next emitted before after result) :
    next ∈ result.calls := by
  rw [h.result_calls]
  exact List.mem_append_right before List.mem_cons_self

/-- A call of the new pool is the one that stepped or one that stood still. -/
theorem mem_result (h : Advances machine choice pool call next emitted before after result)
    {other : κ} (hother : other ∈ result.calls) :
    other = next ∨ other ∈ before ++ after := by
  rw [h.result_calls, List.mem_append, List.mem_cons] at hother
  rw [List.mem_append]
  tauto

/-- A call of the old pool is the one that stepped or is still there. -/
theorem mem_pool (h : Advances machine choice pool call next emitted before after result)
    {other : κ} (hother : other ∈ pool.calls) :
    other = call ∨ other ∈ result.calls := by
  rw [h.calls, List.mem_append, List.mem_cons] at hother
  rw [h.result_calls, List.mem_append, List.mem_cons]
  tauto

/-- A call of the old pool is the one that steps or one that stands still. -/
theorem mem_still (h : Advances machine choice pool call next emitted before after result)
    {other : κ} (hother : other ∈ pool.calls) : other = call ∨ other ∈ before ++ after := by
  rw [h.calls, List.mem_append, List.mem_cons] at hother
  rw [List.mem_append]
  tauto

theorem still_mem (h : Advances machine choice pool call next emitted before after result)
    {other : κ} (hother : other ∈ before ++ after) : other ∈ pool.calls := by
  rw [h.calls, List.mem_append, List.mem_cons]
  rw [List.mem_append] at hother
  tauto

theorem pool_filterMap {β : Type*} (f : κ → Option β)
    (h : Advances machine choice pool call next emitted before after result) :
    (pool.calls.filterMap f).Perm
      ((f call).toList ++ (before ++ after).filterMap f) := by
  rw [h.calls]
  apply (List.perm_middle.filterMap f).trans
  rw [List.filterMap_cons]
  cases f call <;> rfl

theorem result_filterMap {β : Type*} (f : κ → Option β)
    (h : Advances machine choice pool call next emitted before after result) :
    (result.calls.filterMap f).Perm
      ((f next).toList ++ (before ++ after).filterMap f) := by
  rw [h.result_calls]
  apply (List.perm_middle.filterMap f).trans
  rw [List.filterMap_cons]
  cases f next <;> rfl

end Advances

/-! ## A call that nothing interrupts -/

/-- A call advancing alone for a number of steps, with what it emits. -/
inductive Solo (machine : Machine σ κ ι χ ω δ) (choice : χ) :
    Nat → σ → κ → σ → κ → List δ → Prop where
  | refl (shared : σ) (call : κ) : Solo machine choice 0 shared call shared call []
  | step {count : Nat} {shared shared' last : σ} {call call' final : κ}
      {emitted rest : List δ}
      (first : machine.advance choice shared call = some (call', shared', emitted))
      (others : Solo machine choice count shared' call' last final rest) :
      Solo machine choice (count + 1) shared call last final (emitted ++ rest)

/-- A first step that emits nothing. -/
theorem Solo.silent {machine : Machine σ κ ι χ ω δ} {choice : χ} {count : Nat}
    {shared shared' last : σ} {call call' final : κ} {emitted : List δ}
    (first : machine.advance choice shared call = some (call', shared', []))
    (others : Solo machine choice count shared' call' last final emitted) :
    Solo machine choice (count + 1) shared call last final emitted := .step first others

theorem Solo.trans {machine : Machine σ κ ι χ ω δ} {choice : χ} {first second : Nat}
    {shared middle last : σ} {call between final : κ} {emitted rest : List δ}
    (hfirst : Solo machine choice first shared call middle between emitted)
    (hsecond : Solo machine choice second middle between last final rest) :
    Solo machine choice (second + first) shared call last final (emitted ++ rest) := by
  induction hfirst with
  | refl shared call => exact hsecond
  | step hstep others ih =>
      rw [List.append_assoc]
      exact .step hstep (ih hsecond)

/-- The call entered last, advancing alone in a pool. -/
theorem exec_solo {machine : Machine σ κ ι χ ω δ} {choice : χ} {count : Nat}
    {shared last : σ} {call final : κ} {emitted : List δ}
    (hsolo : Solo machine choice count shared call last final emitted)
    (calls : List κ) (log : List δ) :
    Runs.exec (step machine) ⟨shared, calls ++ [call], log⟩
        (List.replicate count (.advance calls.length choice)) =
      some ⟨last, calls ++ [final], log ++ emitted⟩ := by
  induction hsolo generalizing log with
  | refl shared call =>
      rw [List.append_nil]
      rfl
  | @step count shared shared' last call call' final emitted rest first others ih =>
      have hstep : step machine ⟨shared, calls ++ [call], log⟩
          (.advance calls.length choice) =
          some ⟨shared', calls ++ [call'], log ++ emitted⟩ := by
        simp only [step, List.getElem?_concat_length, Option.bind_some, first,
          Option.map_some, List.set_append_right _ _ (Nat.le_refl _), Nat.sub_self,
          List.set_cons_zero]
      rw [List.replicate_succ, Runs.exec_cons_of_step hstep, ih, List.append_assoc]

end Library.Concurrent
