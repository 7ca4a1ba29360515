import QtradeClient.Library.Concurrent

/-!
# What the log says and what has become of it

Entries of the log of a pool may stand for things that are then either in the store or in
the hands of a call.  If every atomic step moves such things about without making or
losing one that the log does not tell of, then in every state of a run the log accounts
for exactly those that are there, each once.
-/

namespace Library.Concurrent

variable {σ κ ι χ ω δ β : Type*}

/-- A reader that reads no more than another one reads a part of what that one does. -/
theorem filterMap_sublist {first second : κ → Option β} {calls : List κ}
    (hle : ∀ call ∈ calls, ∀ value, first call = some value → second call = some value) :
    (calls.filterMap first).Sublist (calls.filterMap second) := by
  induction calls with
  | nil => exact .slnil
  | cons call calls ih =>
      obtain ⟨hcall, hcalls⟩ := List.forall_mem_cons.mp hle
      cases hfirst : first call with
      | some value =>
          rw [List.filterMap_cons_some hfirst, List.filterMap_cons_some (hcall value hfirst)]
          exact (ih hcalls).cons_cons value
      | none =>
          rw [List.filterMap_cons_none hfirst, List.filterMap_cons]
          split
          · exact ih hcalls
          · exact (ih hcalls).cons _

/-- On stores and calls of the given kinds, what a step reads into the log comes into the
store or into the hands of the call that steps, and nothing else does. -/
structure Conserves (machine : Machine σ κ ι χ ω δ) (kind : σ → Prop) (proper : κ → Prop)
    (read : δ → Option β) (stored : σ → List β) (held : κ → Option β) : Prop where
  enters : ∀ input, proper (machine.enter input) ∧ held (machine.enter input) = none
  advances : ∀ {choice shared call next shared' emitted}, kind shared → proper call →
    machine.advance choice shared call = some (next, shared', emitted) →
      kind shared' ∧ proper next ∧
        (stored shared ++ (held call).toList ++ emitted.filterMap read).Perm
          (stored shared' ++ (held next).toList)
  outside : ∀ change {shared}, kind shared →
    kind (machine.outside change shared).1 ∧
      (stored shared ++ (machine.outside change shared).2.filterMap read).Perm
        (stored (machine.outside change shared).1)

/-- The log accounts for what the store and the calls have. -/
structure Accounts (kind : σ → Prop) (proper : κ → Prop) (read : δ → Option β)
    (stored : σ → List β) (held : κ → Option β) (pool : Pool σ κ δ) : Prop where
  kind : kind pool.shared
  proper : ∀ call ∈ pool.calls, proper call
  balance : (pool.log.filterMap read).Perm
    (stored pool.shared ++ pool.calls.filterMap held)

namespace Conserves

variable {machine : Machine σ κ ι χ ω δ} {kind : σ → Prop} {proper : κ → Prop}
  {read : δ → Option β} {stored : σ → List β} {held : κ → Option β} {pool result : Pool σ κ δ}

/-- A call that enters holds nothing. -/
theorem enter (h : Conserves machine kind proper read stored held)
    (haccounts : Accounts kind proper read stored held pool) (input : ι) :
    Accounts kind proper read stored held
      { pool with calls := pool.calls ++ [machine.enter input] } := by
  obtain ⟨hproper, hnone⟩ := h.enters input
  refine ⟨haccounts.kind, fun call hcall => ?_, ?_⟩
  · rcases List.mem_append.mp hcall with hold | hnew
    · exact haccounts.proper call hold
    · rw [List.mem_singleton.mp hnew]
      exact hproper
  · have hcalls : (pool.calls ++ [machine.enter input]).filterMap held =
        pool.calls.filterMap held := by
      rw [List.filterMap_append, List.filterMap_cons, hnone, List.filterMap_nil,
        List.append_nil]
    rw [hcalls]
    exact haccounts.balance

/-- The calls that stand still hold the same before and after. -/
theorem advance (h : Conserves machine kind proper read stored held)
    (haccounts : Accounts kind proper read stored held pool) {choice : χ} {call next : κ}
    {emitted : List δ} {before after : List κ}
    (hadvances : Advances machine choice pool call next emitted before after result) :
    Accounts kind proper read stored held result := by
  obtain ⟨hkind, hproper, hmoved⟩ :=
    h.advances haccounts.kind (haccounts.proper call hadvances.call_mem) hadvances.effect
  refine ⟨hkind, fun other hother => ?_, ?_⟩
  · rcases hadvances.mem_result hother with rfl | hstill
    · exact hproper
    · exact haccounts.proper other (hadvances.still_mem hstill)
  · have hbefore := haccounts.balance.trans
      ((hadvances.pool_filterMap held).append_left (stored pool.shared))
    have hafter := (hadvances.result_filterMap held).append_left (stored result.shared)
    have hstill := hmoved.append_right ((before ++ after).filterMap held)
    rw [hadvances.result_log, List.filterMap_append]
    refine (hbefore.append_right _).trans (.trans ?_ hafter.symm)
    simp only [List.append_assoc] at hstill ⊢
    refine List.Perm.trans ?_ hstill
    exact (List.perm_append_comm.append_left _).append_left _

theorem change (h : Conserves machine kind proper read stored held)
    (haccounts : Accounts kind proper read stored held pool) (change : ω) :
    Accounts kind proper read stored held
      ⟨(machine.outside change pool.shared).1, pool.calls,
        pool.log ++ (machine.outside change pool.shared).2⟩ := by
  obtain ⟨hkind, hmoved⟩ := h.outside change haccounts.kind
  refine ⟨hkind, haccounts.proper, ?_⟩
  rw [List.filterMap_append]
  refine (haccounts.balance.append_right _).trans (.trans ?_ (hmoved.append_right _))
  rw [List.append_assoc, List.append_assoc]
  exact List.perm_append_comm.append_left _

theorem step (h : Conserves machine kind proper read stored held) {label : Label ι χ ω}
    (haccounts : Accounts kind proper read stored held pool)
    (hstep : Concurrent.step machine pool label = some result) :
    Accounts kind proper read stored held result := by
  rcases step_cases hstep with ⟨input, rfl, rfl⟩ |
    ⟨index, choice, call, next, emitted, before, after, rfl, -, hadvances⟩ | ⟨change, rfl, rfl⟩
  · exact h.enter haccounts input
  · exact h.advance haccounts hadvances
  · exact h.change haccounts change

/-- A run that starts in balance ends in balance. -/
theorem run (h : Conserves machine kind proper read stored held) {labels : List (Label ι χ ω)}
    (haccounts : Accounts kind proper read stored held pool)
    (hrun : Runs.exec (Concurrent.step machine) pool labels = some result) :
    Accounts kind proper read stored held result :=
  Runs.exec_preserves (fun hbefore hstep => h.step hbefore hstep) hrun haccounts

end Conserves

end Library.Concurrent
