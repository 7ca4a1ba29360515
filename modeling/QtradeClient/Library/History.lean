import Mathlib.Data.List.Induction

/-!
# The latest entry of a history

A history is a list with the newest entry last.  `latest? f history` is the
value of the newest entry on which `f` is defined.  The lemmas follow a history
as it grows by one entry, which is how an invariant about it is kept.
-/

namespace Library.History

variable {α β γ : Type*}

/-- The value of the newest entry for which `f` answers. -/
def latest? (f : α → Option β) (history : List α) : Option β :=
  history.reverse.findSome? f

theorem latest?_concat (f : α → Option β) (history : List α) (entry : α) :
    latest? f (history ++ [entry]) = (f entry).or (latest? f history) := by
  unfold latest?
  rw [List.reverse_append, List.reverse_singleton, List.singleton_append,
    List.findSome?_cons]
  cases f entry <;> rfl

theorem latest?_concat_some {f : α → Option β} {entry : α} {value : β}
    (hentry : f entry = some value) (history : List α) :
    latest? f (history ++ [entry]) = some value := by
  rw [latest?_concat, hentry, Option.some_or]

theorem latest?_concat_none {f : α → Option β} {entry : α}
    (hentry : f entry = none) (history : List α) :
    latest? f (history ++ [entry]) = latest? f history := by
  rw [latest?_concat, hentry, Option.none_or]

/-- The oldest entry counts only if no later one does. -/
theorem latest?_cons (f : α → Option β) (entry : α) (history : List α) :
    latest? f (entry :: history) = (latest? f history).or (f entry) := by
  unfold latest?
  rw [List.reverse_cons, List.findSome?_append, List.findSome?_singleton]

theorem latest?_eq_none_iff {f : α → Option β} {history : List α} :
    latest? f history = none ↔ ∀ entry ∈ history, f entry = none := by
  unfold latest?
  rw [List.findSome?_eq_none_iff]
  simp only [List.mem_reverse]

/-- A filter that answers less often finds nothing where the wider one finds
nothing. -/
theorem latest?_eq_none_of_imp {f : α → Option β} {g : α → Option γ}
    (himp : ∀ entry, f entry = none → g entry = none) {history : List α}
    (hnone : latest? f history = none) : latest? g history = none :=
  latest?_eq_none_iff.mpr fun entry hentry =>
    himp entry (latest?_eq_none_iff.mp hnone entry hentry)

/-- When the newest answer of the wider filter is one the narrower filter also
gives, it is the newest answer of the narrower one. -/
theorem latest?_of_latest? {f : α → Option β} {g : α → Option γ} {value : β} {image : γ}
    (hnone : ∀ entry, f entry = none → g entry = none)
    (hsome : ∀ entry, f entry = some value → g entry = some image)
    {history : List α} (hlatest : latest? f history = some value) :
    latest? g history = some image := by
  induction history using List.reverseRecOn with
  | nil => cases hlatest
  | append_singleton history entry ih =>
      rw [latest?_concat] at hlatest ⊢
      cases hentry : f entry with
      | none =>
          rw [hentry, Option.none_or] at hlatest
          rw [hnone entry hentry, Option.none_or]
          exact ih hlatest
      | some found =>
          rw [hentry, Option.some_or] at hlatest
          obtain rfl : found = value := Option.some.inj hlatest
          rw [hsome entry hentry, Option.some_or]

end Library.History
