import Mathlib.Data.List.Nodup
import Mathlib.Data.List.Perm.Basic
import Mathlib.Logic.Relation

/-!
# The first entry of a name

Entries of a list are looked up by name, the first one winning; an entry may have no name
at all.  `Rearranges` lists the changes to the list that no look-up for the given names can
notice.
-/

namespace Library.Named

variable {α κ : Type} [DecidableEq κ] {nameOf : α → Option κ}

/-- The first entry of the name. -/
def first? (nameOf : α → Option κ) (name : κ) (entries : List α) : Option α :=
  entries.find? fun entry => nameOf entry = some name

/-- One change that keeps the first entry of each of the names. -/
inductive Rearranges (nameOf : α → Option κ) (names : List κ) : List α → List α → Prop where
  | swap (before after : List α) {one other : α} (distinct : nameOf one ≠ nameOf other) :
      Rearranges nameOf names (before ++ one :: other :: after) (before ++ other :: one :: after)
  | reorder {entries entries' : List α} (perm : entries.Perm entries')
      (distinct : (entries.filterMap nameOf).Nodup) :
      Rearranges nameOf names entries entries'
  | insert (before after : List α) {entry : α}
      (foreign : ∀ name ∈ names, nameOf entry ≠ some name) :
      Rearranges nameOf names (before ++ after) (before ++ entry :: after)
  | duplicate (before middle after : List α) {entry later : α}
      (same : nameOf later = nameOf entry) :
      Rearranges nameOf names (before ++ entry :: (middle ++ after))
        (before ++ entry :: (middle ++ later :: after))

theorem first?_cons_of_eq {name : κ} {entry : α} (hname : nameOf entry = some name)
    (entries : List α) : first? nameOf name (entry :: entries) = some entry :=
  List.find?_cons_of_pos (decide_eq_true hname)

theorem first?_cons_of_ne {name : κ} {entry : α} (hname : nameOf entry ≠ some name)
    (entries : List α) : first? nameOf name (entry :: entries) = first? nameOf name entries :=
  List.find?_cons_of_neg (by simpa using hname)

theorem first?_append (name : κ) (before after : List α) :
    first? nameOf name (before ++ after) =
      (first? nameOf name before).or (first? nameOf name after) :=
  List.find?_append

/-- Entries without a name may be dropped. -/
theorem first?_filter {keep : α → Bool} (hkeep : ∀ entry, keep entry = false → nameOf entry = none)
    (name : κ) (entries : List α) :
    first? nameOf name (entries.filter keep) = first? nameOf name entries := by
  induction entries with
  | nil => rfl
  | cons entry entries ih =>
      cases hentry : keep entry with
      | true =>
          rw [List.filter_cons_of_pos hentry]
          by_cases hname : nameOf entry = some name
          · rw [first?_cons_of_eq hname, first?_cons_of_eq hname]
          · rw [first?_cons_of_ne hname, first?_cons_of_ne hname, ih]
      | false =>
          have hother : nameOf entry ≠ some name := by
            rw [hkeep entry hentry]
            exact nofun
          rw [List.filter_cons_of_neg (by simp [hentry]), first?_cons_of_ne hother, ih]

theorem first?_eq_head? (name : κ) (entries : List α) :
    first? nameOf name entries =
      (entries.filter fun entry => nameOf entry = some name).head? :=
  (List.head?_filter ..).symm

/-- Where names are distinct, one entry at most has the name. -/
theorem filter_length_le_one {entries : List α} (hdistinct : (entries.filterMap nameOf).Nodup)
    (name : κ) : (entries.filter fun entry => nameOf entry = some name).length ≤ 1 := by
  have hcount := List.nodup_iff_count_le_one.mp hdistinct name
  rw [List.count, List.countP_filterMap] at hcount
  rw [← List.countP_eq_length_filter]
  refine Nat.le_trans (Nat.le_of_eq (List.countP_congr fun entry _ => ?_)) hcount
  cases nameOf entry <;> simp

theorem perm_eq_of_length_le_one {entries entries' : List α} (hperm : entries.Perm entries')
    (hlength : entries.length ≤ 1) : entries = entries' := by
  match entries, hlength with
  | [], _ => exact (List.nil_perm.mp hperm).symm
  | [entry], _ => exact (List.singleton_perm.mp hperm)

/-- No change of the list is noticed by a look-up for one of the names. -/
theorem Rearranges.first?_eq {names : List κ} {entries entries' : List α}
    (h : Rearranges nameOf names entries entries') {name : κ} (hname : name ∈ names) :
    first? nameOf name entries = first? nameOf name entries' := by
  cases h with
  | @swap before after one other hdistinct =>
      rw [first?_append, first?_append]
      apply congrArg
      by_cases hone : nameOf one = some name
      · have hother : nameOf other ≠ some name := fun h => hdistinct (hone.trans h.symm)
        rw [first?_cons_of_eq hone, first?_cons_of_ne hother, first?_cons_of_eq hone]
      · by_cases hother : nameOf other = some name
        · rw [first?_cons_of_ne hone, first?_cons_of_eq hother, first?_cons_of_eq hother]
        · rw [first?_cons_of_ne hone, first?_cons_of_ne hother, first?_cons_of_ne hother,
            first?_cons_of_ne hone]
  | reorder hperm hdistinct =>
      rw [first?_eq_head?, first?_eq_head?]
      exact congrArg List.head?
        (perm_eq_of_length_le_one (hperm.filter _) (filter_length_le_one hdistinct name))
  | insert before after hforeign =>
      rw [first?_append, first?_append, first?_cons_of_ne (hforeign name hname)]
  | @duplicate before middle after entry later hsame =>
      rw [first?_append, first?_append]
      apply congrArg
      by_cases hentry : nameOf entry = some name
      · rw [first?_cons_of_eq hentry, first?_cons_of_eq hentry]
      · have hlater : nameOf later ≠ some name := fun h => hentry (hsame.symm.trans h)
        rw [first?_cons_of_ne hentry, first?_cons_of_ne hentry, first?_append, first?_append,
          first?_cons_of_ne hlater]

/-- Nor is any sequence of changes, made or taken back. -/
theorem first?_eq_of_rearranged {names : List κ} {entries entries' : List α}
    (h : Relation.EqvGen (Rearranges nameOf names) entries entries') {name : κ}
    (hname : name ∈ names) : first? nameOf name entries = first? nameOf name entries' := by
  induction h with
  | rel entries entries' hchange => exact hchange.first?_eq hname
  | refl entries => rfl
  | symm entries entries' _ ih => exact ih.symm
  | trans entries middle entries' _ _ ih ih' => exact ih.trans ih'

end Library.Named
