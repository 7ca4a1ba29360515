import Mathlib.Data.Finmap
import Mathlib.Data.List.Induction

/-!
# Accounts kept under keys

A log of entries is booked into a table, each entry into the account of its key, which
is opened blank at the first entry.  The account of a key is what the entries of that
key alone make of a blank one.
-/

namespace Library.Tally

variable {α κ ν : Type*} [DecidableEq κ]

/-- Book one entry into the account of its key. -/
def enter (keyOf : α → κ) (blank : ν) (book : ν → α → ν) (table : Finmap fun _ : κ => ν)
    (entry : α) : Finmap fun _ : κ => ν :=
  table.insert (keyOf entry) (book ((table.lookup (keyOf entry)).getD blank) entry)

/-- Book a whole log into an empty table. -/
def tally (keyOf : α → κ) (blank : ν) (book : ν → α → ν) (log : List α) :
    Finmap fun _ : κ => ν :=
  log.foldl (enter keyOf blank book) ∅

/-- The entries of one key. -/
def under (keyOf : α → κ) (key : κ) (log : List α) : List α :=
  log.filter fun entry => keyOf entry = key

/-- The account that a list of entries makes; without entries none is opened. -/
def account (blank : ν) (book : ν → α → ν) : List α → Option ν
  | [] => none
  | entry :: log => some (log.foldl book (book blank entry))

variable {keyOf : α → κ} {blank : ν} {book : ν → α → ν}

theorem account_concat (log : List α) (entry : α) :
    account blank book (log ++ [entry]) =
      some (book ((account blank book log).getD blank) entry) := by
  cases log with
  | nil => rfl
  | cons first log =>
      rw [List.cons_append, account, account, List.foldl_append]
      rfl

theorem under_concat_self {entry : α} {key : κ} (hkey : keyOf entry = key) (log : List α) :
    under keyOf key (log ++ [entry]) = under keyOf key log ++ [entry] := by
  simp [under, hkey]

theorem under_concat_other {entry : α} {key : κ} (hkey : keyOf entry ≠ key) (log : List α) :
    under keyOf key (log ++ [entry]) = under keyOf key log := by
  simp [under, hkey]

theorem under_under (log : List α) (key : κ) :
    under keyOf key (under keyOf key log) = under keyOf key log := by
  simp only [under, List.filter_filter, Bool.and_self]

/-- The account of a key is the account of its own entries. -/
theorem lookup_tally (log : List α) (key : κ) :
    (tally keyOf blank book log).lookup key = account blank book (under keyOf key log) := by
  induction log using List.reverseRecOn generalizing key with
  | nil => exact Finmap.lookup_empty key
  | append_singleton log entry ih =>
      rw [tally, List.foldl_append]
      change (enter keyOf blank book (tally keyOf blank book log) entry).lookup key = _
      rw [enter]
      by_cases hkey : keyOf entry = key
      · subst hkey
        rw [Finmap.lookup_insert, under_concat_self rfl, account_concat, ih]
      · rw [Finmap.lookup_insert_of_ne _ (Ne.symm hkey), under_concat_other hkey, ih]

/-- What every booking establishes holds of every account. -/
theorem account_of_book (law : ν → Prop) {log : List α} {value : ν}
    (hbook : ∀ value, ∀ entry ∈ log, law (book value entry))
    (haccount : account blank book log = some value) : law value := by
  induction log using List.reverseRecOn with
  | nil => cases haccount
  | append_singleton log entry =>
      rw [account_concat] at haccount
      cases haccount
      exact hbook _ entry (List.mem_append_right log (List.mem_singleton_self entry))

theorem account_eq_none_iff {log : List α} : account blank book log = none ↔ log = [] := by
  cases log with
  | nil => exact iff_of_true rfl rfl
  | cons entry log => exact iff_of_false nofun nofun

/-- The accounts are those of the keys that occur. -/
theorem lookup_tally_eq_none_iff {log : List α} {key : κ} :
    (tally keyOf blank book log).lookup key = none ↔ ∀ entry ∈ log, keyOf entry ≠ key := by
  rw [lookup_tally, account_eq_none_iff, under, List.filter_eq_nil_iff]
  simp only [decide_eq_true_iff, ne_eq]

/-! ## The order of a log -/

theorem account_eq_foldl {log : List α} (hlog : log ≠ []) :
    account blank book log = some (log.foldl book blank) := by
  cases log with
  | nil => exact absurd rfl hlog
  | cons entry log => rfl

/-- The order of the entries does not matter to an account if no two of them mind each
other. -/
theorem account_perm {log other : List α} (hperm : log.Perm other)
    (hcomm : ∀ first ∈ log, ∀ second ∈ log, ∀ value,
      book (book value first) second = book (book value second) first) :
    account blank book log = account blank book other := by
  by_cases hlog : log = []
  · subst hlog
    rw [List.nil_perm.mp hperm]
  · have hother : other ≠ [] := fun hnil => hlog (List.perm_nil.mp (hnil ▸ hperm))
    rw [account_eq_foldl hlog, account_eq_foldl hother, hperm.foldl_eq' hcomm]

/-- Nor does it matter to the table, if entries of one key do not mind each other. -/
theorem tally_perm {log other : List α} (hperm : log.Perm other)
    (hcomm : ∀ first ∈ log, ∀ second ∈ log, keyOf first = keyOf second → ∀ value,
      book (book value first) second = book (book value second) first) :
    tally keyOf blank book log = tally keyOf blank book other := by
  apply Finmap.ext_lookup
  intro key
  rw [lookup_tally, lookup_tally]
  apply account_perm (hperm.filter _)
  intro first hfirst second hsecond
  obtain ⟨hfirst, hkey⟩ := List.mem_filter.mp hfirst
  obtain ⟨hsecond, hsame⟩ := List.mem_filter.mp hsecond
  have hkeys : keyOf first = keyOf second :=
    (of_decide_eq_true hkey).trans (of_decide_eq_true hsame).symm
  exact hcomm first hfirst second hsecond hkeys

/-! ## Reading a table -/

/-- A table has one entry for a key at most. -/
theorem entries_filter_key (table : Finmap fun _ : κ => ν) (key : κ) :
    table.entries.filter (fun entry => entry.1 = key) =
      (table.lookup key).elim 0 fun value => {⟨key, value⟩} := by
  cases hlookup : table.lookup key with
  | none =>
      apply Multiset.filter_eq_nil.mpr
      intro entry hentry hkey
      obtain ⟨found, value⟩ := entry
      obtain rfl : found = key := hkey
      cases hlookup.symm.trans (Finmap.mem_lookup_iff.mpr hentry)
  | some value =>
      apply (Multiset.Nodup.ext (table.nodup_entries.filter _) (Multiset.nodup_singleton _)).mpr
      rintro ⟨found, other⟩
      rw [Multiset.mem_filter, Multiset.mem_singleton]
      constructor
      · rintro ⟨hentry, rfl⟩
        cases hlookup.symm.trans (Finmap.mem_lookup_iff.mpr hentry)
        rfl
      · rintro ⟨⟩
        exact ⟨Finmap.mem_lookup_iff.mp hlookup, rfl⟩

/-- Tallying the entries of one key gives the part of the table at that key. -/
theorem entries_tally_under (log : List α) (key : κ) :
    (tally keyOf blank book (under keyOf key log)).entries =
      (tally keyOf blank book log).entries.filter fun entry => entry.1 = key := by
  have honly : ∀ entry ∈ (tally keyOf blank book (under keyOf key log)).entries,
      entry.1 = key := by
    rintro ⟨found, value⟩ hentry
    by_contra hfound
    have hnone : (tally keyOf blank book (under keyOf key log)).lookup found = none := by
      apply lookup_tally_eq_none_iff.mpr
      intro entry hentry hkey
      exact hfound (hkey.symm.trans (of_decide_eq_true (List.mem_filter.mp hentry).2))
    cases hnone.symm.trans (Finmap.mem_lookup_iff.mpr hentry)
  rw [← Multiset.filter_eq_self.mpr honly, entries_filter_key, entries_filter_key,
    lookup_tally, lookup_tally, under_under]

/-! ## A log and a table that agree -/

/-- For each entry of the log the table has a value of the given kind, under the key of that
entry and saying the same; and it has no other value of that kind. -/
structure Agree {β : Type*} (keyOf : α → κ) (kind : ν → Prop) (ofEntry : α → β)
    (ofValue : ν → β) (log : List α) (table : Finmap fun _ : κ => ν) : Prop where
  single : ∀ key value, table.lookup key = some value → kind value →
    ∃ entry, under keyOf key log = [entry] ∧ ofEntry entry = ofValue value
  none : ∀ key value, table.lookup key = some value → ¬ kind value → under keyOf key log = []
  named : ∀ entry ∈ log, keyOf entry ∈ table

namespace Agree

variable {β : Type*} {kind : ν → Prop} {ofEntry : α → β} {ofValue : ν → β} {log : List α}
  {table : Finmap fun _ : κ => ν}

/-- An entry of the log, in the table. -/
theorem found (h : Agree keyOf kind ofEntry ofValue log table) {entry : α}
    (hentry : entry ∈ log) :
    ∃ value, table.lookup (keyOf entry) = some value ∧ kind value ∧
      under keyOf (keyOf entry) log = [entry] ∧ ofEntry entry = ofValue value := by
  obtain ⟨value, hvalue⟩ := Finmap.mem_iff.mp (h.named entry hentry)
  have hunder : entry ∈ under keyOf (keyOf entry) log :=
    List.mem_filter.mpr ⟨hentry, decide_eq_true rfl⟩
  have hkind : kind value := by
    by_contra hnot
    rw [h.none _ value hvalue hnot] at hunder
    cases hunder
  obtain ⟨only, honly, hsays⟩ := h.single _ value hvalue hkind
  rw [honly, List.mem_singleton] at hunder
  subst hunder
  exact ⟨value, hvalue, hkind, honly, hsays⟩

/-- No key occurs twice in the log. -/
theorem keys_nodup (h : Agree keyOf kind ofEntry ofValue log table) :
    (log.map keyOf).Nodup := by
  refine List.nodup_iff_count_le_one.mpr fun key => ?_
  have hcount : (log.map keyOf).count key = (under keyOf key log).length := by
    rw [List.count_eq_countP, List.countP_map, List.countP_eq_length_filter]
    rfl
  rw [hcount]
  cases hunder : under keyOf key log with
  | nil => exact Nat.zero_le 1
  | cons entry rest =>
      have hmem : entry ∈ under keyOf key log := hunder ▸ List.mem_cons_self
      obtain ⟨hentry, hkey⟩ := List.mem_filter.mp hmem
      obtain rfl : keyOf entry = key := of_decide_eq_true hkey
      obtain ⟨value, -, -, honly, -⟩ := h.found hentry
      rw [← hunder, honly]
      exact Nat.le_refl 1

variable [DecidablePred kind]

/-- The keys of the log are those of the values of the kind. -/
theorem keys (h : Agree keyOf kind ofEntry ofValue log table) :
    (log.map keyOf : Multiset κ) =
      (table.entries.filter fun entry => kind entry.2).map Sigma.fst := by
  have htable : ((table.entries.filter fun entry => kind entry.2).map Sigma.fst).Nodup :=
    Multiset.nodup_of_le (Multiset.map_le_map (Multiset.filter_le _ _))
      table.nodupKeys.nodup_keys
  apply (Multiset.Nodup.ext (Multiset.coe_nodup.mpr h.keys_nodup) htable).mpr
  intro key
  rw [Multiset.mem_coe, List.mem_map, Multiset.mem_map]
  constructor
  · rintro ⟨entry, hentry, rfl⟩
    obtain ⟨value, hvalue, hkind, -, -⟩ := h.found hentry
    refine ⟨⟨keyOf entry, value⟩, ?_, rfl⟩
    exact Multiset.mem_filter.mpr ⟨Finmap.mem_lookup_iff.mp hvalue, hkind⟩
  · rintro ⟨⟨key, value⟩, hentry, rfl⟩
    obtain ⟨hmem, hkind⟩ := Multiset.mem_filter.mp hentry
    obtain ⟨only, honly, -⟩ := h.single key value (Finmap.mem_lookup_iff.mpr hmem) hkind
    have honlyMem : only ∈ under keyOf key log := honly ▸ List.mem_singleton_self only
    obtain ⟨hlog, hkey⟩ := List.mem_filter.mp honlyMem
    exact ⟨only, hlog, of_decide_eq_true hkey⟩

/-- The log and the values of the kind say the same things, equally often: both sides are
what the table says at the common keys. -/
theorem map_eq (h : Agree keyOf kind ofEntry ofValue log table) :
    (log.map ofEntry : Multiset β) =
      (table.entries.filter fun entry => kind entry.2).map fun entry => ofValue entry.2 := by
  let said (key : κ) : Option β := (table.lookup key).map ofValue
  apply Multiset.map_injective (Option.some_injective β)
  have hlog : (log.map ofEntry : Multiset β).map some = (log.map keyOf : Multiset κ).map said := by
    rw [Multiset.map_coe, Multiset.map_coe, List.map_map, List.map_map]
    refine congrArg _ (List.map_congr_left fun entry hentry => ?_)
    obtain ⟨value, hvalue, -, -, hsays⟩ := h.found hentry
    simp only [Function.comp_apply, said, hvalue, Option.map_some, hsays]
  rw [hlog, h.keys, Multiset.map_map, Multiset.map_map]
  refine Multiset.map_congr rfl fun entry hentry => ?_
  have hlookup : table.lookup entry.1 = some entry.2 :=
    Finmap.mem_lookup_iff.mpr (Multiset.mem_filter.mp hentry).1
  simp only [Function.comp_apply, said, hlookup, Option.map_some]

end Agree

end Library.Tally
