import Mathlib.Algebra.Group.Nat.Defs
import Mathlib.Data.List.Nodup
import Mathlib.Data.List.Perm.Basic

/-!
# One key space for asked and automatic keys

A numbering serves requests in order.  A request either asks for a key of its own
or takes the next value of a counter.  Since both draw on one key space, the keys
it gives are distinct exactly when no asked key lies in the range that the counter
passes over.
-/

namespace Library.Numbering

/-- The keys given to a list of requests by a counter that stands at `next`. -/
def assign (next : Nat) : List (Option Nat) → List Nat
  | [] => []
  | none :: requests => next :: assign (next + 1) requests
  | some key :: requests => key :: assign next requests

/-- How many requests take the counter. -/
def automatic (requests : List (Option Nat)) : Nat := requests.count none

/-- The keys that were asked for. -/
def asked (requests : List (Option Nat)) : List Nat := requests.filterMap id

@[simp] theorem automatic_nil : automatic [] = 0 := rfl

@[simp] theorem automatic_none (requests : List (Option Nat)) :
    automatic (none :: requests) = automatic requests + 1 := List.count_cons_self

@[simp] theorem automatic_some (key : Nat) (requests : List (Option Nat)) :
    automatic (some key :: requests) = automatic requests :=
  List.count_cons_of_ne (by simp)

@[simp] theorem asked_none (requests : List (Option Nat)) :
    asked (none :: requests) = asked requests := rfl

@[simp] theorem asked_some (key : Nat) (requests : List (Option Nat)) :
    asked (some key :: requests) = key :: asked requests := rfl

theorem automatic_le_length (requests : List (Option Nat)) :
    automatic requests ≤ requests.length := List.count_le_length

/-- The keys given are the counter's range together with the asked keys. -/
theorem assign_perm (next : Nat) (requests : List (Option Nat)) :
    (assign next requests).Perm
      (List.range' next (automatic requests) ++ asked requests) := by
  induction requests generalizing next with
  | nil => exact List.Perm.refl []
  | cons request requests ih =>
      cases request with
      | none =>
          rw [automatic_none, asked_none, List.range'_succ, List.cons_append]
          exact (ih (next + 1)).cons next
      | some key =>
          rw [automatic_some, asked_some]
          exact ((ih next).cons key).trans List.perm_middle.symm

/-- Distinct asked keys stay distinct from the automatic ones exactly when they
avoid the range of the counter. -/
theorem assign_nodup_iff (next : Nat) {requests : List (Option Nat)}
    (hasked : (asked requests).Nodup) :
    (assign next requests).Nodup ↔
      ∀ key ∈ asked requests, key < next ∨ next + automatic requests ≤ key := by
  rw [(assign_perm next requests).nodup_iff, List.nodup_append]
  constructor
  · rintro ⟨-, -, hdisjoint⟩ key hkey
    by_contra hinside
    rw [not_or, Nat.not_lt, Nat.not_le] at hinside
    exact hdisjoint key (List.mem_range'_1.mpr hinside) key hkey rfl
  · intro havoid
    refine ⟨List.nodup_range', hasked, ?_⟩
    rintro key hrange other hother rfl
    have hinside := List.mem_range'_1.mp hrange
    rcases havoid key hother with hbelow | habove
    · omega
    · omega

/-! ## Counters of machine words -/

theorem counter_toNat {next : Nat} (hnext : next < 2 ^ 64) :
    (UInt64.ofNat next).toNat = next := by
  rw [UInt64.toNat_ofNat', Nat.mod_eq_of_lt hnext]

theorem counter_succ (next : Nat) : UInt64.ofNat next + 1 = UInt64.ofNat (next + 1) := by
  rw [UInt64.ofNat_add]
  rfl

/-- A counter that does not wrap gives distinct words. -/
theorem counter_nodup {first count : Nat} (hcount : first + count ≤ 2 ^ 64) :
    ((List.range' first count).map UInt64.ofNat).Nodup := by
  refine List.Nodup.map_on (fun left hleft right hright hsame => ?_) List.nodup_range'
  rw [List.mem_range'_1] at hleft hright
  have htoNat := congrArg UInt64.toNat hsame
  rw [counter_toNat (by omega), counter_toNat (by omega)] at htoNat
  exact htoNat

end Library.Numbering
