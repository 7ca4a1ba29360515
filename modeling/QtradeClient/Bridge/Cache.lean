import Mathlib.Data.Finmap
import QtradeClient.Sdk.Types

/-!
# Falling back to a cache

The account bridge and the account-risk bridge end a call that got no response in the
same way: with the copy kept under the key of the account, or else with an error.
-/

namespace QtradeClient.Bridge

abbrev Cache (ν : Type) := Finmap fun _ : String => ν

/-- The end of a call without a response; `result` is what the call has set so far. -/
def fromCache {ν : Type} (cache : Cache ν) (key unavailable : String) (result : Result ν) :
    Result ν :=
  match cache.lookup key with
  | none =>
      if result.errorCode = .kSuccess then
        { result with errorCode := .kNotInitialized, errorMessage := unavailable }
      else result
  | some value => .ok value

section FromCache

variable {ν : Type} {cache : Cache ν} {key : String}

theorem fromCache_found {value : ν} (hfound : cache.lookup key = some value)
    (unavailable : String) (result : Result ν) :
    fromCache cache key unavailable result = .ok value := by
  unfold fromCache
  rw [hfound]

/-- An empty cache never turns into a success. -/
theorem fromCache_missing (hmissing : cache.lookup key = none) (unavailable : String)
    (result : Result ν) :
    (fromCache cache key unavailable result).errorCode ≠ .kSuccess ∧
      (fromCache cache key unavailable result).data = result.data := by
  unfold fromCache
  rw [hmissing]
  by_cases hsuccess : result.errorCode = .kSuccess
  · simp [hsuccess]
  · simp [hsuccess]

/-- A success is the copy under the key. -/
theorem fromCache_success {unavailable : String} {result : Result ν}
    (hsuccess : (fromCache cache key unavailable result).errorCode = .kSuccess) :
    ∃ value, (fromCache cache key unavailable result).data = some value ∧
      cache.lookup key = some value := by
  cases hlookup : cache.lookup key with
  | none => exact absurd hsuccess (fromCache_missing hlookup unavailable result).1
  | some value => exact ⟨value, by rw [fromCache_found hlookup, Result.ok_data], rfl⟩

/-- What is under a name after a copy is put in. -/
theorem lookup_insert_cases {name : String} {value found : ν}
    (hlookup : (cache.insert key value).lookup name = some found) :
    (name = key ∧ found = value) ∨ cache.lookup name = some found := by
  by_cases hname : name = key
  · subst hname
    rw [Finmap.lookup_insert] at hlookup
    exact .inl ⟨rfl, (Option.some.inj hlookup).symm⟩
  · rw [Finmap.lookup_insert_of_ne _ hname] at hlookup
    exact .inr hlookup

/-- Only the entry under the key matters. -/
theorem fromCache_congr {other : Cache ν} (hsame : cache.lookup key = other.lookup key)
    (unavailable : String) (result : Result ν) :
    fromCache cache key unavailable result = fromCache other key unavailable result := by
  unfold fromCache
  rw [hsame]

end FromCache

end QtradeClient.Bridge
