import Mathlib.Data.Finmap
import QtradeClient.Library.History

/-!
# Stores that keep the last good answer

Requests are answered with a response or a failure, and a store keeps the converted
response under a key of the request.  `Remembers` ties the store to the history of
answers: each key holds what was last answered under it.
-/

namespace Library.Remembered

open History

variable {ρ κ ν request failure : Type} [DecidableEq κ]

/-- The response of an answer given under `key`. -/
def okUnder (keyOf : request → κ) (key : κ) (entry : request × Except failure ρ) : Option ρ :=
  if keyOf entry.1 = key then entry.2.toOption else none

/-- Every key holds the conversion of the last response given under it. -/
def Remembers (keyOf : request → κ) (convert : ρ → ν) (store : Finmap fun _ : κ => ν)
    (history : List (request × Except failure ρ)) : Prop :=
  ∀ key, store.lookup key = (latest? (okUnder keyOf key) history).map convert

variable {keyOf : request → κ} {convert : ρ → ν} {store : Finmap fun _ : κ => ν}
  {history : List (request × Except failure ρ)}

@[simp] theorem okUnder_self (asked : request) (response : ρ) :
    okUnder keyOf (keyOf asked) (asked, (.ok response : Except failure ρ)) = some response :=
  if_pos rfl

theorem okUnder_of_ne {key : κ} {asked : request} (hkey : keyOf asked ≠ key)
    (answer : Except failure ρ) : okUnder keyOf key (asked, answer) = none :=
  if_neg hkey

@[simp] theorem okUnder_error (key : κ) (asked : request) (reason : failure) :
    okUnder keyOf key (asked, (.error reason : Except failure ρ)) = none :=
  ite_self none

theorem remembers_nil : Remembers keyOf convert ∅ ([] : List (request × Except failure ρ)) :=
  fun key => Finmap.lookup_empty key

/-- A response is stored under its key, over whatever stood there. -/
theorem Remembers.ok (h : Remembers keyOf convert store history) (asked : request)
    (response : ρ) :
    Remembers keyOf convert (store.insert (keyOf asked) (convert response))
      (history ++ [(asked, .ok response)]) := by
  intro key
  by_cases hkey : keyOf asked = key
  · subst hkey
    rw [Finmap.lookup_insert, latest?_concat_some (okUnder_self asked response), Option.map_some]
  · rw [Finmap.lookup_insert_of_ne _ (Ne.symm hkey),
      latest?_concat_none (okUnder_of_ne hkey (.ok response))]
    exact h key

/-- A failure leaves the store as it is. -/
theorem Remembers.error (h : Remembers keyOf convert store history) (asked : request)
    (reason : failure) : Remembers keyOf convert store (history ++ [(asked, .error reason)]) := by
  intro key
  rw [latest?_concat_none (okUnder_error key asked reason)]
  exact h key

end Library.Remembered
