import QtradeClient.Library.Runs
import QtradeClient.Library.Traced

/-!
# Computations that keep to a protocol

A protocol is a partial step function over acts: it says which act may come when.  A
computation keeps to it if the protocol can take its acts in order, and what is known
afterwards depends on how it ends.  There is one rule for each way to make a computation,
and for each a condition on which it succeeds.
-/

namespace Library.Traced

variable {σ δ δ' ε α β : Type}

/-- The same computation with its acts seen as other ones. -/
def mapActs (f : δ → δ') (computation : Traced δ ε α) : Traced δ' ε α :=
  ⟨computation.acts.map f, computation.outcome⟩

/-- The same computation with some of its acts hidden. -/
def seen (f : δ → Option δ') (computation : Traced δ ε α) : Traced δ' ε α :=
  ⟨computation.acts.filterMap f, computation.outcome⟩

theorem seen_bind (f : δ → Option δ') (first : Traced δ ε α) (next : α → Traced δ ε β) :
    (first >>= next).seen f = first.seen f >>= fun value => (next value).seen f := by
  obtain ⟨acts, outcome⟩ := first
  cases outcome with
  | error reason => rfl
  | ok value =>
      have hacts : (acts ++ (next value).acts).filterMap f =
          acts.filterMap f ++ (next value).acts.filterMap f := List.filterMap_append
      exact congrArg (Traced.mk · (next value).outcome) hacts

/-- Acts that are seen as the ones they were made of. -/
theorem seen_mapActs {f : δ' → Option δ} {g : δ → δ'} (hinverse : ∀ act, f (g act) = some act)
    (computation : Traced δ ε α) : (computation.mapActs g).seen f = computation := by
  obtain ⟨acts, outcome⟩ := computation
  have hacts : (acts.map g).filterMap f = acts := by
    rw [List.filterMap_map, (funext hinverse : f ∘ g = some), List.filterMap_some]
  rw [mapActs, seen, hacts]

theorem tell_nil_bind (next : Unit → Traced δ ε β) : (tell [] >>= next) = next () := rfl

/-! ## When a computation succeeds -/

theorem pure_succeeds {value value' : α} :
    (pure value : Traced δ ε α).outcome = .ok value' ↔ value = value' :=
  ⟨Except.ok.inj, congrArg Except.ok⟩

theorem attempt_succeeds {acts : List δ} {passed : Bool} {reason : ε} {value : Unit} :
    (attempt acts passed reason : Traced δ ε Unit).outcome = .ok value ↔ passed = true := by
  cases passed with
  | true => exact iff_of_true rfl rfl
  | false => exact iff_of_false nofun Bool.false_ne_true

/-- A sequence succeeds if its parts do. -/
theorem bind_succeeds {first : Traced δ ε α} {next : α → Traced δ ε β} {value : β} :
    (first >>= next).outcome = .ok value ↔
      ∃ middle, first.outcome = .ok middle ∧ (next middle).outcome = .ok value := by
  obtain ⟨acts, outcome⟩ := first
  cases outcome with
  | error reason =>
      refine iff_of_false nofun ?_
      rintro ⟨middle, hmiddle, -⟩
      cases hmiddle
  | ok middle =>
      constructor
      · exact fun hnext => ⟨middle, rfl, hnext⟩
      · rintro ⟨_, ⟨⟩, hnext⟩
        exact hnext

/-- A sequence whose first part has no value to hand on. -/
theorem unit_bind_succeeds {first : Traced δ ε Unit} {next : Traced δ ε β} {value : β} :
    (first >>= fun _ => next).outcome = .ok value ↔
      first.outcome = .ok () ∧ next.outcome = .ok value := by
  rw [bind_succeeds]
  constructor
  · rintro ⟨_, hfirst, hnext⟩
    exact ⟨hfirst, hnext⟩
  · exact fun hboth => ⟨(), hboth⟩

/-! ## Keeping to a protocol -/

/-- What holds at the end of a computation, by how it ends. -/
def Ends (post : α → σ → Prop) (failed : ε → σ → Prop) (after : σ) : Except ε α → Prop
  | .ok value => post value after
  | .error reason => failed reason after

/-- From this state the protocol takes the acts of the computation. -/
def Keeps (step : σ → δ → Option σ) (before : σ) (computation : Traced δ ε α)
    (post : α → σ → Prop) (failed : ε → σ → Prop) : Prop :=
  ∃ after, Runs.exec step before computation.acts = some after ∧
    Ends post failed after computation.outcome

section Rules

variable {step : σ → δ → Option σ} {before after : σ} {post : α → σ → Prop}
  {failed : ε → σ → Prop}

theorem keeps_pure {value : α} (hpost : post value before) :
    Keeps step before (pure value : Traced δ ε α) post failed :=
  ⟨before, rfl, hpost⟩

theorem keeps_fail {reason : ε} (hfailed : failed reason before) :
    Keeps step before (fail reason : Traced δ ε α) post failed :=
  ⟨before, rfl, hfailed⟩

theorem keeps_tell {acts : List δ} {post : Unit → σ → Prop}
    (hacts : Runs.exec step before acts = some after) (hpost : post () after) :
    Keeps step before (tell acts : Traced δ ε Unit) post failed :=
  ⟨after, hacts, hpost⟩

theorem keeps_attempt {acts : List δ} {passed : Bool} {reason : ε} {post : Unit → σ → Prop}
    (hacts : Runs.exec step before acts = some after) (hpost : passed = true → post () after)
    (hfailed : passed = false → failed reason after) :
    Keeps step before (attempt acts passed reason : Traced δ ε Unit) post failed := by
  refine ⟨after, hacts, ?_⟩
  cases passed with
  | true => exact hpost rfl
  | false => exact hfailed rfl

/-- A sequence: the second computation starts where the first one succeeds. -/
theorem Keeps.bind {first : Traced δ ε α} {next : α → Traced δ ε β} {middle : α → σ → Prop}
    {post : β → σ → Prop} (hfirst : Keeps step before first middle failed)
    (hnext : ∀ value between, middle value between →
      Keeps step between (next value) post failed) :
    Keeps step before (first >>= next) post failed := by
  obtain ⟨acts, outcome⟩ := first
  obtain ⟨between, hacts, hends⟩ := hfirst
  cases outcome with
  | error reason => exact ⟨between, hacts, hends⟩
  | ok value =>
      obtain ⟨after, hrest, hafter⟩ := hnext value between hends
      refine ⟨after, ?_, hafter⟩
      change Runs.exec step before (acts ++ (next value).acts) = some after
      rw [Runs.exec_append, show Runs.exec step before acts = some between from hacts]
      exact hrest

/-- What is known at the end may be weakened. -/
theorem Keeps.imp {computation : Traced δ ε α} {post' : α → σ → Prop}
    (h : Keeps step before computation post failed)
    (himp : ∀ value state, post value state → post' value state) :
    Keeps step before computation post' failed := by
  obtain ⟨acts, outcome⟩ := computation
  obtain ⟨after, hacts, hends⟩ := h
  refine ⟨after, hacts, ?_⟩
  cases outcome with
  | ok value => exact himp value after hends
  | error reason => exact hends

/-- Acts that are seen as others keep to the protocol of these. -/
theorem keeps_mapActs {step : σ → δ' → Option σ} {f : δ → δ'} {computation : Traced δ ε α}
    (hkeeps : Keeps (fun state act => step state (f act)) before computation post failed) :
    Keeps step before (computation.mapActs f) post failed := by
  obtain ⟨after, hacts, hends⟩ := hkeeps
  exact ⟨after, (Runs.exec_map f before computation.acts).trans hacts, hends⟩

end Rules

end Library.Traced
