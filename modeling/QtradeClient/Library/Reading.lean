import Mathlib.Logic.Basic

/-!
# Readers that may refuse or raise

A reader of untrusted input ends with a value, refuses the input, or raises.  `Reads` says
of a reader on which condition it does not raise and what it finds then, so that the
content of a composed reader is composed of the contents of its parts; `Reads.bind` does
this for readers in sequence.
-/

namespace Library

inductive Reading (ε α : Type) where
  | found (value : α)
  | refused
  | raised (reason : ε)

namespace Reading

variable {ε α β : Type}

/-- Run one reader after the other, unless the first one ends the reading. -/
def andThen (first : Reading ε α) (next : α → Reading ε β) : Reading ε β :=
  match first with
  | .found value => next value
  | .refused => .refused
  | .raised reason => .raised reason

instance : Monad (Reading ε) where
  pure := .found
  bind := andThen

/-- Refuse unless there is a value. -/
def ofOption : Option α → Reading ε α
  | some value => .found value
  | none => .refused

/-- The reader raises unless `readable` holds, and then ends as `content` says. -/
structure Reads (reader : Reading ε α) (readable : Prop) (content : Option α) : Prop where
  returns : readable → reader = ofOption content
  raises : ¬ readable → ∃ reason, reader = .raised reason

theorem reads_ofOption (content : Option α) :
    Reads (ofOption content : Reading ε α) True content :=
  ⟨fun _ => rfl, fun hnot => absurd trivial hnot⟩

theorem reads_pure (value : α) : Reads (pure value : Reading ε α) True (some value) :=
  ⟨fun _ => rfl, fun hnot => absurd trivial hnot⟩

/-- A check at the end of a reader. -/
theorem reads_unless (refuse : Prop) [Decidable refuse] (value : α) :
    Reads (if refuse then .refused else pure value : Reading ε α) True
      (if refuse then none else some value) := by
  split
  · exact reads_ofOption none
  · exact reads_pure value

namespace Reads

variable {reader : Reading ε α} {readable : Prop} {content : Option α}

theorem congr (h : Reads reader readable content) {readable' : Prop} {content' : Option α}
    (hreadable : readable ↔ readable') (hcontent : content = content') :
    Reads reader readable' content' := by
  rw [← hcontent]
  exact ⟨fun hr => h.returns (hreadable.mpr hr), fun hr => h.raises ((not_congr hreadable).mpr hr)⟩

/-- A sequence raises where its first part does, or where the rest does on the value that
the first part finds. -/
theorem bind (h : Reads reader readable content) {next : α → Reading ε β}
    {readable' : α → Prop} {content' : α → Option β}
    (hnext : ∀ value, Reads (next value) (readable' value) (content' value)) :
    Reads (reader >>= next) (readable ∧ ∀ value, content = some value → readable' value)
      (content.bind content') := by
  constructor
  · rintro ⟨hreadable, hrest⟩
    rw [h.returns hreadable]
    cases content with
    | none => rfl
    | some value => exact (hnext value).returns (hrest value rfl)
  · intro hnot
    by_cases hreadable : readable
    · rw [h.returns hreadable]
      cases content with
      | none => exact absurd ⟨hreadable, nofun⟩ hnot
      | some value =>
          apply (hnext value).raises
          intro hrest
          apply hnot
          refine ⟨hreadable, ?_⟩
          rintro _ ⟨⟩
          exact hrest
    · obtain ⟨reason, hraised⟩ := h.raises hreadable
      rw [hraised]
      exact ⟨reason, rfl⟩

/-- A sequence whose first part always finds something. -/
theorem bind_found {value : α} (h : Reads reader readable (some value))
    {next : α → Reading ε β} {readable' : Prop} {content' : Option β}
    (hnext : Reads (next value) readable' content') :
    Reads (reader >>= next) (readable ∧ readable') content' := by
  constructor
  · rintro ⟨hreadable, hrest⟩
    rw [h.returns hreadable]
    exact hnext.returns hrest
  · intro hnot
    by_cases hreadable : readable
    · rw [h.returns hreadable]
      exact hnext.raises fun hrest => hnot ⟨hreadable, hrest⟩
    · obtain ⟨reason, hraised⟩ := h.raises hreadable
      rw [hraised]
      exact ⟨reason, rfl⟩

/-- The reader does not raise exactly on its condition. -/
theorem readable_iff (h : Reads reader readable content) :
    readable ↔ ∀ reason, reader ≠ .raised reason := by
  constructor
  · intro hreadable reason hraised
    rw [h.returns hreadable] at hraised
    cases content <;> cases hraised
  · intro hnever
    by_cases hreadable : readable
    · exact hreadable
    · obtain ⟨reason, hraised⟩ := h.raises hreadable
      exact absurd hraised (hnever reason)

/-- A value is found if the condition holds and it is the content. -/
theorem found_iff (h : Reads reader readable content) (value : α) :
    reader = .found value ↔ readable ∧ content = some value := by
  by_cases hreadable : readable
  · rw [h.returns hreadable, and_iff_right hreadable]
    cases content with
    | none => exact iff_of_false nofun nofun
    | some found => exact ⟨fun hfound => congrArg some (Reading.found.inj hfound),
        fun hfound => congrArg Reading.found (Option.some.inj hfound)⟩
  · obtain ⟨reason, hraised⟩ := h.raises hreadable
    rw [hraised]
    exact iff_of_false nofun fun hboth => hreadable hboth.1

end Reads

end Reading

end Library
