import Mathlib.Data.Option.Basic
import Mathlib.Order.WellFounded

/-!
# Runs of partial step functions

A step function answers `none` for a label that is not enabled.  `exec` runs a
word of labels, and `Along` says that a condition holds at every step the run
takes, in the state before that step.  Safety of whole runs is reduced to one
step by `exec_invariant`, and a law about every step of a run is replaced by an
equivalent one by `along_congr`.
-/

namespace Library.Runs

variable {σ ε : Type*}

/-- Run a word of labels; a label that is not enabled ends the run with `none`. -/
def exec (step : σ → ε → Option σ) (s : σ) : List ε → Option σ
  | [] => some s
  | e :: es => (step s e).bind fun t => exec step t es

/-- The condition `ok` holds at every step of the run, before the step is taken. -/
def Along (step : σ → ε → Option σ) (ok : σ → ε → Prop) (s : σ) : List ε → Prop
  | [] => True
  | e :: es => ok s e ∧ ∀ t, step s e = some t → Along step ok t es

/-- A total step function seen as a partial one. -/
def total (next : σ → ε → σ) (s : σ) (e : ε) : Option σ := some (next s e)

section Partial

variable {step : σ → ε → Option σ} {ok : σ → ε → Prop}

@[simp]
theorem exec_nil (s : σ) : exec step s [] = some s := rfl

theorem exec_cons (s : σ) (e : ε) (es : List ε) :
    exec step s (e :: es) = (step s e).bind fun t => exec step t es := rfl

theorem exec_cons_of_step {s t : σ} {e : ε} (hstep : step s e = some t) (es : List ε) :
    exec step s (e :: es) = exec step t es := by
  rw [exec_cons, hstep, Option.bind_some]

theorem exec_cons_eq_some {s u : σ} {e : ε} {es : List ε}
    (hrun : exec step s (e :: es) = some u) :
    ∃ t, step s e = some t ∧ exec step t es = some u :=
  Option.bind_eq_some_iff.mp hrun

theorem exec_append (s : σ) (es fs : List ε) :
    exec step s (es ++ fs) = (exec step s es).bind fun t => exec step t fs := by
  induction es generalizing s with
  | nil => rfl
  | cons e es ih =>
      rw [List.cons_append, exec_cons, exec_cons]
      cases step s e with
      | none => rfl
      | some t => exact ih t

/-- Labels that are made of others run as these. -/
theorem exec_map {η : Type*} (f : η → ε) (s : σ) (es : List η) :
    exec step s (es.map f) = exec (fun t e => step t (f e)) s es := by
  induction es generalizing s with
  | nil => rfl
  | cons e es ih =>
      rw [List.map_cons, exec_cons, exec_cons]
      exact Option.bind_congr fun t _ => ih t

/-- Labels that leave the state alone are a run that does. -/
theorem exec_fixed {s : σ} {es : List ε} (hes : ∀ e ∈ es, step s e = some s) :
    exec step s es = some s := by
  induction es with
  | nil => rfl
  | cons e es ih =>
      obtain ⟨hfirst, hrest⟩ := List.forall_mem_cons.mp hes
      rw [exec_cons_of_step hfirst, ih hrest]

theorem exec_singleton (s : σ) (e : ε) : exec step s [e] = step s e := by
  rw [exec_cons]
  cases step s e <;> rfl

theorem along_cons {s : σ} {e : ε} {es : List ε} :
    Along step ok s (e :: es) ↔
      ok s e ∧ ∀ t, step s e = some t → Along step ok t es := Iff.rfl

/-- A condition on a run is one on its first part and one on what follows it. -/
theorem along_append {s : σ} {es fs : List ε} :
    Along step ok s (es ++ fs) ↔
      Along step ok s es ∧ ∀ t, exec step s es = some t → Along step ok t fs := by
  induction es generalizing s with
  | nil =>
      constructor
      · intro h
        refine ⟨trivial, fun t ht => ?_⟩
        obtain rfl : s = t := Option.some.inj ht
        exact h
      · rintro ⟨-, h⟩
        exact h s rfl
  | cons e es ih =>
      rw [List.cons_append, along_cons, along_cons]
      constructor
      · rintro ⟨hok, hrest⟩
        refine ⟨⟨hok, fun t ht => (ih.mp (hrest t ht)).1⟩, fun u hu => ?_⟩
        obtain ⟨t, ht, hrun⟩ := exec_cons_eq_some hu
        exact (ih.mp (hrest t ht)).2 u hrun
      · rintro ⟨⟨hok, hfirst⟩, hlast⟩
        refine ⟨hok, fun t ht => ih.mpr ⟨hfirst t ht, fun u hu => hlast u ?_⟩⟩
        rw [exec_cons_of_step ht]
        exact hu

/-- A condition that can be decided step by step can be decided along a run. -/
instance decidableAlong [∀ s e, Decidable (ok s e)] (s : σ) :
    (es : List ε) → Decidable (Along step ok s es)
  | [] => isTrue trivial
  | e :: es =>
      match hstep : step s e with
      | none => decidable_of_iff (ok s e)
          ⟨fun hok => ⟨hok, fun _ ht => nomatch hstep.symm.trans ht⟩, And.left⟩
      | some t =>
          have : Decidable (Along step ok t es) := decidableAlong t es
          decidable_of_iff (ok s e ∧ Along step ok t es)
            (and_congr_right fun _ =>
              ⟨fun hrest _ hu => Option.some.inj (hstep.symm.trans hu) ▸ hrest,
                fun hall => hall t hstep⟩)

theorem Along.and {ok' : σ → ε → Prop} {s : σ} {es : List ε}
    (h : Along step ok s es) (h' : Along step ok' s es) :
    Along step (fun s e => ok s e ∧ ok' s e) s es := by
  induction es generalizing s with
  | nil => trivial
  | cons e es ih =>
      exact ⟨⟨h.1, h'.1⟩, fun t ht => ih (h.2 t ht) (h'.2 t ht)⟩

/-- What every step preserves, a run preserves. -/
theorem exec_invariant {Inv : σ → Prop}
    (preserved : ∀ {s e t}, ok s e → Inv s → step s e = some t → Inv t)
    {s t : σ} {es : List ε} (halong : Along step ok s es)
    (hrun : exec step s es = some t) (hinv : Inv s) : Inv t := by
  induction es generalizing s with
  | nil =>
      obtain rfl : s = t := Option.some.inj hrun
      exact hinv
  | cons e es ih =>
      obtain ⟨u, hstep, hrest⟩ := exec_cons_eq_some hrun
      exact ih (halong.2 u hstep) hrest (preserved halong.1 hinv hstep)

theorem along_trivial (s : σ) (es : List ε) : Along step (fun _ _ => True) s es := by
  induction es generalizing s with
  | nil => trivial
  | cons e es ih => exact ⟨trivial, fun t _ => ih t⟩

/-- A condition on every label of a run holds along it. -/
theorem along_labels {law : ε → Prop} {es : List ε} (hes : ∀ e ∈ es, law e) (s : σ) :
    Along step (fun _ e => law e) s es := by
  induction es generalizing s with
  | nil => trivial
  | cons e es ih =>
      obtain ⟨hfirst, hrest⟩ := List.forall_mem_cons.mp hes
      exact ⟨hfirst, fun t _ => ih hrest t⟩

/-- What holds at every step that the labels of a run lead to holds along it. -/
theorem along_of_splits {s : σ} {es : List ε}
    (h : ∀ before e after t, es = before ++ e :: after → exec step s before = some t → ok t e) :
    Along step ok s es := by
  induction es generalizing s with
  | nil => trivial
  | cons e es ih =>
      refine ⟨h [] e es s rfl rfl, fun t ht => ih fun before later after u hsplit hrun => ?_⟩
      refine h (e :: before) later after u (by rw [hsplit]; rfl) ?_
      rw [exec_cons_of_step ht]
      exact hrun

/-- The same when every step that is taken preserves it. -/
theorem exec_preserves {Inv : σ → Prop}
    (preserved : ∀ {s e t}, Inv s → step s e = some t → Inv t)
    {s t : σ} {es : List ε} (hrun : exec step s es = some t) (hinv : Inv s) : Inv t :=
  exec_invariant (fun _ => preserved) (along_trivial s es) hrun hinv

/-- A relation that every step of one system keeps, by steps that another system can take,
holds between the ends of a run and of some run of the other system. -/
theorem exec_simulates {τ η : Type*} {step' : τ → η → Option τ} {related : σ → τ → Prop}
    {Inv : σ → Prop}
    (simulates : ∀ {s t e s'}, Inv s → related s t → step s e = some s' →
      Inv s' ∧ ∃ es' t', exec step' t es' = some t' ∧ related s' t')
    {s s' : σ} {t : τ} {es : List ε} (hinv : Inv s) (hrelated : related s t)
    (hrun : exec step s es = some s') :
    ∃ es' t', exec step' t es' = some t' ∧ related s' t' := by
  induction es generalizing s t with
  | nil =>
      obtain rfl : s = s' := Option.some.inj hrun
      exact ⟨[], t, rfl, hrelated⟩
  | cons e es ih =>
      obtain ⟨middle, hstep, hrest⟩ := exec_cons_eq_some hrun
      obtain ⟨hmiddle, first, between, hfirst, hbetween⟩ := simulates hinv hrelated hstep
      obtain ⟨rest, t', hlast, hfinal⟩ := ih hmiddle hbetween hrest
      refine ⟨first ++ rest, t', ?_, hfinal⟩
      rw [exec_append, hfirst]
      exact hlast

/-- If in every state where something is left to do some helpful step brings it closer to
its end, then a run of helpful steps ends it. -/
theorem exists_helpful {ρ : Type*} [Preorder ρ] [WellFoundedLT ρ] {Inv done : σ → Prop}
    {helpful : ε → Prop} (rank : σ → ρ)
    (helps : ∀ s, Inv s → ¬ done s →
      ∃ e t, helpful e ∧ step s e = some t ∧ Inv t ∧ rank t < rank s) (s : σ) (hinv : Inv s) :
    ∃ es t, (∀ e ∈ es, helpful e) ∧ exec step s es = some t ∧ Inv t ∧ done t := by
  induction hrank : rank s using WellFoundedLT.induction generalizing s with
  | ind r ih =>
      by_cases hdone : done s
      · exact ⟨[], s, List.forall_mem_nil _, rfl, hinv, hdone⟩
      · obtain ⟨e, t, hhelps, hstep, hinvNext, hlower⟩ := helps s hinv hdone
        obtain ⟨es, u, hall, hrun, hrest⟩ := ih (rank t) (hrank ▸ hlower) t hinvNext rfl
        exact ⟨e :: es, u, List.forall_mem_cons.mpr ⟨hhelps, hall⟩,
          (exec_cons_of_step hstep es).trans hrun, hrest⟩

/-- A preorder on states that contains every step relates the ends of a run. -/
theorem exec_related {Inv : σ → Prop} (rel : σ → σ → Prop) (refl : ∀ s, rel s s)
    (trans : ∀ {s t u}, rel s t → rel t u → rel s u)
    (preserved : ∀ {s e t}, ok s e → Inv s → step s e = some t → Inv t ∧ rel s t)
    {s t : σ} {es : List ε} (halong : Along step ok s es)
    (hrun : exec step s es = some t) (hinv : Inv s) : rel s t := by
  induction es generalizing s with
  | nil =>
      obtain rfl : s = t := Option.some.inj hrun
      exact refl s
  | cons e es ih =>
      obtain ⟨u, hstep, hrest⟩ := exec_cons_eq_some hrun
      obtain ⟨hinvNext, hnext⟩ := preserved halong.1 hinv hstep
      exact trans hnext (ih (halong.2 u hstep) hrest hinvNext)

/-- Two laws that agree under an invariant agree on whole runs, if the invariant is
preserved by the steps that obey the law. -/
theorem along_congr {Inv : σ → Prop} {ok' : σ → ε → Prop}
    (preserved : ∀ {s e t}, Inv s → ok s e → step s e = some t → Inv t)
    (pointwise : ∀ {s e}, Inv s → (ok s e ↔ ok' s e))
    {s : σ} (hinv : Inv s) (es : List ε) :
    Along step ok s es ↔ Along step ok' s es := by
  induction es generalizing s with
  | nil => exact Iff.rfl
  | cons e es ih =>
      rw [along_cons, along_cons, ← pointwise hinv]
      exact and_congr_right fun hok =>
        forall₂_congr fun t ht => ih (preserved hinv hok ht)

/-- Two laws that agree at every step agree on every run. -/
theorem along_iff {ok' : σ → ε → Prop} (pointwise : ∀ s e, ok s e ↔ ok' s e)
    {s : σ} (es : List ε) : Along step ok s es ↔ Along step ok' s es := by
  induction es generalizing s with
  | nil => exact Iff.rfl
  | cons e es ih =>
      rw [along_cons, along_cons, pointwise]
      exact and_congr_right fun _ => forall₂_congr fun _ _ => ih

end Partial

section Total

variable {next : σ → ε → σ} {ok : σ → ε → Prop}

@[simp]
theorem exec_total (s : σ) (es : List ε) :
    exec (total next) s es = some (es.foldl next s) := by
  induction es generalizing s with
  | nil => rfl
  | cons e es ih => exact ih (next s e)

@[simp]
theorem along_total_cons {s : σ} {e : ε} {es : List ε} :
    Along (total next) ok s (e :: es) ↔ ok s e ∧ Along (total next) ok (next s e) es := by
  rw [along_cons]
  refine and_congr_right fun _ => ⟨fun h => h _ rfl, fun h t ht => ?_⟩
  obtain rfl : next s e = t := Option.some.inj ht
  exact h

/-- A condition on the labels alone is one on every label of the run. -/
theorem along_total_labels {law : ε → Prop} (s : σ) (es : List ε) :
    Along (total next) (fun _ e => law e) s es ↔ ∀ e ∈ es, law e := by
  induction es generalizing s with
  | nil => exact iff_of_true trivial (List.forall_mem_nil _)
  | cons e es ih => rw [along_total_cons, List.forall_mem_cons, ih]

/-- `along_congr` for a system that takes every step. -/
theorem along_total_congr {Inv : σ → Prop} {ok' : σ → ε → Prop}
    (preserved : ∀ {s e}, Inv s → ok s e → Inv (next s e))
    (pointwise : ∀ {s e}, Inv s → (ok s e ↔ ok' s e))
    {s : σ} (hinv : Inv s) (es : List ε) :
    Along (total next) ok s es ↔ Along (total next) ok' s es := by
  have hstep : ∀ {s e t}, Inv s → ok s e → total next s e = some t → Inv t := by
    intro s e t hs hok hnext
    obtain rfl : next s e = t := Option.some.inj hnext
    exact preserved hs hok
  exact along_congr hstep pointwise hinv es

end Total

end Library.Runs
