import QtradeClient.Library.Runs

/-!
# Runs that differ only where an observer does not look

An observer sees some events of a system, what these put out, and a view of the state.
Two runs that show it the same events show it the same outputs and the same view at
the end, if hidden events leave the view alone and visible events depend on nothing
but the view.  A law may restrict the steps for which the latter is known.
-/

namespace Library.Unwinding

open Runs

variable {σ ε ν ω : Type*}

/-- What the visible events of a run put out, in order. -/
def outputs (next : σ → ε → σ) (visible : ε → Bool) (output : σ → ε → ω) (s : σ) :
    List ε → List ω
  | [] => []
  | e :: es =>
      if visible e then output s e :: outputs next visible output (next s e) es
      else outputs next visible output (next s e) es

/-- The local conditions, for steps that obey the law `ok`. -/
structure Unwinds (next : σ → ε → σ) (ok : σ → ε → Prop) (visible : ε → Bool)
    (output : σ → ε → ω) (view : σ → ν) : Prop where
  hidden : ∀ {s e}, visible e = false → view (next s e) = view s
  follows : ∀ {s t e}, visible e = true → ok s e → ok t e → view s = view t →
    view (next s e) = view (next t e)
  puts : ∀ {s t e}, visible e = true → ok s e → ok t e → view s = view t →
    output s e = output t e

section Outputs

variable {next : σ → ε → σ} {visible : ε → Bool} {output : σ → ε → ω}

theorem outputs_cons_visible {e : ε} (he : visible e = true) (s : σ) (es : List ε) :
    outputs next visible output s (e :: es) =
      output s e :: outputs next visible output (next s e) es := by
  rw [outputs, if_pos he]

theorem outputs_cons_hidden {e : ε} (he : visible e = false) (s : σ) (es : List ε) :
    outputs next visible output s (e :: es) = outputs next visible output (next s e) es := by
  rw [outputs, if_neg (Bool.eq_false_iff.mp he)]

theorem outputs_append (s : σ) (es fs : List ε) :
    outputs next visible output s (es ++ fs) =
      outputs next visible output s es ++
        outputs next visible output (es.foldl next s) fs := by
  induction es generalizing s with
  | nil => rfl
  | cons e es ih =>
      cases he : visible e with
      | true =>
          rw [List.cons_append, outputs_cons_visible he, outputs_cons_visible he, ih]
          rfl
      | false =>
          rw [List.cons_append, outputs_cons_hidden he, outputs_cons_hidden he, ih]
          rfl

end Outputs

namespace Unwinds

variable {next : σ → ε → σ} {ok : σ → ε → Prop} {visible : ε → Bool} {output : σ → ε → ω}
  {view : σ → ν}

/-- A run of hidden events puts out nothing and leaves the view. -/
theorem hidden_run (h : Unwinds next ok visible output view) (s : σ) {es : List ε}
    (hes : ∀ e ∈ es, visible e = false) :
    outputs next visible output s es = [] ∧ view (es.foldl next s) = view s := by
  induction es generalizing s with
  | nil => exact ⟨rfl, rfl⟩
  | cons e es ih =>
      have he : visible e = false := hes e List.mem_cons_self
      obtain ⟨houtputs, hview⟩ := ih (next s e) fun f hf => hes f (List.mem_cons_of_mem e hf)
      constructor
      · rw [outputs_cons_hidden he]
        exact houtputs
      · exact hview.trans (h.hidden he)

/-- Two lawful runs with the same visible events look the same. -/
theorem indistinguishable (h : Unwinds next ok visible output view) {s t : σ}
    (hview : view s = view t) {es fs : List ε} (hes : Along (total next) ok s es)
    (hfs : Along (total next) ok t fs) (hsame : es.filter visible = fs.filter visible) :
    outputs next visible output s es = outputs next visible output t fs ∧
      view (es.foldl next s) = view (fs.foldl next t) := by
  induction es generalizing s t fs with
  | nil =>
      have hhidden : ∀ f ∈ fs, visible f = false := by
        intro f hf
        exact Bool.eq_false_iff.mpr (List.filter_eq_nil_iff.mp hsame.symm f hf)
      obtain ⟨houtputs, hlast⟩ := h.hidden_run t hhidden
      exact ⟨houtputs.symm, hview.trans hlast.symm⟩
  | cons e es ih =>
      rw [along_total_cons] at hes
      cases he : visible e with
      | false =>
          rw [List.filter_cons_of_neg (Bool.eq_false_iff.mp he)] at hsame
          rw [outputs_cons_hidden he]
          exact ih ((h.hidden he).trans hview) hes.2 hfs hsame
      | true =>
          -- the other run does something hidden first, and then the same event
          rw [List.filter_cons_of_pos he, eq_comm, List.filter_eq_cons_iff] at hsame
          obtain ⟨before, after, rfl, hbefore, -, hafter⟩ := hsame
          have hhidden : ∀ f ∈ before, visible f = false :=
            fun f hf => Bool.eq_false_iff.mpr (hbefore f hf)
          obtain ⟨hsilent, hkept⟩ := h.hidden_run t hhidden
          have hmet : view s = view (before.foldl next t) := hview.trans hkept.symm
          obtain ⟨-, hrest⟩ := along_append.mp hfs
          have hlaw := along_total_cons.mp (hrest _ (exec_total t before))
          obtain ⟨houtputs, hlast⟩ :=
            ih (h.follows he hes.1 hlaw.1 hmet) hes.2 hlaw.2 hafter.symm
          constructor
          · rw [outputs_cons_visible he, outputs_append, hsilent, List.nil_append,
              outputs_cons_visible he, houtputs, h.puts he hes.1 hlaw.1 hmet]
          · rw [List.foldl_append]
            exact hlast

end Unwinds

end Library.Unwinding
