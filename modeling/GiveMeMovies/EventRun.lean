import Mathlib.Data.List.Induction

/-!
# Finite runs of a partial step function

`step s e` is the state after event `e`, or `none` when `e` is not possible in `s`. A run is a
list of events. `AllStates P` asks `P` of every state a run passes through, the first and the
last included, and `AllSteps C` asks `C` of every state of the run together with the event that
leaves it.
-/

namespace EventRun

variable {S E : Type*} (step : S → E → Option S)

def run (s : S) : List E → Option S
  | [] => some s
  | e :: es => (step s e).bind (fun s' => run s' es)

@[simp] theorem run_nil (s : S) : run step s [] = some s := rfl

theorem run_cons (s : S) (e : E) (es : List E) :
    run step s (e :: es) = (step s e).bind (fun s' => run step s' es) := rfl

theorem run_append (s : S) (es fs : List E) :
    run step s (es ++ fs) = (run step s es).bind (fun s' => run step s' fs) := by
  induction es generalizing s with
  | nil => rfl
  | cons e es ih =>
      simp only [List.cons_append, run_cons]
      cases step s e with
      | none => rfl
      | some s' => exact ih s'

theorem run_concat {s s' : S} {es : List E} {e : E} :
    run step s (es ++ [e]) = some s' ↔
      ∃ s₁, run step s es = some s₁ ∧ step s₁ e = some s' := by
  rw [run_append]
  cases run step s es with
  | none => simp
  | some s₁ => simp [run_cons]

def AllStates (P : S → Prop) (s : S) : List E → Prop
  | [] => P s
  | e :: es => P s ∧ ∀ s', step s e = some s' → AllStates P s' es

def AllSteps (C : S → E → Prop) (s : S) : List E → Prop
  | [] => True
  | e :: es => ∀ s', step s e = some s' → C s e ∧ AllSteps C s' es

/-- What an observer sees of a run. -/
def observe {O : Type*} (obs : S → E → O) (s : S) : List E → List O
  | [] => []
  | e :: es => match step s e with
    | some s' => obs s e :: observe obs s' es
    | none => []

theorem observe_concat {O : Type*} {obs : S → E → O} {s s₁ s' : S} {es : List E} {e : E}
    (hrun : run step s es = some s₁) (hstep : step s₁ e = some s') :
    observe step obs s (es ++ [e]) = observe step obs s es ++ [obs s₁ e] := by
  induction es generalizing s with
  | nil =>
      cases hrun
      simp [observe, hstep]
  | cons e₀ es ih =>
      obtain ⟨s₂, hs₂, hrun⟩ := Option.bind_eq_some_iff.mp hrun
      simp only [List.cons_append, observe, hs₂, ih hrun]

variable {step}

/-- What every step preserves holds at the end of every run. -/
theorem run_invariant {I : S → Prop} (hstep : ∀ s e s', I s → step s e = some s' → I s')
    {s s' : S} {es : List E} (hs : I s) (hrun : run step s es = some s') : I s' := by
  induction es generalizing s with
  | nil => cases hrun; exact hs
  | cons e es ih =>
      obtain ⟨s₁, hs₁, hrun⟩ := Option.bind_eq_some_iff.mp hrun
      exact ih (hstep s e s₁ hs hs₁) hrun

/-- An invariant that may mention the events so far. -/
theorem run_trace_invariant {I : List E → S → Prop} {s : S} (h0 : I [] s)
    (hstep : ∀ es e s₁ s₂, run step s es = some s₁ → I es s₁ → step s₁ e = some s₂ →
      I (es ++ [e]) s₂)
    {es : List E} {s' : S} (hrun : run step s es = some s') : I es s' := by
  induction es using List.reverseRecOn generalizing s' with
  | nil => cases hrun; exact h0
  | append_singleton es e ih =>
      obtain ⟨s₁, hs₁, he⟩ := (run_concat step).mp hrun
      exact hstep es e s₁ s' hs₁ (ih hs₁) he

theorem AllStates.head {P : S → Prop} {s : S} {es : List E} (h : AllStates step P s es) :
    P s := by
  cases es with
  | nil => exact h
  | cons e es => exact h.1

theorem AllStates.imp {P Q : S → Prop} (himp : ∀ s, P s → Q s) {s : S} {es : List E}
    (h : AllStates step P s es) : AllStates step Q s es := by
  induction es generalizing s with
  | nil => exact himp s h
  | cons e es ih => exact ⟨himp s h.1, fun s' hs' => ih (h.2 s' hs')⟩

theorem allSteps_cons {C : S → E → Prop} {s s' : S} {e : E} {es : List E}
    (hstep : step s e = some s') :
    AllSteps step C s (e :: es) ↔ C s e ∧ AllSteps step C s' es := by
  refine ⟨fun h => h s' hstep, fun h s₁ hs₁ => ?_⟩
  cases hstep.symm.trans hs₁
  exact h

instance AllSteps.decidable {C : S → E → Prop} [∀ s e, Decidable (C s e)] :
    ∀ (s : S) (es : List E), Decidable (AllSteps step C s es)
  | _, [] => isTrue trivial
  | s, e :: es => match h : step s e with
    | none => isTrue fun s' hs' => by
        rw [h] at hs'
        cases hs'
    | some s' =>
        have := AllSteps.decidable (C := C) s' es
        decidable_of_iff (C s e ∧ AllSteps step C s' es) (allSteps_cons h).symm

/-- A property that every admitted step preserves holds throughout a run of admitted steps. -/
theorem allStates_of_allSteps {I P : S → Prop} {C : S → E → Prop}
    (hI : ∀ s e s', I s → step s e = some s' → I s')
    (hP : ∀ s e s', I s → P s → step s e = some s' → C s e → P s')
    {s : S} {es : List E} (hs : I s) (hp : P s) (h : AllSteps step C s es) :
    AllStates step P s es := by
  induction es generalizing s with
  | nil => exact hp
  | cons e es ih =>
      refine ⟨hp, fun s' hs' => ?_⟩
      obtain ⟨hc, ht⟩ := h s' hs'
      exact ih (hI s e s' hs hs') (hP s e s' hs hp hs' hc) ht

/-- When a step keeps `P` exactly if `C` admits it, a run keeps `P` in every state exactly if
`C` admits every step. -/
theorem allStates_iff_allSteps {I P : S → Prop} {C : S → E → Prop}
    (hI : ∀ s e s', I s → step s e = some s' → I s')
    (hP : ∀ s e s', I s → P s → step s e = some s' → (P s' ↔ C s e))
    {s : S} {es : List E} (hs : I s) (hp : P s) :
    AllStates step P s es ↔ AllSteps step C s es := by
  refine ⟨fun h => ?_, allStates_of_allSteps hI (fun s e s' hs hp he => (hP s e s' hs hp he).mpr)
    hs hp⟩
  induction es generalizing s with
  | nil => trivial
  | cons e es ih =>
      intro s' hs'
      have hp' : P s' := (h.2 s' hs').head
      exact ⟨(hP s e s' hs hp hs').mp hp', ih (hI s e s' hs hs') hp' (h.2 s' hs')⟩

/-- Conditions that agree along the run admit the same runs. -/
theorem allSteps_congr {I : S → Prop} {C D : S → E → Prop}
    (hI : ∀ s e s', I s → step s e = some s' → I s')
    (hC : ∀ s e s', I s → step s e = some s' → (C s e ↔ D s e)) {s : S} {es : List E} (hs : I s) :
    AllSteps step C s es ↔ AllSteps step D s es := by
  induction es generalizing s with
  | nil => exact Iff.rfl
  | cons e es ih =>
      refine forall_congr' fun s' => forall_congr' fun hs' => ?_
      exact and_congr (hC s e s' hs hs') (ih (hI s e s' hs hs'))

/-- When an admitted step keeps the run good, any other step makes it bad, and bad stays bad,
the end of a run tells whether `C` admitted every step. -/
theorem run_good_or_bad {Good Bad : S → Prop} {C : S → E → Prop}
    (hgood : ∀ s e s', Good s → step s e = some s' → C s e → Good s')
    (hbad : ∀ s e s', Good s → step s e = some s' → ¬ C s e → Bad s')
    (hstay : ∀ s e s', Bad s → step s e = some s' → Bad s')
    {s s' : S} {es : List E} (hs : Good s) (hrun : run step s es = some s') :
    (Good s' ∧ AllSteps step C s es) ∨ (Bad s' ∧ ¬ AllSteps step C s es) := by
  induction es generalizing s with
  | nil => cases hrun; exact Or.inl ⟨hs, trivial⟩
  | cons e es ih =>
      obtain ⟨s₁, hs₁, hrun⟩ := Option.bind_eq_some_iff.mp hrun
      have hsteps := @allSteps_cons S E step C s s₁ e es hs₁
      by_cases hc : C s e
      · rw [hsteps]
        rcases ih (hgood s e s₁ hs hs₁ hc) hrun with ⟨hg, h⟩ | ⟨hb, h⟩
        · exact Or.inl ⟨hg, hc, h⟩
        · exact Or.inr ⟨hb, fun hn => h hn.2⟩
      · refine Or.inr ⟨?_, fun h => hc (hsteps.mp h).1⟩
        exact run_invariant hstay (hbad s e s₁ hs hs₁ hc) hrun

theorem AllStates.last {P : S → Prop} {s s' : S} {es : List E} (h : AllStates step P s es)
    (hrun : run step s es = some s') : P s' := by
  induction es generalizing s with
  | nil => cases hrun; exact h
  | cons e es ih =>
      obtain ⟨s₁, hs₁, hrun⟩ := Option.bind_eq_some_iff.mp hrun
      exact ih (h.2 s₁ hs₁) hrun

end EventRun
