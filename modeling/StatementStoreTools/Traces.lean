import Mathlib.Data.List.Basic

/-!
# Runs of a system that names its steps

A system is a partial function from a state and an event to the next state:
`none` says that the event cannot happen there.  `Run` records the events of a
run, oldest first, so that a property can speak about what had happened by the
time of some event.

* `Run.rule` — an invariant relating the trace to the state it has led to;
* `Run.split` — the state in which an event of the trace took place;
* `run_of_exec` — a list of events that executes is a run.
-/

namespace Traces

variable {σ ε : Type*}

/-- `Run step s τ t`: the events `τ`, in this order, lead from `s` to `t`. -/
inductive Run (step : σ → ε → Option σ) (s : σ) : List ε → σ → Prop
  | nil : Run step s [] s
  | snoc {τ : List ε} {t u : σ} {e : ε}
      (run : Run step s τ t) (last : step t e = some u) :
      Run step s (τ ++ [e]) u

variable {step : σ → ε → Option σ} {s t u : σ} {τ τ' : List ε} {e : ε}

/-- **The invariant rule.** -/
theorem Run.rule (inv : List ε → σ → Prop) (init : inv [] s)
    (one : ∀ τ t e u, inv τ t → step t e = some u → inv (τ ++ [e]) u)
    (h : Run step s τ t) : inv τ t := by
  induction h with
  | nil => exact init
  | snoc _ last ih => exact one _ _ _ _ ih last

theorem Run.cons (first : step s e = some t) (h : Run step t τ u) :
    Run step s (e :: τ) u := by
  induction h with
  | nil => exact Run.snoc Run.nil first
  | snoc _ last ih => exact Run.snoc ih last

/-- Runs compose. -/
theorem Run.append (h : Run step s τ t) (h' : Run step t τ' u) :
    Run step s (τ ++ τ') u := by
  induction h' with
  | nil => simpa using h
  | snoc _ last ih =>
      rw [← List.append_assoc]
      exact Run.snoc ih last

/-- The state in which an event of the trace took place. -/
theorem Run.split (h : Run step s τ u) :
    ∀ {before after : List ε}, τ = before ++ e :: after →
      ∃ t t', Run step s before t ∧ step t e = some t' := by
  induction h with
  | nil => intro before after heq; simp at heq
  | @snoc τ t u f run last ih =>
      intro before after heq
      rcases List.eq_nil_or_concat after with rfl | ⟨init, x, rfl⟩
      · obtain ⟨rfl, hf⟩ := List.append_inj' heq rfl
        obtain rfl := (List.cons.inj hf).1
        exact ⟨t, u, run, last⟩
      · rw [List.concat_eq_append, ← List.cons_append, ← List.append_assoc] at heq
        exact ih (List.append_inj' heq rfl).1

/-- Execute a list of events. -/
def exec (step : σ → ε → Option σ) : σ → List ε → Option σ
  | s, [] => some s
  | s, e :: τ =>
      match step s e with
      | some t => exec step t τ
      | none => none

theorem run_of_exec (h : exec step s τ = some u) : Run step s τ u := by
  induction τ generalizing s with
  | nil =>
      obtain rfl := Option.some.inj h
      exact Run.nil
  | cons e τ ih =>
      cases hstep : step s e with
      | none => simp [exec, hstep] at h
      | some t => exact Run.cons hstep (ih (by simpa [exec, hstep] using h))

end Traces
