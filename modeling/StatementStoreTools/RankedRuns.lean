import StatementStoreTools.Traces

/-!
# Moves that are counted down

Some of the moves of a system cost rank and the others give none back.  Then a
run makes at most as many of them as it had rank to begin with
(`CountsDown.run`), and where short of the goal one of them is always possible,
they lead to the goal without the help of the others (`CountsDown.reach`).

`only` leaves out the moves that a predicate does not admit, so that the two
theorems speak about the admitted moves of a system as well.
-/

namespace Traces

variable {σ ε : Type*} {step : σ → ε → Option σ} {s t : σ} {τ : List ε} {e : ε}

/-- In the states `inv`, which no move leaves, the moves `own` cost rank, and the
others at least do not add any. -/
structure CountsDown (step : σ → ε → Option σ) (inv : σ → Prop) (own : ε → Prop)
    (rank : σ → Nat) : Prop where
  keeps : ∀ {s t : σ} {e : ε}, inv s → step s e = some t → inv t
  falls : ∀ {s t : σ} {e : ε}, inv s → step s e = some t → own e → rank t < rank s
  others : ∀ {s t : σ} {e : ε}, inv s → step s e = some t → ¬ own e → rank t ≤ rank s

section CountsDown

variable {inv : σ → Prop} {own : ε → Prop} {rank : σ → Nat}

/-- **A run has only so many of the moves.** -/
theorem CountsDown.run [DecidablePred own] (h : CountsDown step inv own rank) (hs : inv s)
    (hrun : Run step s τ t) : τ.countP (fun e => own e) + rank t ≤ rank s := by
  have hboth : inv t ∧ τ.countP (fun e => own e) + rank t ≤ rank s := by
    induction hrun with
    | nil => exact ⟨hs, by simp⟩
    | @snoc τ t u e _ last ih =>
        obtain ⟨hinv, hle⟩ := ih
        refine ⟨h.keeps hinv last, ?_⟩
        rw [List.countP_append, List.countP_singleton]
        by_cases hown : own e
        · have hfall := h.falls hinv last hown
          rw [if_pos (decide_eq_true hown)]
          omega
        · have hkeep := h.others hinv last hown
          rw [if_neg (by simpa using hown)]
          omega
  exact hboth.2

/-- **The moves are enough.**  Where one of them is always possible short of
the goal, some of them lead there. -/
theorem CountsDown.reach (h : CountsDown step inv own rank) (goal : σ → Prop)
    (possible : ∀ {s}, inv s → ¬ goal s → ∃ e t, own e ∧ step s e = some t)
    (hs : inv s) : ∃ τ t, Run step s τ t ∧ (∀ e ∈ τ, own e) ∧ inv t ∧ goal t := by
  induction hr : rank s using Nat.strongRecOn generalizing s with
  | ind k ih =>
      by_cases hgoal : goal s
      · exact ⟨[], s, Run.nil, by simp, hs, hgoal⟩
      obtain ⟨e, t, hown, hstep⟩ := possible hs hgoal
      have hlt := h.falls hs hstep hown
      obtain ⟨τ, u, hrun, hall, hinv, hu⟩ := ih (rank t) (by omega) (h.keeps hs hstep) rfl
      refine ⟨e :: τ, u, Run.cons hstep hrun, ?_, hinv, hu⟩
      intro e' he'
      rcases List.mem_cons.mp he' with rfl | hmem
      · exact hown
      · exact hall e' hmem

end CountsDown

/-- The system without the moves that `ok` does not admit. -/
def only (ok : σ → ε → Prop) [∀ s e, Decidable (ok s e)] (step : σ → ε → Option σ) (s : σ)
    (e : ε) : Option σ :=
  if ok s e then step s e else none

section Only

variable {ok : σ → ε → Prop} [∀ s e, Decidable (ok s e)]

theorem only_eq_some : only ok step s e = some t ↔ ok s e ∧ step s e = some t := by
  unfold only
  split
  · rename_i hok
    simp [hok]
  · rename_i hnot
    simp [hnot]

/-- Moves that are admitted here may be admitted there as well. -/
theorem Run.of_only_imp {ok' : σ → ε → Prop} [∀ s e, Decidable (ok' s e)]
    (himp : ∀ s e, ok s e → ok' s e) (h : Run (only ok step) s τ t) :
    Run (only ok' step) s τ t := by
  induction h with
  | nil => exact Run.nil
  | snoc _ last ih =>
      obtain ⟨hok, hstep⟩ := only_eq_some.mp last
      exact Run.snoc ih (only_eq_some.mpr ⟨himp _ _ hok, hstep⟩)

/-- A run of admitted moves is a run. -/
theorem Run.of_only (h : Run (only ok step) s τ t) : Run step s τ t := by
  induction h with
  | nil => exact Run.nil
  | snoc _ last ih => exact Run.snoc ih (only_eq_some.mp last).2

end Only

end Traces
