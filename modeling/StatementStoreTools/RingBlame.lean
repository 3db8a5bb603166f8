import StatementStoreTools.RingRecords

/-!
# Whose failure ends a client early

`peer_failed` is one flag for all clients.  A client raises it with its own
failures too, and, without `fail_fast`, goes on to the next round.  When that
round succeeds it reads the flag, takes its own failure for that of a peer and
stops with `PeerFailed`.

* `flag_attributed` — a raised flag goes back to a recorded failure;
* `blames_of_clean` — the failure is that of another client in every run in
  which only clients without a failure find the flag raised;
* `clean_of_config` — with `fail_fast`, or with at most two rounds, all runs are
  like that.
-/

namespace StatementStore

open Traces

namespace Ring

variable {n : Nat} {cfg : RingConfig} {s t : RingState n} {τ : List (RingEvent n)} {c : Fin n}

/-- Whenever a client records `PeerFailed`, another one has recorded a failure
before. -/
def BlamesAPeer (τ : List (RingEvent n)) : Prop :=
  ∀ before after c r, τ = before ++ .load c r true :: after →
    ∃ d, d ≠ c ∧ failuresIn before d ≠ []

/-- Whoever finds the flag raised has no failure of its own. -/
def CleanLoads (τ : List (RingEvent n)) : Prop :=
  ∀ before after c r, τ = before ++ .load c r true :: after → failuresIn before c = []

theorem failuresIn_snoc {e : RingEvent n} (h : failuresIn τ c ≠ []) :
    failuresIn (τ ++ [e]) c ≠ [] := by
  by_cases hc : RingEvent.client e = c
  · rw [failuresIn, attempts_snoc_own hc, stops_snoc_own hc, List.filterMap_append]
    intro hnil
    simp only [List.append_eq_nil_iff] at hnil
    exact h (by rw [failuresIn, hnil.1.1, hnil.2.1]; rfl)
  · rw [failuresIn, attempts_snoc_other hc, stops_snoc_other hc]
    exact h

/-- What the trace says of the failures of a client is what the client has
recorded. -/
theorem RingRun.failuresIn_eq (h : RingRun cfg n τ s) (c : Fin n) :
    failuresIn τ c = (s.clients c).failures :=
  (RingRun.ledger h c).failures.symm

/-- **The flag is attributed.**  Somebody has recorded a failure when it is up. -/
theorem flag_attributed (h : RingRun cfg n τ s) :
    s.peerFailed = true → ∃ d, failuresIn τ d ≠ [] := by
  refine h.rule (fun τ s => s.peerFailed = true → ∃ d, failuresIn τ d ≠ []) ?init ?one
  case init => exact fun hflag => by cases hflag
  case one =>
    intro τ s e t ih hstep
    have hkept : s.peerFailed = true → ∃ d, failuresIn (τ ++ [e]) d ≠ [] := by
      intro hflag
      obtain ⟨d, hd⟩ := ih hflag
      exact ⟨d, failuresIn_snoc hd⟩
    cases e with
    | arrive c r g =>
        obtain ⟨-, -, rfl⟩ := step_arrive hstep
        exact hkept
    | pass c r g =>
        obtain ⟨-, -, rfl⟩ := step_pass hstep
        exact hkept
    | timedOut c r g =>
        intro _
        refine ⟨c, ?_⟩
        rw [failuresIn, stops_snoc_own (c := c) rfl]
        simp [stopRecord]
    | submit c r i =>
        obtain ⟨-, -, rfl⟩ := step_submit hstep
        exact hkept
    | roundOk c r =>
        obtain ⟨-, rfl⟩ := step_roundOk hstep
        exact hkept
    | roundFailed c r kind =>
        intro _
        refine ⟨c, ?_⟩
        rw [failuresIn, attempts_snoc_own (c := c) rfl]
        simp [attempt]
    | load c r flag =>
        obtain ⟨-, -, ⟨-, rfl⟩ | ⟨-, rfl⟩⟩ := step_load hstep
        · exact hkept
        · exact hkept

/-- A client that finds the flag raised, and has no failure, has a peer to blame. -/
theorem peer_of_clean {r : Nat} (h : RingRun cfg n τ s)
    (hstep : step cfg s (.load c r true) = some t)
    (hclean : failuresIn τ c = []) : ∃ d, d ≠ c ∧ failuresIn τ d ≠ [] := by
  obtain ⟨-, hflag, -⟩ := step_load hstep
  obtain ⟨d, hd⟩ := flag_attributed h hflag.symm
  refine ⟨d, ?_, hd⟩
  intro heq
  rw [heq] at hd
  exact hd hclean

theorem blames_of_clean (h : RingRun cfg n τ s) (hclean : CleanLoads τ) : BlamesAPeer τ := by
  intro before after c r hτ
  obtain ⟨u, u', hrun, hstep⟩ := h.split hτ
  exact peer_of_clean hrun hstep (hclean before after c r hτ)

/-- With `fail_fast`, or two rounds at most, a client that reads the flag has no
failure. -/
theorem clean_of_config (h : RingRun cfg n τ s)
    (hcfg : cfg.failFast = true ∨ cfg.numRounds ≤ 2) : CleanLoads τ := by
  intro before after c r hτ
  obtain ⟨u, u', hrun, hstep⟩ := h.split hτ
  obtain ⟨hphase, -⟩ := step_load hstep
  have hledger := RingRun.ledger hrun c
  rw [RingRun.failuresIn_eq hrun]
  rcases hcfg with hfast | htwo
  · exact hledger.clean (by rw [hphase]; simp) hfast
  · -- the flag is read after the first round only, and that round was a success
    have hprogress := hledger.progress
    rw [hphase] at hprogress
    obtain ⟨hstops, hdone, hpos, hlt⟩ := hprogress
    have hone : (attempts before c).length = 1 := by omega
    obtain ⟨a, ha⟩ := List.length_eq_one_iff.mp hone
    have hsucceeded := hledger.succeeded r hphase
    rw [hledger.successes, ha] at hsucceeded
    rw [hledger.failures, ha, hstops]
    obtain ⟨r', outcome⟩ := a
    cases outcome with
    | none => rfl
    | some kind => cases hsucceeded

end Ring

end StatementStore
