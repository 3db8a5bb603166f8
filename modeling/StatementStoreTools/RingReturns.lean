import StatementStoreTools.RankedRuns
import StatementStoreTools.RingRecords

/-!
# Every client of the ring returns

The waits of `run_client` have timeouts, so that no client depends on the
others to get to its end.  `movesLeft` counts the moves that a client can still
make, phase by phase; each of its moves costs at least one and the moves of the
others cost it nothing.  With `step_possible`, that a client which has not
returned can move by itself, the library of ranked runs gives:

* `ring_runs_end` — no client ever makes more than a fixed number of moves, a
  run that cannot go on is one after which all have returned, and from every
  reachable state each client can return even if no other moves again.
-/

namespace StatementStore

open CyclicBarrier Traces

namespace Ring

variable {n : Nat} {cfg : RingConfig} {s t : RingState n} {τ : List (RingEvent n)} {c : Fin n}
  {e : RingEvent n}

/-- How many moves a client can still make.  From the start of one round to
the start of the next there are the submissions, the end of the round, the look
at the flag, the arrival and the release. -/
def movesLeft (cfg : RingConfig) : Phase → Nat
  | .atBarrier r => 2 + (cfg.numRounds - r) * (cfg.messages + 4)
  | .waiting r _ _ => 1 + (cfg.numRounds - r) * (cfg.messages + 4)
  | .inRound r sent => cfg.messages - sent + 4 + (cfg.numRounds - r) * (cfg.messages + 4)
  | .afterRound r => 3 + (cfg.numRounds - r) * (cfg.messages + 4)
  | .returned => 0

section MovesLeft

variable (cfg : RingConfig) (r : Nat)

@[simp] theorem movesLeft_atBarrier :
    movesLeft cfg (.atBarrier r) = 2 + (cfg.numRounds - r) * (cfg.messages + 4) := rfl

@[simp] theorem movesLeft_waiting (g : Nat) (leader : Bool) :
    movesLeft cfg (.waiting r g leader) = 1 + (cfg.numRounds - r) * (cfg.messages + 4) := rfl

@[simp] theorem movesLeft_inRound (sent : Nat) :
    movesLeft cfg (.inRound r sent) =
      cfg.messages - sent + 4 + (cfg.numRounds - r) * (cfg.messages + 4) := rfl

@[simp] theorem movesLeft_afterRound :
    movesLeft cfg (.afterRound r) = 3 + (cfg.numRounds - r) * (cfg.messages + 4) := rfl

@[simp] theorem movesLeft_returned : movesLeft cfg .returned = 0 := rfl

end MovesLeft

theorem movesLeft_startRound (cfg : RingConfig) (r : Nat) :
    movesLeft cfg (startRound cfg (r + 1)) ≤ (cfg.numRounds - r) * (cfg.messages + 4) := by
  unfold startRound
  split
  · rename_i hle
    obtain ⟨k, hk⟩ : ∃ k, cfg.numRounds - r = k + 1 := ⟨cfg.numRounds - r - 1, by omega⟩
    have hnext : cfg.numRounds - (r + 1) = k := by omega
    rw [movesLeft_inRound, hk, hnext, Nat.succ_mul]
    omega
  · exact Nat.zero_le _

/-- **A move costs its client.** -/
theorem step_movesLeft (h : step cfg s e = some t) :
    movesLeft cfg (t.clients (RingEvent.client e)).phase <
      movesLeft cfg (s.clients (RingEvent.client e)).phase := by
  cases e with
  | arrive c r g =>
      obtain ⟨hphase, -, rfl⟩ := step_arrive h
      simp [RingEvent.client, setClient, hphase]
  | pass c r g =>
      obtain ⟨⟨leader, hphase⟩, -, rfl⟩ := step_pass h
      have hnext := movesLeft_startRound cfg r
      simp only [RingEvent.client, setClient_self, hphase, movesLeft_waiting]
      omega
  | timedOut c r g =>
      obtain ⟨hphase, rfl⟩ := step_timedOut h
      simp [RingEvent.client, setClient, hphase]
  | submit c r i =>
      obtain ⟨hphase, hi, rfl⟩ := step_submit h
      simp only [RingEvent.client, setClient_self, hphase, movesLeft_inRound]
      omega
  | roundOk c r =>
      obtain ⟨hphase, rfl⟩ := step_roundOk h
      simp only [RingEvent.client, setClient_self, hphase, movesLeft_inRound]
      split
      · simp only [movesLeft_afterRound]
        omega
      · simp only [movesLeft_returned]
        omega
  | roundFailed c r kind =>
      obtain ⟨⟨sent, hphase⟩, -, rfl⟩ := step_roundFailed h
      have hnext := movesLeft_startRound cfg r
      simp only [RingEvent.client, setClient, Function.update_self, hphase, movesLeft_inRound]
      cases cfg.failFast with
      | true =>
          simp only [if_true, movesLeft_returned]
          omega
      | false =>
          simp only [Bool.false_eq_true, if_false]
          omega
  | load c r flag =>
      obtain ⟨hphase, -, ⟨-, rfl⟩ | ⟨-, rfl⟩⟩ := step_load h
      · simp [RingEvent.client, hphase]
      · simp [RingEvent.client, hphase]

/-! ## Where a client stands -/

/-- The rounds that a client has completed are among those it has gone through. -/
theorem success_le {r : Nat} (h : RingRun cfg n τ s) (hr : r ∈ (s.clients c).successes) :
    r ≤ (attempts τ c).length := by
  have hledger := RingRun.ledger h c
  have hsub : (s.clients c).successes.Sublist (roundsUpTo (attempts τ c).length) := by
    rw [hledger.successes, ← hledger.rounds]
    exact okRound_sublist _
  exact (mem_roundsUpTo.mp (hsub.subset hr)).2

/-- Where the rounds of a client are. -/
theorem running_round {r sent : Nat} (h : RingRun cfg n τ s)
    (hphase : (s.clients c).phase = .inRound r sent) :
    (attempts τ c).length + 1 = r ∧ r ≤ cfg.numRounds := by
  have hprogress := (RingRun.ledger h c).progress
  rw [hphase] at hprogress
  exact hprogress.2

/-! ## Nobody is stuck -/

/-- The barrier never goes back. -/
theorem step_generation_le (h : step cfg s e = some t) :
    s.barrier.generation ≤ t.barrier.generation := by
  cases e with
  | arrive c r g =>
      obtain ⟨-, -, rfl⟩ := step_arrive h
      exact Barrier.generation_le_arrive n _
  | pass c r g =>
      obtain ⟨-, -, rfl⟩ := step_pass h
      exact Nat.le_refl _
  | timedOut c r g =>
      obtain ⟨-, rfl⟩ := step_timedOut h
      exact Nat.le_refl _
  | submit c r i =>
      obtain ⟨-, -, rfl⟩ := step_submit h
      exact Nat.le_refl _
  | roundOk c r =>
      obtain ⟨-, rfl⟩ := step_roundOk h
      exact Nat.le_refl _
  | roundFailed c r kind =>
      obtain ⟨-, -, rfl⟩ := step_roundFailed h
      exact Nat.le_refl _
  | load c r flag =>
      obtain ⟨-, -, ⟨-, rfl⟩ | ⟨-, rfl⟩⟩ := step_load h
      · exact Nat.le_refl _
      · exact Nat.le_refl _

/-- The only move into the barrier is an arrival. -/
theorem waiting_after {r g : Nat} {leader : Bool} (hstep : step cfg s e = some t)
    (hphase : (t.clients c).phase = .waiting r g leader) :
    (s.clients c).phase = .waiting r g leader ∨
      (e = .arrive c r g ∧ leader = decide (g < t.barrier.generation)) := by
  by_cases hc : RingEvent.client e = c
  · subst hc
    cases e with
    | arrive c r' g' =>
        obtain ⟨-, -, rfl⟩ := step_arrive hstep
        simp only [RingEvent.client, setClient, Function.update_self, Phase.waiting.injEq] at hphase
        obtain ⟨rfl, rfl, rfl⟩ := hphase
        exact Or.inr ⟨rfl, rfl⟩
    | pass c r' g' =>
        obtain ⟨-, -, rfl⟩ := step_pass hstep
        simp only [RingEvent.client, setClient_self, startRound] at hphase
        split at hphase <;> cases hphase
    | timedOut c r' g' =>
        obtain ⟨-, rfl⟩ := step_timedOut hstep
        simp [RingEvent.client, setClient] at hphase
    | submit c r' i =>
        obtain ⟨-, -, rfl⟩ := step_submit hstep
        simp [RingEvent.client] at hphase
    | roundOk c r' =>
        obtain ⟨-, rfl⟩ := step_roundOk hstep
        simp only [RingEvent.client, setClient_self] at hphase
        split at hphase <;> cases hphase
    | roundFailed c r' kind =>
        obtain ⟨-, -, rfl⟩ := step_roundFailed hstep
        simp only [RingEvent.client, setClient, Function.update_self, startRound] at hphase
        split at hphase
        · cases hphase
        · split at hphase <;> cases hphase
    | load c r' flag =>
        obtain ⟨-, -, ⟨-, rfl⟩ | ⟨-, rfl⟩⟩ := step_load hstep
        · simp [RingEvent.client] at hphase
        · simp [RingEvent.client] at hphase
  · rw [step_other hstep hc] at hphase
    exact Or.inl hphase

/-- The leader of a generation has been released by its own arrival. -/
theorem leader_released (h : RingRun cfg n τ s) :
    ∀ c r g, (s.clients c).phase = .waiting r g true → g < s.barrier.generation := by
  refine h.rule (fun _ s => ∀ c r g, (s.clients c).phase = .waiting r g true →
    g < s.barrier.generation) ?init ?one
  case init => exact fun c r g hphase => by cases hphase
  case one =>
    intro τ s e t ih hstep c r g hphase
    rcases waiting_after hstep hphase with hold | ⟨-, hleader⟩
    · exact Nat.lt_of_lt_of_le (ih c r g hold) (step_generation_le hstep)
    · exact of_decide_eq_true hleader.symm

/-- **Nobody depends on the others.**  A client that has not returned has a
move it can make now. -/
theorem step_possible (h : RingRun cfg n τ s) (hlive : (s.clients c).phase ≠ .returned) :
    ∃ e t, RingEvent.client e = c ∧ step cfg s e = some t := by
  have hmove : ∃ e, RingEvent.client e = c ∧ (step cfg s e).isSome := by
    cases hphase : (s.clients c).phase with
    | atBarrier r => exact ⟨.arrive c r s.barrier.generation, rfl, by simp [step, hphase]⟩
    | waiting r g leader =>
        cases leader with
        | true =>
            have hopen := leader_released h c r g hphase
            exact ⟨.pass c r g, rfl, by simp [step, hphase, hopen]⟩
        | false => exact ⟨.timedOut c r g, rfl, by simp [step, hphase]⟩
    | inRound r sent =>
        exact ⟨.roundFailed c r .tooManyTopics, rfl, by simp [step, hphase, Phase.running]⟩
    | afterRound r =>
        refine ⟨.load c r s.peerFailed, rfl, ?_⟩
        cases hflag : s.peerFailed with
        | true => simp [step, hphase, hflag]
        | false => simp [step, hphase, hflag]
    | returned => exact absurd hphase hlive
  obtain ⟨e, hc, hsome⟩ := hmove
  obtain ⟨t, hstep⟩ := Option.isSome_iff_exists.mp hsome
  exact ⟨e, t, hc, hstep⟩

/-- The moves of a client count down, those of the others leave it alone. -/
theorem countsDown_moves (cfg : RingConfig) (c : Fin n) :
    CountsDown (step cfg) (fun s => ∃ τ, RingRun cfg n τ s) (fun e => RingEvent.client e = c)
      (fun s => movesLeft cfg (s.clients c).phase) where
  keeps := by
    intro s t e hs hstep
    obtain ⟨τ, hrun⟩ := hs
    exact ⟨_, Run.snoc hrun hstep⟩
  falls := by
    intro s t e _ hstep hc
    subst hc
    exact step_movesLeft hstep
  others := by
    intro s t e _ hstep hc
    rw [step_other hstep hc]

/-- **Every client returns.**  Whatever the interleaving, the failures and the
timeouts: a client makes at most `2 + num_rounds * (messages + 4)` moves, nobody
can move any more exactly when all have returned, and a client can get from any
reachable state to its end by its own moves, although the others do nothing. -/
theorem ring_runs_end (h : RingRun cfg n τ s) :
    (∀ c, (movesOf τ c).length ≤ 2 + cfg.numRounds * (cfg.messages + 4)) ∧
    ((∀ e, step cfg s e = none) ↔ ∀ c, (s.clients c).phase = .returned) ∧
    ∀ c, ∃ τ' t, Run (step cfg) s τ' t ∧ (∀ e ∈ τ', RingEvent.client e = c) ∧
      (t.clients c).phase = .returned := by
  refine ⟨fun c => ?_, ⟨fun hstuck c => ?_, fun hall e => ?_⟩, fun c => ?_⟩
  · have hbound := (countsDown_moves cfg c).run ⟨[], Run.nil⟩ h
    have hstart : movesLeft cfg ((initial n).clients c).phase =
        2 + cfg.numRounds * (cfg.messages + 4) := rfl
    rw [hstart, List.countP_eq_length_filter] at hbound
    exact (Nat.le_add_right _ _).trans hbound
  · by_contra hlive
    obtain ⟨e, t, -, hstep⟩ := step_possible h hlive
    exact absurd (hstep.symm.trans (hstuck e)) (by simp)
  · cases hstep : step cfg s e with
    | none => rfl
    | some t => exact absurd (hall _) (step_live hstep)
  · obtain ⟨τ', t, hrun, hown, -, hgoal⟩ := (countsDown_moves cfg c).reach
      (fun s => (s.clients c).phase = .returned)
      (fun ⟨_, hs⟩ hlive => step_possible hs hlive) ⟨τ, h⟩
    exact ⟨τ', t, hrun, hown, hgoal⟩

/-- Client `0` waits at the startup barrier, and client `1` never comes. -/
theorem ring_runs_end_alone : ∃ s, RingRun ⟨2, 1, false⟩ 2 [.arrive 0 0 0] s ∧
    ∃ τ' t, Run (step ⟨2, 1, false⟩) s τ' t ∧ (∀ e ∈ τ', RingEvent.client e = 0) ∧
      (t.clients 0).phase = .returned := by
  obtain ⟨s, hs⟩ : ∃ s, exec (step ⟨2, 1, false⟩) (initial 2) [.arrive 0 0 0] = some s :=
    Option.isSome_iff_exists.mp (by decide)
  exact ⟨s, run_of_exec hs, (ring_runs_end (run_of_exec hs)).2.2 0⟩

end Ring

end StatementStore
