import StatementStoreTools.RingRecords

/-!
# Runs of the ring that exist

For any number of clients: all of them arrive at the startup barrier, one
client enters its first round, and from there it may do as it likes.  The
lemmas build such runs with the state they lead to.
-/

namespace StatementStore

open CyclicBarrier Traces

namespace Ring

variable {n : Nat} {cfg : RingConfig} {s t : RingState n} {c d : Fin n} {r : Nat}

theorem setClient_eq_self (s : RingState n) (c : Fin n) : setClient s c (s.clients c) = s := by
  simp [setClient]

theorem setClient_setClient (s : RingState n) (c : Fin n) (a b : Client) :
    setClient (setClient s c a) c b = setClient s c b := by
  simp [setClient]

/-- The first `k` clients have arrived at the startup barrier. -/
theorem exists_arrived (cfg : RingConfig) {k : Nat} (hk : k ≤ n) :
    ∃ τ s, RingRun cfg n τ s ∧ s.peerFailed = false ∧
      (s.barrier = if k = n ∧ 0 < n then ⟨0, 1⟩ else ⟨k, 0⟩) ∧
      (∀ c : Fin n, c.val < k → ∃ leader, s.clients c = ⟨.waiting 0 0 leader, [], []⟩) ∧
      ∀ c : Fin n, k ≤ c.val → s.clients c = ⟨.atBarrier 0, [], []⟩ := by
  induction k with
  | zero =>
      refine ⟨[], initial n, Run.nil, rfl, ?_, fun c hc => absurd hc (Nat.not_lt_zero _),
        fun _ _ => rfl⟩
      rw [if_neg (by omega)]
      rfl
  | succ k ih =>
      obtain ⟨τ, s, hrun, hflag, hbarrier, hwaiting, hlate⟩ := ih (by omega)
      have hopen : s.barrier = ⟨k, 0⟩ := by
        rw [hbarrier, if_neg (by omega)]
      have hclient := hlate ⟨k, by omega⟩ (Nat.le_refl k)
      have hstep : step cfg s (.arrive ⟨k, by omega⟩ 0 0) =
          some { setClient s ⟨k, by omega⟩ ⟨.waiting 0 0
              (decide (0 < (s.barrier.arrive n).generation)), [], []⟩ with
            barrier := s.barrier.arrive n } := by
        simp [step, hclient, hopen]
      refine ⟨_, _, Run.snoc hrun hstep, hflag, ?_, ?_, ?_⟩
      · rw [hopen, Barrier.arrive]
        by_cases hfull : k + 1 = n
        · rw [if_pos hfull, if_pos ⟨hfull, by omega⟩]
        · rw [if_neg hfull, if_neg (fun hboth => hfull hboth.1)]
      · intro c hc
        by_cases hck : c = ⟨k, by omega⟩
        · rw [hck]
          exact ⟨_, setClient_self s _ _⟩
        · have hlt : c.val < k := by
            have : c.val ≠ k := fun heq => hck (Fin.ext heq)
            omega
          obtain ⟨leader, hold⟩ := hwaiting c hlt
          exact ⟨leader, (setClient_of_ne s hck _).trans hold⟩
      · intro c hc
        have hck : c ≠ ⟨k, by omega⟩ := by
          intro heq
          have := congrArg Fin.val heq
          simp only at this
          omega
        exact (setClient_of_ne s hck _).trans (hlate c (by omega))

/-- One client has entered its first round, the others are behind it. -/
theorem exists_inRound (cfg : RingConfig) (hrounds : 1 ≤ cfg.numRounds) (c : Fin n) :
    ∃ τ s, RingRun cfg n τ s ∧ s.clients c = ⟨.inRound 1 0, [], []⟩ ∧
      ∀ d, (s.clients d).successes = [] ∧ (s.clients d).failures = [] := by
  have hn : 0 < n := c.pos
  obtain ⟨τ, s, hrun, hflag, hbarrier, hwaiting, -⟩ := exists_arrived cfg (Nat.le_refl n)
  rw [if_pos ⟨rfl, hn⟩] at hbarrier
  obtain ⟨leader, hclient⟩ := hwaiting c c.isLt
  have hstep : step cfg s (.pass c 0 0) = some (setClient s c ⟨.inRound 1 0, [], []⟩) := by
    cases leader <;> simp [step, hclient, hbarrier, startRound, hrounds]
  refine ⟨_, _, Run.snoc hrun hstep, setClient_self s c _, fun d => ?_⟩
  by_cases hd : d = c
  · subst hd
    rw [setClient_self]
    exact ⟨rfl, rfl⟩
  · rw [setClient_of_ne s hd]
    obtain ⟨leader, hother⟩ := hwaiting d d.isLt
    rw [hother]
    exact ⟨rfl, rfl⟩

/-- A client submits the first `k` messages of its round. -/
theorem run_submits_eq (cfg : RingConfig) (hs : (s.clients c).phase = .inRound r 0) :
    ∀ k ≤ cfg.messages, Run (step cfg) s ((List.range k).map (.submit c r))
      (setClient s c { s.clients c with phase := .inRound r k }) := by
  intro k
  induction k with
  | zero =>
      intro _
      have hsame : { s.clients c with phase := .inRound r 0 } = s.clients c := by
        rw [← hs]
      rw [hsame, setClient_eq_self]
      exact Run.nil
  | succ k ih =>
      intro hk
      rw [List.range_succ, List.map_append]
      refine Run.snoc (ih (by omega)) ?_
      simp [step, setClient_setClient]
      omega

/-- A client fails its round, without `fail_fast`, and goes on. -/
theorem step_fail (hoff : cfg.failFast = false) {sent : Nat}
    (hs : (s.clients c).phase = .inRound r sent) :
    step cfg s (.roundFailed c r .subscribeFailed) =
      some { setClient s c { s.clients c with
              phase := startRound cfg (r + 1)
              failures := (s.clients c).failures ++ [.subscribeFailed] } with
        peerFailed := true } := by
  simp [step, hs, hoff, Phase.running, roundFailures]

/-- A client fails all rounds that are left. -/
theorem exists_failing (hoff : cfg.failFast = false) (left : Nat) :
    ∀ s : RingState n, ∀ r, (s.clients c).phase = .inRound r 0 → r + left = cfg.numRounds →
      ∃ τ t, Run (step cfg) s τ t ∧ (t.clients c).phase = .returned ∧
        (t.clients c).failures.length = (s.clients c).failures.length + left + 1 := by
  induction left with
  | zero =>
      intro s r hs hleft
      refine ⟨_, _, Run.snoc Run.nil (step_fail hoff hs), ?_, ?_⟩
      · simp [setClient, startRound]
        omega
      · simp [setClient]
  | succ left ih =>
      intro s r hs hleft
      have hstep := step_fail hoff hs
      have hnext : startRound cfg (r + 1) = .inRound (r + 1) 0 := if_pos (by omega)
      obtain ⟨τ, t, hrun, hret, hlen⟩ := ih
        { setClient s c { s.clients c with
            phase := startRound cfg (r + 1)
            failures := (s.clients c).failures ++ [.subscribeFailed] } with
          peerFailed := true }
        (r + 1) (by simpa [setClient] using hnext) (by omega)
      refine ⟨_, t, Run.cons hstep hrun, hret, ?_⟩
      rw [hlen]
      simp [setClient]
      omega

end Ring

end StatementStore
