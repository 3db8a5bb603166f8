import StatementStoreTools.RingBarrier

/-!
# What a client of the ring records

The round loop of `run_client` pushes to two lists and leaves in five places.
Next to the run, `attempts` and `stops` read off the trace what a client should
have recorded: one outcome for every round it went through, and the stop, if
any, that ended the loop early.

`Ledger` says that the lists of the client are these, and where in the loop a
stop can happen; `Ledger.move` keeps it.  `client_records` is the account of a
`ClientResult` for every run.
-/

namespace StatementStore

open Traces

/-- The failures that end the loop of a client between two rounds. -/
def FailureKind.isStop : FailureKind → Bool
  | peerFailed => true
  | interRoundSyncTimeout => true
  | startupSyncTimeout => true
  | _ => false

theorem isStop_of_mem_round {kind : FailureKind}
    (h : kind ∈ FailureKind.tooManyTopics :: roundFailures) : kind.isStop = false := by
  revert kind
  decide

namespace Ring

variable {n : Nat}

/-- Whose move it is. -/
def RingEvent.client : RingEvent n → Fin n
  | .arrive c _ _ => c
  | .pass c _ _ => c
  | .timedOut c _ _ => c
  | .submit c _ _ => c
  | .roundOk c _ => c
  | .roundFailed c _ _ => c
  | .load c _ _ => c

/-- The round that a move ends, with the failure it ends with. -/
def attempt : RingEvent n → Option (Nat × Option FailureKind)
  | .roundOk _ r => some (r, none)
  | .roundFailed _ r kind => some (r, some kind)
  | _ => none

/-- The record with which a move stops its client early. -/
def stopRecord : RingEvent n → Option FailureKind
  | .timedOut _ r _ => some (syncTimeout r)
  | .load _ _ true => some .peerFailed
  | _ => none

/-- The moves of one client. -/
def movesOf (τ : List (RingEvent n)) (c : Fin n) : List (RingEvent n) :=
  τ.filter fun e => RingEvent.client e = c

/-- The rounds a client has gone through, in order. -/
def attempts (τ : List (RingEvent n)) (c : Fin n) : List (Nat × Option FailureKind) :=
  (movesOf τ c).filterMap attempt

/-- The early stops of a client. -/
def stops (τ : List (RingEvent n)) (c : Fin n) : List FailureKind :=
  (movesOf τ c).filterMap stopRecord

/-- The round of a success. -/
def okRound (a : Nat × Option FailureKind) : Option Nat :=
  match a.2 with
  | none => some a.1
  | some _ => none

/-- The failures that a client has met according to the trace. -/
def failuresIn (τ : List (RingEvent n)) (c : Fin n) : List FailureKind :=
  (attempts τ c).filterMap (·.2) ++ stops τ c

section Trace

variable {τ : List (RingEvent n)} {e : RingEvent n} {c : Fin n}

theorem movesOf_snoc_own (h : RingEvent.client e = c) :
    movesOf (τ ++ [e]) c = movesOf τ c ++ [e] := by
  simp [movesOf, h]

theorem movesOf_snoc_other (h : RingEvent.client e ≠ c) : movesOf (τ ++ [e]) c = movesOf τ c := by
  simp [movesOf, h]

theorem attempts_snoc_own (h : RingEvent.client e = c) :
    attempts (τ ++ [e]) c = attempts τ c ++ (attempt e).toList := by
  rw [attempts, movesOf_snoc_own h, List.filterMap_append]
  cases he : attempt e <;> simp [attempts, he]

theorem attempts_snoc_other (h : RingEvent.client e ≠ c) :
    attempts (τ ++ [e]) c = attempts τ c := by
  rw [attempts, movesOf_snoc_other h, attempts]

theorem stops_snoc_own (h : RingEvent.client e = c) :
    stops (τ ++ [e]) c = stops τ c ++ (stopRecord e).toList := by
  rw [stops, movesOf_snoc_own h, List.filterMap_append]
  cases he : stopRecord e <;> simp [stops, he]

theorem stops_snoc_other (h : RingEvent.client e ≠ c) : stops (τ ++ [e]) c = stops τ c := by
  rw [stops, movesOf_snoc_other h, stops]

/-- Every round gone through is either a success or a failure. -/
theorem attempts_split (as : List (Nat × Option FailureKind)) :
    (as.filterMap okRound).length + (as.filterMap (·.2)).length = as.length := by
  induction as with
  | nil => rfl
  | cons a as ih =>
      obtain ⟨r, outcome⟩ := a
      cases outcome with
      | none => simp [okRound] at ih ⊢; omega
      | some kind =>
          have hskip : List.filterMap okRound ((r, some kind) :: as) = List.filterMap okRound as :=
            rfl
          simp [hskip]
          omega

theorem okRound_sublist (as : List (Nat × Option FailureKind)) :
    (as.filterMap okRound).Sublist (as.map (·.1)) := by
  induction as with
  | nil => exact List.Sublist.refl _
  | cons a as ih =>
      obtain ⟨r, outcome⟩ := a
      cases outcome with
      | none => simpa [okRound] using ih
      | some kind => exact ih.cons r

end Trace

/-- A move of another client leaves a client alone. -/
theorem step_other {cfg : RingConfig} {s t : RingState n} {e : RingEvent n} {c : Fin n}
    (h : step cfg s e = some t) (hne : RingEvent.client e ≠ c) : t.clients c = s.clients c := by
  have hne' : c ≠ RingEvent.client e := Ne.symm hne
  cases e with
  | arrive d r g =>
      obtain ⟨-, -, rfl⟩ := step_arrive h
      exact setClient_of_ne s hne' _
  | pass d r g =>
      obtain ⟨-, -, rfl⟩ := step_pass h
      exact setClient_of_ne s hne' _
  | timedOut d r g =>
      obtain ⟨-, rfl⟩ := step_timedOut h
      exact setClient_of_ne s hne' _
  | submit d r i =>
      obtain ⟨-, -, rfl⟩ := step_submit h
      exact setClient_of_ne s hne' _
  | roundOk d r =>
      obtain ⟨-, rfl⟩ := step_roundOk h
      exact setClient_of_ne s hne' _
  | roundFailed d r kind =>
      obtain ⟨-, -, rfl⟩ := step_roundFailed h
      exact setClient_of_ne s hne' _
  | load d r flag =>
      obtain ⟨-, -, ⟨-, rfl⟩ | ⟨-, rfl⟩⟩ := step_load h
      · exact setClient_of_ne s hne' _
      · exact setClient_of_ne s hne' _

/-- Nobody moves who has returned. -/
theorem step_live {e : RingEvent n} (hstep : step cfg s e = some t) :
    (s.clients (RingEvent.client e)).phase ≠ .returned := by
  intro hret
  cases e with
  | arrive c r g => cases hret.symm.trans (step_arrive hstep).1
  | pass c r g =>
      obtain ⟨leader, hwait⟩ := (step_pass hstep).1
      cases hret.symm.trans hwait
  | timedOut c r g => cases hret.symm.trans (step_timedOut hstep).1
  | submit c r i => cases hret.symm.trans (step_submit hstep).1
  | roundOk c r => cases hret.symm.trans (step_roundOk hstep).1
  | roundFailed c r kind =>
      obtain ⟨sent, hround⟩ := (step_roundFailed hstep).1
      cases hret.symm.trans hround
  | load c r flag => cases hret.symm.trans (step_load hstep).1

/-- What a client can do in a round: send the next message, or end it. -/
theorem step_inRound {e : RingEvent n} {r k : Nat} (hc : RingEvent.client e = c)
    (hphase : (s.clients c).phase = .inRound r k) (hstep : step cfg s e = some t) :
    (t.clients c).phase = .inRound r (k + 1) ∨ e = .roundOk c r ∨
      ∃ kind, e = .roundFailed c r kind := by
  subst hc
  cases e with
  | arrive c r' g => cases hphase.symm.trans (step_arrive hstep).1
  | pass c r' g =>
      obtain ⟨leader, hwait⟩ := (step_pass hstep).1
      cases hphase.symm.trans hwait
  | timedOut c r' g => cases hphase.symm.trans (step_timedOut hstep).1
  | submit c r' i =>
      obtain ⟨hphase', -, rfl⟩ := step_submit hstep
      cases hphase.symm.trans hphase'
      exact Or.inl (congrArg Client.phase (setClient_self s c _))
  | roundOk c r' =>
      cases hphase.symm.trans (step_roundOk hstep).1
      exact Or.inr (Or.inl rfl)
  | roundFailed c r' kind =>
      obtain ⟨sent, hround⟩ := (step_roundFailed hstep).1
      cases hphase.symm.trans hround
      exact Or.inr (Or.inr ⟨kind, rfl⟩)
  | load c r' flag => cases hphase.symm.trans (step_load hstep).1

/-! ## The ledger of a client -/

/-- Where in the loop a stop can happen: before the first round, or between two
rounds. -/
inductive Stopped (numRounds done : Nat) : List FailureKind → Prop
  | no : Stopped numRounds done []
  | startup (h : done = 0) : Stopped numRounds done [.startupSyncTimeout]
  | between {kind : FailureKind} (hkind : kind = .peerFailed ∨ kind = .interRoundSyncTimeout)
      (hpos : 0 < done) (hlt : done < numRounds) : Stopped numRounds done [kind]

/-- How many rounds a client has gone through, by its phase. -/
def Progress (cfg : RingConfig) (done : Nat) (stops : List FailureKind) : Phase → Prop
  | .atBarrier r => stops = [] ∧ done = r ∧ (r = 0 ∨ r < cfg.numRounds)
  | .waiting r _ _ => stops = [] ∧ done = r ∧ (r = 0 ∨ r < cfg.numRounds)
  | .inRound r _ => stops = [] ∧ done + 1 = r ∧ r ≤ cfg.numRounds
  | .afterRound r => stops = [] ∧ done = r ∧ 0 < r ∧ r < cfg.numRounds
  | .returned => stops = [] → cfg.failFast = false → done = cfg.numRounds

/-- **The ledger.**  The lists of a client, by the trace. -/
structure Ledger (cfg : RingConfig) (attempts : List (Nat × Option FailureKind))
    (stops : List FailureKind) (client : Client) : Prop where
  rounds : attempts.map (·.1) = roundsUpTo attempts.length
  bound : attempts.length ≤ cfg.numRounds
  kinds : ∀ kind ∈ attempts.filterMap (·.2), kind ∈ FailureKind.tooManyTopics :: roundFailures
  successes : client.successes = attempts.filterMap okRound
  failures : client.failures = attempts.filterMap (·.2) ++ stops
  stopped : Stopped cfg.numRounds attempts.length stops
  progress : Progress cfg attempts.length stops client.phase
  succeeded : ∀ r, client.phase = .afterRound r → r ∈ client.successes
  failFast : cfg.failFast = true → client.failures = [] ∨
    (client.failures.length = 1 ∧ client.phase = .returned)

section Ledger

variable {cfg : RingConfig} {as : List (Nat × Option FailureKind)} {ss : List FailureKind}
  {client : Client} {r : Nat} {s t : RingState n} {τ : List (RingEvent n)} {c : Fin n}

theorem Ledger.start : Ledger cfg [] [] (⟨.atBarrier 0, [], []⟩ : Client) where
  rounds := rfl
  bound := Nat.zero_le _
  kinds := by simp
  successes := rfl
  failures := rfl
  stopped := .no
  progress := ⟨rfl, rfl, Or.inl rfl⟩
  succeeded := fun _ hphase => by cases hphase
  failFast := fun _ => Or.inl rfl

theorem progress_startRound (hr : r ≤ cfg.numRounds) :
    Progress cfg r [] (startRound cfg (r + 1)) := by
  unfold startRound
  split
  · rename_i hle
    exact ⟨rfl, rfl, hle⟩
  · rename_i hgt
    intro _ _
    omega

/-- After a successful round: between two rounds, or after the last. -/
theorem progress_roundOk (hpos : 1 ≤ r) (hr : r ≤ cfg.numRounds) :
    Progress cfg r [] (if r < cfg.numRounds then .afterRound r else .returned) := by
  split
  · rename_i hlt
    exact ⟨rfl, rfl, hpos, hlt⟩
  · intro _ _
    omega

/-- After a failed round: stopped by `fail_fast`, or in the next round. -/
theorem progress_roundFailed (hr : r ≤ cfg.numRounds) :
    Progress cfg r [] (if cfg.failFast then .returned else startRound cfg (r + 1)) := by
  cases hfast : cfg.failFast with
  | true => exact fun _ hoff => absurd (hfast.symm.trans hoff) (by simp)
  | false => exact progress_startRound hr

theorem startRound_ne_afterRound (cfg : RingConfig) {r : Nat} (r' : Nat) :
    startRound cfg r ≠ .afterRound r' := by
  unfold startRound
  split
  · exact fun heq => by cases heq
  · exact fun heq => by cases heq

/-- A move that records nothing. -/
theorem Ledger.rephase (h : Ledger cfg as ss client) (hlive : client.phase ≠ .returned)
    (phase : Phase) (hprogress : Progress cfg as.length ss phase)
    (hnot : ∀ r, phase ≠ .afterRound r) : Ledger cfg as ss { client with phase } where
  rounds := h.rounds
  bound := h.bound
  kinds := h.kinds
  successes := h.successes
  failures := h.failures
  stopped := h.stopped
  progress := hprogress
  succeeded r hphase := absurd hphase (hnot r)
  failFast hfast := by
    rcases h.failFast hfast with hnone | ⟨-, hret⟩
    · exact Or.inl hnone
    · exact absurd hret hlive

/-- The end of a round. -/
theorem Ledger.attempt (h : Ledger cfg as [] client) (hlen : as.length + 1 = r)
    (hr : r ≤ cfg.numRounds) (outcome : Option FailureKind)
    (hkind : ∀ kind ∈ outcome, kind ∈ FailureKind.tooManyTopics :: roundFailures)
    {phase : Phase} (hprogress : Progress cfg r [] phase)
    (hok : ∀ r', phase = .afterRound r' → r' = r ∧ outcome = none)
    (hfast : cfg.failFast = true → client.failures = [] ∧ (outcome = none ∨ phase = .returned)) :
    Ledger cfg (as ++ [(r, outcome)]) []
      { phase
        successes := client.successes ++ (okRound (r, outcome)).toList
        failures := client.failures ++ outcome.toList } where
  rounds := by
    rw [List.map_append, h.rounds, List.length_append, List.length_singleton, roundsUpTo_succ, hlen]
    rfl
  bound := by rw [List.length_append, List.length_singleton, hlen]; exact hr
  kinds := by
    intro kind hmem
    rw [List.filterMap_append, List.mem_append] at hmem
    rcases hmem with hold | hnew
    · exact h.kinds kind hold
    · refine hkind kind ?_
      cases outcome with
      | none => simp at hnew
      | some k => simpa [eq_comm] using hnew
  successes := by
    rw [h.successes, List.filterMap_append]
    cases outcome <;> rfl
  failures := by
    rw [h.failures, List.filterMap_append, List.append_nil, List.append_nil]
    cases outcome <;> rfl
  stopped := .no
  progress := by rw [List.length_append, List.length_singleton, hlen]; exact hprogress
  succeeded r' hphase := by
    obtain ⟨rfl, rfl⟩ := hok r' hphase
    exact List.mem_append_right _ (List.mem_singleton_self _)
  failFast hon := by
    obtain ⟨hnone, hend⟩ := hfast hon
    rw [hnone]
    cases outcome with
    | none => exact Or.inl rfl
    | some kind =>
        refine Or.inr ⟨rfl, ?_⟩
        rcases hend with hcontra | hret
        · cases hcontra
        · exact hret

/-- An early stop. -/
theorem Ledger.stop (h : Ledger cfg as [] client) (hlive : client.phase ≠ .returned)
    {kind : FailureKind} (hstopped : Stopped cfg.numRounds as.length [kind]) :
    Ledger cfg as [kind]
      { client with phase := .returned, failures := client.failures ++ [kind] } where
  rounds := h.rounds
  bound := h.bound
  kinds := h.kinds
  successes := h.successes
  failures := by simp [h.failures]
  stopped := hstopped
  progress := fun hnil => absurd hnil (List.cons_ne_nil _ _)
  succeeded := fun _ hphase => by cases hphase
  failFast hfast := by
    rcases h.failFast hfast with hnone | ⟨-, hret⟩
    · exact Or.inr ⟨by simp [hnone], rfl⟩
    · exact absurd hret hlive

/-- A round in progress under `fail_fast` is that of a client without failures. -/
theorem Ledger.clean (h : Ledger cfg as ss client) (hlive : client.phase ≠ .returned)
    (hfast : cfg.failFast = true) : client.failures = [] := by
  rcases h.failFast hfast with hnone | ⟨-, hret⟩
  · exact hnone
  · exact absurd hret hlive

theorem Ledger.progress_of_phase (h : Ledger cfg as ss client) {phase : Phase}
    (hphase : client.phase = phase) : Progress cfg as.length ss phase := by
  rw [← hphase]
  exact h.progress

/-- The release of the barrier. -/
theorem Ledger.pass (h : Ledger cfg as ss client) {g : Nat} {leader : Bool}
    (hphase : client.phase = .waiting r g leader) :
    Ledger cfg as ss { client with phase := startRound cfg (r + 1) } := by
  obtain ⟨rfl, hdone, -⟩ := h.progress_of_phase hphase
  have hprogress : Progress cfg as.length [] (startRound cfg (r + 1)) := by
    rw [hdone]
    exact progress_startRound (hdone ▸ h.bound)
  exact h.rephase (by simp [hphase]) _ hprogress (startRound_ne_afterRound cfg)

/-- The end of a wait without a release. -/
theorem Ledger.timedOut (h : Ledger cfg as ss client) {g : Nat}
    (hphase : client.phase = .waiting r g false) :
    Ledger cfg as (ss ++ [syncTimeout r])
      { client with phase := .returned, failures := client.failures ++ [syncTimeout r] } := by
  obtain ⟨rfl, hdone, hwhere⟩ := h.progress_of_phase hphase
  have hstopped : Stopped cfg.numRounds as.length [syncTimeout r] := by
    by_cases hzero : r = 0
    · rw [syncTimeout, if_pos hzero]
      exact .startup (hdone.trans hzero)
    · rw [syncTimeout, if_neg hzero]
      exact .between (Or.inr rfl) (by omega) (by omega)
  exact h.stop (by simp [hphase]) hstopped

theorem Ledger.roundOk (h : Ledger cfg as ss client) {sent : Nat}
    (hphase : client.phase = .inRound r sent) :
    Ledger cfg (as ++ [(r, none)]) ss { client with
      phase := if r < cfg.numRounds then .afterRound r else .returned
      successes := client.successes ++ [r] } := by
  obtain ⟨rfl, hlen, hr⟩ := h.progress_of_phase hphase
  have hok : ∀ r', (if r < cfg.numRounds then Phase.afterRound r else .returned) =
      .afterRound r' → r' = r ∧ (none : Option FailureKind) = none := by
    intro r' heq
    split at heq
    · cases heq
      exact ⟨rfl, rfl⟩
    · cases heq
  simpa [okRound] using h.attempt hlen hr none (by simp) (progress_roundOk (by omega) hr) hok
    fun hfast => ⟨h.clean (by simp [hphase]) hfast, Or.inl rfl⟩

theorem Ledger.roundFailed (h : Ledger cfg as ss client) {sent : Nat} {kind : FailureKind}
    (hphase : client.phase = .inRound r sent)
    (hkind : kind ∈ FailureKind.tooManyTopics :: roundFailures) :
    Ledger cfg (as ++ [(r, some kind)]) ss { client with
      phase := if cfg.failFast then .returned else startRound cfg (r + 1)
      failures := client.failures ++ [kind] } := by
  obtain ⟨rfl, hlen, hr⟩ := h.progress_of_phase hphase
  have hok : ∀ r', (if cfg.failFast = true then Phase.returned else startRound cfg (r + 1)) =
      .afterRound r' → r' = r ∧ some kind = none := by
    intro r' heq
    split at heq
    · cases heq
    · exact absurd heq (startRound_ne_afterRound cfg r')
  simpa [okRound] using h.attempt hlen hr (some kind) (by simpa using hkind)
    (progress_roundFailed hr) hok
    fun hfast => ⟨h.clean (by simp [hphase]) hfast, Or.inr (by rw [hfast]; rfl)⟩

/-- A round is over, and a peer has failed. -/
theorem Ledger.peerFailed (h : Ledger cfg as ss client) (hphase : client.phase = .afterRound r) :
    Ledger cfg as (ss ++ [.peerFailed])
      { client with phase := .returned, failures := client.failures ++ [.peerFailed] } := by
  obtain ⟨rfl, hdone, hpos, hlt⟩ := h.progress_of_phase hphase
  exact h.stop (by simp [hphase]) (.between (Or.inl rfl) (by omega) (by omega))

/-- **Every move keeps the ledger of its client.** -/
theorem Ledger.own {e : RingEvent n} (h : Ledger cfg as ss (s.clients (RingEvent.client e)))
    (hstep : step cfg s e = some t) :
    Ledger cfg (as ++ (Ring.attempt e).toList) (ss ++ (stopRecord e).toList)
      (t.clients (RingEvent.client e)) := by
  have hlive := step_live hstep
  cases e with
  | arrive c r g =>
      obtain ⟨hphase, -, rfl⟩ := step_arrive hstep
      have hprogress := h.progress_of_phase hphase
      simpa [RingEvent.client, Ring.attempt, stopRecord, setClient] using
        h.rephase hlive (.waiting r g (decide (g < (s.barrier.arrive n).generation))) hprogress
          (by simp)
  | pass c r g =>
      obtain ⟨⟨leader, hphase⟩, -, rfl⟩ := step_pass hstep
      simpa [RingEvent.client, Ring.attempt, stopRecord] using h.pass hphase
  | timedOut c r g =>
      obtain ⟨hphase, rfl⟩ := step_timedOut hstep
      simpa [RingEvent.client, Ring.attempt, stopRecord, setClient] using h.timedOut hphase
  | submit c r i =>
      obtain ⟨hphase, -, rfl⟩ := step_submit hstep
      have hprogress := h.progress_of_phase hphase
      simpa [RingEvent.client, Ring.attempt, stopRecord] using
        h.rephase hlive (.inRound r (i + 1)) hprogress (by simp)
  | roundOk c r =>
      obtain ⟨hphase, rfl⟩ := step_roundOk hstep
      simpa [RingEvent.client, Ring.attempt, stopRecord] using h.roundOk hphase
  | roundFailed c r kind =>
      obtain ⟨⟨sent, hphase⟩, hkind, rfl⟩ := step_roundFailed hstep
      simpa [RingEvent.client, Ring.attempt, stopRecord, setClient] using h.roundFailed hphase hkind
  | load c r flag =>
      obtain ⟨hphase, -, ⟨rfl, rfl⟩ | ⟨rfl, rfl⟩⟩ := step_load hstep
      · simpa [RingEvent.client, Ring.attempt, stopRecord] using h.peerFailed hphase
      · obtain ⟨rfl, hdone, hpos, hlt⟩ := h.progress_of_phase hphase
        simpa [RingEvent.client, Ring.attempt, stopRecord] using
          h.rephase hlive (.atBarrier r) ⟨rfl, hdone, Or.inr hlt⟩ (by simp)

/-- **Every move keeps every ledger.** -/
theorem Ledger.move {e : RingEvent n}
    (h : Ledger cfg (attempts τ c) (stops τ c) (s.clients c)) (hstep : step cfg s e = some t) :
    Ledger cfg (attempts (τ ++ [e]) c) (stops (τ ++ [e]) c) (t.clients c) := by
  by_cases hc : RingEvent.client e = c
  · rw [attempts_snoc_own hc, stops_snoc_own hc]
    subst hc
    exact h.own hstep
  · rw [attempts_snoc_other hc, stops_snoc_other hc, step_other hstep hc]
    exact h

theorem RingRun.ledger (h : RingRun cfg n τ s) (c : Fin n) :
    Ledger cfg (attempts τ c) (stops τ c) (s.clients c) :=
  h.rule (fun τ s => Ledger cfg (attempts τ c) (stops τ c) (s.clients c)) Ledger.start
    fun _ _ _ _ hledger hstep => hledger.move hstep

/-- A client keeps a success for each round that it has completed. -/
theorem mem_successes (h : RingRun cfg n τ s) :
    r ∈ (s.clients c).successes ↔ .roundOk c r ∈ τ := by
  rw [(RingRun.ledger h c).successes, attempts, List.filterMap_filterMap, List.mem_filterMap]
  constructor
  · intro hmem
    obtain ⟨e, hmove, hround⟩ := hmem
    obtain ⟨he, hown⟩ := List.mem_filter.mp hmove
    have hc : RingEvent.client e = c := of_decide_eq_true hown
    cases e with
    | roundOk d r' =>
        obtain rfl : d = c := hc
        obtain rfl : r' = r := Option.some.inj hround
        exact he
    | _ => cases hround
  · intro hmem
    exact ⟨.roundOk c r, List.mem_filter.mpr ⟨hmem, decide_eq_true rfl⟩, rfl⟩

/-- A submission belongs to a round gone through, or to the one in progress. -/
theorem RingRun.submit_attempted (h : RingRun cfg n τ s) (c : Fin n) :
    ∀ r i, .submit c r i ∈ τ →
      r ≤ (attempts τ c).length ∨ ∃ sent, (s.clients c).phase = .inRound r sent := by
  refine (h.rule (fun τ s => Ledger cfg (attempts τ c) (stops τ c) (s.clients c) ∧
    ∀ r i, .submit c r i ∈ τ →
      r ≤ (attempts τ c).length ∨ ∃ sent, (s.clients c).phase = .inRound r sent)
    ⟨Ledger.start, by simp⟩ ?_).2
  intro τ s e t hboth hstep
  obtain ⟨hledger, hsent⟩ := hboth
  refine ⟨hledger.move hstep, fun r i hmem => ?_⟩
  rcases List.mem_append.mp hmem with hold | hnew
  · by_cases hc : RingEvent.client e = c
    · rw [attempts_snoc_own hc, List.length_append]
      rcases hsent r i hold with hdone | ⟨sent, hphase⟩
      · exact Or.inl (Nat.le_add_right_of_le hdone)
      -- the round in progress goes on, or ends and is counted
      have hprogress := hledger.progress
      rw [hphase] at hprogress
      obtain ⟨-, hlen, -⟩ := hprogress
      rcases step_inRound hc hphase hstep with hnext | rfl | ⟨kind, rfl⟩
      · exact Or.inr ⟨_, hnext⟩
      · exact Or.inl (by simp [Ring.attempt]; omega)
      · exact Or.inl (by simp [Ring.attempt]; omega)
    · rw [attempts_snoc_other hc, step_other hstep hc]
      exact hsent r i hold
  · obtain rfl := List.mem_singleton.mp hnew
    obtain ⟨-, -, rfl⟩ := step_submit hstep
    exact Or.inr ⟨_, congrArg Client.phase (setClient_self s c _)⟩

/-! ## The account of a `ClientResult` -/

/-- What the two lists of a client that has returned say. -/
structure ClientRecords (cfg : RingConfig) (τ : List (RingEvent n)) (c : Fin n)
    (client : Client) : Prop where
  /-- the rounds it went through, each once, in order -/
  rounds : (attempts τ c).map (·.1) = roundsUpTo (attempts τ c).length
  bound : (attempts τ c).length ≤ cfg.numRounds
  /-- and no others -/
  submitted : ∀ r i, .submit c r i ∈ τ → r ≤ (attempts τ c).length
  successes : client.successes = (attempts τ c).filterMap okRound
  failures : client.failures = (attempts τ c).filterMap (·.2) ++ stops τ c
  /-- the failures of its rounds are those that `execute_round` returns -/
  kinds : ∀ kind ∈ (attempts τ c).filterMap (·.2),
    kind ∈ FailureKind.tooManyTopics :: roundFailures
  stopped : Stopped cfg.numRounds (attempts τ c).length (stops τ c)
  increasing : client.successes.Pairwise (· < ·)
  range : ∀ r ∈ client.successes, 1 ≤ r ∧ r ≤ cfg.numRounds
  startup : .startupSyncTimeout ∈ client.failures →
    client.successes = [] ∧ client.failures = [.startupSyncTimeout]
  atMost : client.successes.length + client.failures.length ≤ max 1 cfg.numRounds
  complete : cfg.failFast = false → (∀ kind ∈ client.failures, kind.isStop = false) →
    client.successes.length + client.failures.length = cfg.numRounds

theorem Stopped.length_le {numRounds done : Nat} {ss : List FailureKind}
    (h : Stopped numRounds done ss) (hdone : done ≤ numRounds) :
    done + ss.length ≤ max 1 numRounds := by
  cases h with
  | no => simp; omega
  | startup hzero => simp; omega
  | between _ _ hlt => simp; omega

theorem Stopped.eq_nil {numRounds done : Nat} {ss : List FailureKind}
    (h : Stopped numRounds done ss) (hnone : ∀ kind ∈ ss, kind.isStop = false) : ss = [] := by
  cases h with
  | no => rfl
  | startup _ => exact absurd (hnone _ (List.mem_singleton_self _)) (by decide)
  | @between kind hkind _ _ =>
      have := hnone kind (List.mem_singleton_self _)
      rcases hkind with rfl | rfl <;> cases this

/-- The records of a returned client, from its ledger. -/
theorem Ledger.records (h : Ledger cfg (attempts τ c) (stops τ c) client)
    (hret : client.phase = .returned)
    (hsent : ∀ r i, .submit c r i ∈ τ → r ≤ (attempts τ c).length) :
    ClientRecords cfg τ c client := by
  have hsplit := attempts_split (attempts τ c)
  have hcount : client.successes.length + client.failures.length =
      (attempts τ c).length + (stops τ c).length := by
    rw [h.successes, h.failures, List.length_append, ← hsplit]
    omega
  have hsub : client.successes.Sublist (roundsUpTo (attempts τ c).length) := by
    rw [h.successes, ← h.rounds]
    exact okRound_sublist _
  refine ⟨h.rounds, h.bound, hsent, h.successes, h.failures, h.kinds, h.stopped, ?_, ?_, ?_, ?_, ?_⟩
  · exact (List.pairwise_lt_range').sublist hsub
  · intro r hr
    obtain ⟨hpos, hle⟩ := mem_roundsUpTo.mp (hsub.subset hr)
    exact ⟨hpos, hle.trans h.bound⟩
  · intro hstartup
    rw [h.failures, List.mem_append] at hstartup
    rcases hstartup with hround | hstop
    · exact absurd (isStop_of_mem_round (h.kinds _ hround)) (by decide)
    · have hnone : ∀ ss, Stopped cfg.numRounds (attempts τ c).length ss →
          .startupSyncTimeout ∈ ss → attempts τ c = [] ∧ ss = [.startupSyncTimeout] := by
        intro ss hstopped hmem
        cases hstopped with
        | no => cases hmem
        | startup hzero => exact ⟨List.eq_nil_of_length_eq_zero hzero, rfl⟩
        | between hkind _ _ =>
            obtain rfl := List.mem_singleton.mp hmem
            rcases hkind with hcontra | hcontra <;> cases hcontra
      obtain ⟨has, hss⟩ := hnone _ h.stopped hstop
      rw [h.successes, h.failures, has, hss]
      exact ⟨rfl, rfl⟩
  · rw [hcount]
    exact h.stopped.length_le h.bound
  · intro hoff hnostop
    have hss : stops τ c = [] := by
      refine h.stopped.eq_nil fun kind hkind => hnostop kind ?_
      rw [h.failures]
      exact List.mem_append_right _ hkind
    have hprogress := h.progress
    rw [hret] at hprogress
    rw [hcount, hss, hprogress hss hoff]
    rfl

theorem RingRun.records (h : RingRun cfg n τ s) (hret : (s.clients c).phase = .returned) :
    ClientRecords cfg τ c (s.clients c) := by
  refine (RingRun.ledger h c).records hret fun r i hmem => ?_
  rcases RingRun.submit_attempted h c r i hmem with hdone | ⟨sent, hphase⟩
  · exact hdone
  · cases hret.symm.trans hphase

end Ledger

end Ring

end StatementStore
