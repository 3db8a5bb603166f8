import StatementStoreTools.RingBlame
import StatementStoreTools.RingReturns

/-!
# What a failure does to the ring

A failure raises `peer_failed`, and nothing lowers it again.  The flag is read
between two rounds only, so it takes effect once, at the end of the first
successful round after it.

* `ring_client_history` — the rounds of a client: first successes, then
  failures, then at most one more success, which is its last round;
* `ring_failure_contained` — from the moment the flag is up, every client
  completes at most one more round and arrives at the barrier at most once, and
  the barrier opens at most one more generation.
-/

namespace StatementStore

open CyclicBarrier Traces

namespace Ring

variable {n : Nat} {cfg : RingConfig} {s t : RingState n} {τ τ' : List (RingEvent n)} {c : Fin n}
  {e : RingEvent n} {numRounds : Nat}

/-! ## The rounds of one client -/

/-- How the rounds of a client have ended, in order. -/
def outcomes (τ : List (RingEvent n)) (c : Fin n) : List (Option FailureKind) :=
  (attempts τ c).map (·.2)

/-- The shape of the rounds of a client, with its stops and where it stands. -/
inductive History (numRounds : Nat) :
    List (Option FailureKind) → List FailureKind → Phase → Prop
  /-- no round has failed -/
  | clean {k : Nat} {stops : List FailureKind} {phase : Phase} :
      History numRounds (List.replicate k none) stops phase
  /-- from some round on all have failed -/
  | failing {k : Nat} {fails : List FailureKind} {phase : Phase} (hfails : fails ≠ [])
      (hphase : (∃ sent, phase = .inRound (k + fails.length + 1) sent) ∨ phase = .returned) :
      History numRounds (List.replicate k none ++ fails.map some) [] phase
  /-- after them a round has succeeded, and the flag has not been read yet -/
  | late {k : Nat} {fails : List FailureKind} (hfails : fails ≠ []) :
      History numRounds (List.replicate k none ++ fails.map some ++ [none]) []
        (.afterRound (k + fails.length + 1))
  /-- that round was the last one -/
  | finished {k : Nat} {fails : List FailureKind} (hfails : fails ≠ [])
      (hlast : k + fails.length + 1 = numRounds) :
      History numRounds (List.replicate k none ++ fails.map some ++ [none]) [] .returned
  /-- the client has stopped for the flag it has raised itself -/
  | stopped {k : Nat} {fails : List FailureKind} (hfails : fails ≠ [])
      (hlt : k + fails.length + 1 < numRounds) :
      History numRounds (List.replicate k none ++ fails.map some ++ [none]) [.peerFailed] .returned

section History

variable {os : List (Option FailureKind)} {ss ss' : List FailureKind} {phase phase' : Phase}
  {r k sent : Nat}

/-- A client that is at the barrier has not failed. -/
theorem History.away (h : History numRounds os ss phase)
    (hphase : ∀ r sent, phase ≠ .inRound r sent) (hafter : ∀ r, phase ≠ .afterRound r)
    (hlive : phase ≠ .returned) :
    History numRounds os ss' phase' := by
  cases h with
  | clean => exact .clean
  | failing hfails hp =>
      rcases hp with ⟨sent, rfl⟩ | rfl
      · exact absurd rfl (hphase _ _)
      · exact absurd rfl hlive
  | late hfails => exact absurd rfl (hafter _)
  | finished hfails hlast => exact absurd rfl hlive
  | stopped hfails hlt => exact absurd rfl hlive

/-- One more message. -/
theorem History.submit (h : History numRounds os ss (.inRound r sent)) :
    History numRounds os ss (.inRound r (sent + 1)) := by
  cases h with
  | clean => exact .clean
  | failing hfails hphase =>
      rcases hphase with ⟨sent', heq⟩ | heq
      · obtain ⟨rfl, -⟩ := Phase.inRound.inj heq
        exact .failing hfails (Or.inl ⟨_, rfl⟩)
      · cases heq

/-- A round succeeds. -/
theorem History.roundOk (h : History numRounds os ss (.inRound r sent)) (hr : r ≤ numRounds) :
    History numRounds (os ++ [none]) ss
      (if r < numRounds then .afterRound r else .returned) := by
  cases h with
  | @clean k =>
      rw [← List.replicate_succ']
      exact .clean
  | @failing k fails _ hfails hphase =>
      rcases hphase with ⟨sent', heq⟩ | heq
      · obtain ⟨rfl, -⟩ := Phase.inRound.inj heq
        split
        · exact .late hfails
        · exact .finished hfails (by omega)
      · cases heq

/-- A round fails. -/
theorem History.roundFailed {cfg : RingConfig} (h : History numRounds os [] (.inRound r sent))
    (hlen : os.length + 1 = r) (kind : FailureKind) :
    History numRounds (os ++ [some kind]) []
      (if cfg.failFast then .returned else startRound cfg (r + 1)) := by
  have hnext : (∃ sent, (if cfg.failFast then Phase.returned else startRound cfg (r + 1)) =
        .inRound (r + 1) sent) ∨
      (if cfg.failFast then Phase.returned else startRound cfg (r + 1)) = .returned := by
    unfold startRound
    split
    · exact Or.inr rfl
    · split
      · exact Or.inl ⟨0, rfl⟩
      · exact Or.inr rfl
  cases h with
  | @clean k =>
      rw [List.length_replicate] at hlen
      subst hlen
      exact @History.failing numRounds k [kind] _ (List.cons_ne_nil _ _) hnext
  | @failing k fails _ hfails hphase =>
      rcases hphase with ⟨sent', heq⟩ | heq
      · obtain ⟨rfl, -⟩ := Phase.inRound.inj heq
        rw [List.append_assoc, ← List.map_singleton (f := some), ← List.map_append]
        refine .failing (by simp) ?_
        rw [List.length_append]
        exact hnext
      · cases heq

/-- The flag is up. -/
theorem History.load (h : History numRounds os [] (.afterRound r)) (hr : r < numRounds) :
    History numRounds os [.peerFailed] .returned := by
  cases h with
  | clean => exact .clean
  | failing hfails hphase =>
      rcases hphase with ⟨sent, heq⟩ | heq
      · cases heq
      · cases heq
  | late hfails => exact .stopped hfails hr

/-- The flag is down, so nothing has failed. -/
theorem History.goOn (h : History numRounds os ss (.afterRound r))
    (hclean : ∀ kind, some kind ∉ os) : History numRounds os ss (.atBarrier r) := by
  cases h with
  | clean => exact .clean
  | failing hfails hphase =>
      rcases hphase with ⟨sent, heq⟩ | heq
      · cases heq
      · cases heq
  | @late k fails hfails =>
      obtain ⟨kind, hkind⟩ := List.exists_mem_of_ne_nil fails hfails
      exact absurd (by simp [hkind]) (hclean kind)

end History

theorem outcomes_snoc_other (h : RingEvent.client e ≠ c) :
    outcomes (τ ++ [e]) c = outcomes τ c := by
  rw [outcomes, attempts_snoc_other h, outcomes]

theorem outcomes_snoc_own (h : RingEvent.client e = c) :
    outcomes (τ ++ [e]) c = outcomes τ c ++ ((attempt e).map (·.2)).toList := by
  rw [outcomes, attempts_snoc_own h, List.map_append]
  cases attempt e with
  | none => rfl
  | some a => rfl

@[simp] theorem outcomes_length (τ : List (RingEvent n)) (c : Fin n) :
    (outcomes τ c).length = (attempts τ c).length := by
  simp [outcomes]

/-- Once raised, the flag stays up. -/
theorem step_flag (h : step cfg s e = some t) (hflag : s.peerFailed = true) :
    t.peerFailed = true := by
  cases e with
  | arrive c r g =>
      obtain ⟨-, -, rfl⟩ := step_arrive h
      exact hflag
  | pass c r g =>
      obtain ⟨-, -, rfl⟩ := step_pass h
      exact hflag
  | timedOut c r g =>
      obtain ⟨-, rfl⟩ := step_timedOut h
      rfl
  | submit c r i =>
      obtain ⟨-, -, rfl⟩ := step_submit h
      exact hflag
  | roundOk c r =>
      obtain ⟨-, rfl⟩ := step_roundOk h
      exact hflag
  | roundFailed c r kind =>
      obtain ⟨-, -, rfl⟩ := step_roundFailed h
      rfl
  | load c r flag =>
      obtain ⟨-, -, ⟨-, rfl⟩ | ⟨-, rfl⟩⟩ := step_load h
      · exact hflag
      · exact hflag

/-- A client that has failed a round has a failure. -/
theorem failures_of_outcome {kind : FailureKind} (h : RingRun cfg n τ s)
    (hmem : some kind ∈ outcomes τ c) : (s.clients c).failures ≠ [] := by
  rw [(RingRun.ledger h c).failures]
  obtain ⟨a, ha, hkind⟩ := List.mem_map.mp hmem
  have hin : kind ∈ (attempts τ c).filterMap (·.2) := List.mem_filterMap.mpr ⟨a, ha, hkind⟩
  intro hnil
  rw [(List.append_eq_nil_iff.mp hnil).1] at hin
  cases hin

theorem flag_of_failures (h : RingRun cfg n τ s) (hfailed : (s.clients c).failures ≠ []) :
    s.peerFailed = true := by
  have : Nonempty (Fin n) := ⟨c⟩
  obtain ⟨arrivals, hinv⟩ := RingRun.inv h
  exact hinv.sticky c hfailed

/-- **A move of the client itself.** -/
theorem History.own (h : RingRun cfg n τ s)
    (hist : History cfg.numRounds (outcomes τ (RingEvent.client e)) (stops τ (RingEvent.client e))
      (s.clients (RingEvent.client e)).phase) (hstep : step cfg s e = some t) :
    History cfg.numRounds (outcomes (τ ++ [e]) (RingEvent.client e))
      (stops (τ ++ [e]) (RingEvent.client e)) (t.clients (RingEvent.client e)).phase := by
  rw [outcomes_snoc_own rfl, stops_snoc_own rfl]
  have hledger := RingRun.ledger h (RingEvent.client e)
  have hprogress := hledger.progress
  cases e with
  | arrive c r g =>
      obtain ⟨hphase, -, rfl⟩ := step_arrive hstep
      simp only [RingEvent.client, hphase] at hist
      simp only [attempt, Option.map_none, Option.toList_none, List.append_nil]
      exact hist.away (by simp) (by simp) (by simp)
  | pass c r g =>
      obtain ⟨⟨leader, hphase⟩, -, rfl⟩ := step_pass hstep
      simp only [RingEvent.client, hphase] at hist
      simp only [attempt, Option.map_none, Option.toList_none, List.append_nil]
      exact hist.away (by simp) (by simp) (by simp)
  | timedOut c r g =>
      obtain ⟨hphase, rfl⟩ := step_timedOut hstep
      simp only [RingEvent.client, hphase] at hist
      simp only [attempt, Option.map_none, Option.toList_none, List.append_nil]
      exact hist.away (by simp) (by simp) (by simp)
  | submit c r i =>
      obtain ⟨hphase, -, rfl⟩ := step_submit hstep
      simp only [RingEvent.client, hphase] at hist
      simpa [RingEvent.client, attempt, stopRecord] using hist.submit
  | roundOk c r =>
      obtain ⟨hphase, rfl⟩ := step_roundOk hstep
      simp only [RingEvent.client, hphase] at hist hprogress
      obtain ⟨-, -, hr⟩ := hprogress
      simpa [RingEvent.client, attempt, stopRecord] using hist.roundOk hr
  | roundFailed c r kind =>
      obtain ⟨⟨sent, hphase⟩, -, rfl⟩ := step_roundFailed hstep
      simp only [RingEvent.client, hphase] at hist hprogress
      obtain ⟨hnone, hlen, -⟩ := hprogress
      rw [hnone] at hist
      rw [← outcomes_length] at hlen
      simpa [RingEvent.client, attempt, stopRecord, setClient, hnone] using
        @History.roundFailed _ _ _ _ cfg hist hlen kind
  | load c r flag =>
      obtain ⟨hphase, hflag, hcases⟩ := step_load hstep
      simp only [RingEvent.client, hphase] at hist hprogress
      obtain ⟨hnone, -, -, hr⟩ := hprogress
      rcases hcases with ⟨rfl, rfl⟩ | ⟨rfl, rfl⟩
      · rw [hnone] at hist
        simpa [RingEvent.client, attempt, stopRecord, hnone] using hist.load hr
      · have hclean : ∀ kind, some kind ∉ outcomes τ c := by
          intro kind hmem
          have hup := flag_of_failures h (failures_of_outcome h hmem)
          exact absurd (hflag.trans hup) (by simp)
        simpa [RingEvent.client, attempt, stopRecord] using hist.goOn hclean

/-- **The rounds of a client.**  Whatever the others do, they are successes,
then failures, then at most one success; with that one the client ends, because
there is no further round or because it finds the flag raised. -/
theorem ring_client_history (h : RingRun cfg n τ s) (c : Fin n) :
    History cfg.numRounds (outcomes τ c) (stops τ c) (s.clients c).phase := by
  refine (h.rule (fun τ s => RingRun cfg n τ s ∧
    History cfg.numRounds (outcomes τ c) (stops τ c) (s.clients c).phase) ?init ?one).2
  case init => exact ⟨Run.nil, @History.clean _ 0 _ _⟩
  case one =>
    intro τ s e t hboth hstep
    obtain ⟨hrun, hist⟩ := hboth
    refine ⟨Run.snoc hrun hstep, ?_⟩
    by_cases hc : RingEvent.client e = c
    · subst hc
      exact hist.own hrun hstep
    · rw [outcomes_snoc_other hc, stops_snoc_other hc, step_other hstep hc]
      exact hist

/-- Two clients enter the first round, and the second one fails it. -/
def firstFailure (a b : Fin 2) : List (RingEvent 2) :=
  [.arrive a 0 0, .arrive b 0 0, .pass a 0 0, .pass b 0 0, .roundFailed b 1 .submitFailed]

/-- Both complete one more round, and find the flag raised. -/
def lastRounds (a b : Fin 2) : List (RingEvent 2) :=
  [.submit a 1 0, .roundOk a 1, .load a 1 true, .submit b 2 0, .roundOk b 2, .load b 2 true]

theorem ring_client_history_lastRounds :
    ∃ s, RingRun ⟨3, 1, false⟩ 2 (firstFailure 0 1 ++ lastRounds 0 1) s ∧
      outcomes (firstFailure 0 1 ++ lastRounds 0 1) 1 = [some .submitFailed, none] ∧
      History 3 (outcomes (firstFailure 0 1 ++ lastRounds 0 1) 1)
        (stops (firstFailure 0 1 ++ lastRounds 0 1) 1) (s.clients 1).phase := by
  obtain ⟨s, hs⟩ : ∃ s, exec (step ⟨3, 1, false⟩) (initial 2)
      (firstFailure 0 1 ++ lastRounds 0 1) = some s := Option.isSome_iff_exists.mp (by decide)
  exact ⟨s, run_of_exec hs, by decide, ring_client_history (run_of_exec hs) 1⟩

/-! ## After the flag is up -/

/-- The end of a successful round. -/
def isSuccess : RingEvent n → Bool
  | .roundOk _ _ => true
  | _ => false

/-- An arrival at the barrier. -/
def isArrival : RingEvent n → Bool
  | .arrive _ _ _ => true
  | _ => false

/-- How many more rounds a client can complete when the flag is up. -/
def roundsAhead : Phase → Nat
  | .atBarrier _ => 1
  | .waiting _ _ _ => 1
  | .inRound _ _ => 1
  | .afterRound _ => 0
  | .returned => 0

/-- How many more times it can arrive at the barrier. -/
def arrivalsAhead : Phase → Nat
  | .atBarrier _ => 1
  | _ => 0

@[simp] theorem roundsAhead_inRound (r sent : Nat) : roundsAhead (.inRound r sent) = 1 := rfl

theorem roundsAhead_startRound_le (cfg : RingConfig) (r : Nat) :
    roundsAhead (startRound cfg r) ≤ 1 := by
  unfold startRound
  split
  · exact Nat.le_refl _
  · exact Nat.zero_le _

@[simp] theorem arrivalsAhead_startRound (cfg : RingConfig) (r : Nat) :
    arrivalsAhead (startRound cfg r) = 0 := by
  unfold startRound
  split
  · rfl
  · rfl

/-- **What a move costs when the flag is up.** -/
theorem step_flagged (hflag : s.peerFailed = true) (h : step cfg s e = some t) :
    (roundsAhead (t.clients (RingEvent.client e)).phase + (isSuccess e).toNat ≤
        roundsAhead (s.clients (RingEvent.client e)).phase) ∧
      (arrivalsAhead (t.clients (RingEvent.client e)).phase + (isArrival e).toNat ≤
        arrivalsAhead (s.clients (RingEvent.client e)).phase) ∧
      (cfg.failFast = true → roundsAhead (t.clients (RingEvent.client e)).phase +
        (attempt e).isSome.toNat ≤ roundsAhead (s.clients (RingEvent.client e)).phase) := by
  cases e with
  | arrive c r g =>
      obtain ⟨hphase, -, rfl⟩ := step_arrive h
      simp [RingEvent.client, setClient, hphase, roundsAhead, arrivalsAhead, isSuccess, isArrival,
        attempt]
  | pass c r g =>
      obtain ⟨⟨leader, hphase⟩, -, rfl⟩ := step_pass h
      have hnext := roundsAhead_startRound_le cfg (r + 1)
      simpa [RingEvent.client, hphase, isSuccess, isArrival, attempt] using
        ⟨hnext, fun _ => hnext⟩
  | timedOut c r g =>
      obtain ⟨hphase, rfl⟩ := step_timedOut h
      simp [RingEvent.client, setClient, hphase, roundsAhead, arrivalsAhead, isSuccess, isArrival,
        attempt]
  | submit c r i =>
      obtain ⟨hphase, -, rfl⟩ := step_submit h
      simp [RingEvent.client, hphase, roundsAhead, arrivalsAhead, isSuccess, isArrival, attempt]
  | roundOk c r =>
      obtain ⟨hphase, rfl⟩ := step_roundOk h
      have hnone : roundsAhead (if r < cfg.numRounds then .afterRound r else .returned) = 0 := by
        split <;> rfl
      have haway : arrivalsAhead (if r < cfg.numRounds then .afterRound r else .returned) = 0 := by
        split <;> rfl
      simp [RingEvent.client, hphase, hnone, haway, isSuccess, isArrival, attempt]
  | roundFailed c r kind =>
      obtain ⟨⟨sent, hphase⟩, -, rfl⟩ := step_roundFailed h
      have hnext := roundsAhead_startRound_le cfg (r + 1)
      cases hfast : cfg.failFast with
      | true =>
          simp [RingEvent.client, setClient, hphase, roundsAhead, arrivalsAhead, isSuccess,
            isArrival, attempt]
      | false =>
          simpa [RingEvent.client, setClient, hphase, isSuccess, isArrival] using hnext
  | load c r flag =>
      obtain ⟨hphase, hread, ⟨-, rfl⟩ | ⟨rfl, rfl⟩⟩ := step_load h
      · simp [RingEvent.client, hphase, roundsAhead, arrivalsAhead, isSuccess, isArrival, attempt]
      · exact absurd (hread.trans hflag) (by simp)

/-- The moves of a client that cost it `rank` under a raised flag. -/
theorem countsDown_flagged (c : Fin n) {own : RingEvent n → Bool} {rank : Phase → Nat}
    (hcost : ∀ {s t : RingState n} {e : RingEvent n}, s.peerFailed = true → step cfg s e = some t →
      rank (t.clients (RingEvent.client e)).phase + (own e).toNat ≤
        rank (s.clients (RingEvent.client e)).phase) :
    CountsDown (step cfg) (fun s => s.peerFailed = true)
      (fun e => own e = true ∧ RingEvent.client e = c) (fun s => rank (s.clients c).phase) where
  keeps := by
    intro s t e hflag hstep
    exact step_flag hstep hflag
  falls := by
    intro s t e hflag hstep hown
    obtain ⟨hon, hc⟩ := hown
    have hle := hcost hflag hstep
    rw [hon, hc, Bool.toNat_true] at hle
    exact hle
  others := by
    intro s t e hflag hstep _
    by_cases hc : RingEvent.client e = c
    · have hle := hcost hflag hstep
      rw [hc] at hle
      exact (Nat.le_add_right _ _).trans hle
    · rw [step_other hstep hc]

theorem moves_flagged {own : RingEvent n → Bool} {rank : Phase → Nat}
    (hcost : ∀ {s t : RingState n} {e : RingEvent n}, s.peerFailed = true → step cfg s e = some t →
      rank (t.clients (RingEvent.client e)).phase + (own e).toNat ≤
        rank (s.clients (RingEvent.client e)).phase)
    (hone : ∀ phase, rank phase ≤ 1) (hflag : s.peerFailed = true) (h : Run (step cfg) s τ t)
    (c : Fin n) : (movesOf τ c).countP own ≤ 1 := by
  have hrun := (countsDown_flagged c hcost).run hflag h
  rw [movesOf, List.countP_filter]
  have hstart := hone (s.clients c).phase
  simp only [Bool.decide_and, Bool.decide_eq_true] at hrun
  omega

theorem failuresIn_append (h : failuresIn τ c ≠ []) : failuresIn (τ ++ τ') c ≠ [] := by
  induction τ' using List.reverseRecOn with
  | nil => simpa using h
  | append_singleton τ' e ih =>
      rw [← List.append_assoc]
      exact failuresIn_snoc ih

/-- An arrival is at a generation that the barrier has reached. -/
theorem arrive_generation_le (h : RingRun cfg n τ s) :
    ∀ c r g, .arrive c r g ∈ τ → g ≤ s.barrier.generation := by
  refine h.rule (fun τ s => ∀ c r g, .arrive c r g ∈ τ → g ≤ s.barrier.generation) (by simp) ?one
  case one =>
    intro τ s e t ih hstep c r g hmem
    have hgen := step_generation_le hstep
    rcases List.mem_append.mp hmem with hold | hnew
    · exact (ih c r g hold).trans hgen
    · obtain rfl := List.mem_singleton.mp hnew
      obtain ⟨-, hg, -⟩ := step_arrive hstep
      exact hg.le.trans hgen

/-- A client that has failed does not arrive any more. -/
theorem no_arrival_after_failure (h : RingRun cfg n τ s) (h' : Run (step cfg) s τ' t)
    (hfailed : failuresIn τ c ≠ []) (r g : Nat) : .arrive c r g ∉ τ' := by
  intro hmem
  have : Nonempty (Fin n) := ⟨c⟩
  obtain ⟨before, after, rfl⟩ := List.append_of_mem hmem
  obtain ⟨u, u', hrun, hstep⟩ := h'.split rfl
  have hreach := h.append hrun
  obtain ⟨arrivals, hinv⟩ := RingRun.inv hreach
  have hstand := hinv.standing c
  simp only [Standing, (step_arrive hstep).1] at hstand
  have hstill := @failuresIn_append n τ before c hfailed
  rw [RingRun.failuresIn_eq hreach] at hstill
  exact hstill hstand.1

/-- **A failure is contained.**  From the moment the flag is up, whatever the
interleaving: a client completes at most one more round, it arrives at the
barrier at most once more, with `fail_fast` it attempts at most one more round,
and the barrier is released at most once more. -/
theorem ring_failure_contained (h : RingRun cfg n τ s) (hflag : s.peerFailed = true)
    (h' : Run (step cfg) s τ' t) :
    (∀ c, (movesOf τ' c).countP isSuccess ≤ 1 ∧ (movesOf τ' c).countP isArrival ≤ 1 ∧
      (cfg.failFast = true → (attempts τ' c).length ≤ 1)) ∧
    t.barrier.generation ≤ s.barrier.generation + 1 := by
  have hrounds : ∀ phase, roundsAhead phase ≤ 1 := by
    intro phase
    cases phase <;> simp [roundsAhead]
  have harrivals : ∀ phase, arrivalsAhead phase ≤ 1 := by
    intro phase
    cases phase <;> simp [arrivalsAhead]
  refine ⟨fun c => ⟨?_, ?_, fun hfast => ?_⟩, ?_⟩
  · exact moves_flagged (fun hup hstep => (step_flagged hup hstep).1) hrounds hflag h' c
  · exact moves_flagged (fun hup hstep => (step_flagged hup hstep).2.1) harrivals hflag h' c
  · have hle := moves_flagged (fun hup hstep => (step_flagged hup hstep).2.2 hfast) hrounds hflag
      h' c
    rwa [attempts, List.length_filterMap_eq_countP]
  · obtain ⟨d, hd⟩ := flag_attributed h hflag
    have : Nonempty (Fin n) := ⟨d⟩
    obtain ⟨arrivals, hinv⟩ := RingRun.inv (h.append h')
    by_contra hgen
    have hlow := hinv.accounts.lower d
    -- the failed client would have arrived at the generation after the open one
    have harrive := ((hinv.recorded d).arrivals (s.barrier.generation + 1) (by omega)).1
    rcases List.mem_append.mp harrive with hold | hnew
    · have hle := arrive_generation_le h d _ _ hold
      omega
    · exact no_arrival_after_failure h h' hd _ _ hnew

theorem ring_failure_contained_lastRounds :
    ∃ s t, RingRun ⟨3, 1, false⟩ 2 (firstFailure 0 1) s ∧ s.peerFailed = true ∧
      Run (step ⟨3, 1, false⟩) s (lastRounds 0 1) t ∧
      t.barrier.generation ≤ s.barrier.generation + 1 := by
  obtain ⟨s, hs, hflag⟩ : ∃ s, exec (step ⟨3, 1, false⟩) (initial 2) (firstFailure 0 1) = some s ∧
      s.peerFailed = true := by
    refine ⟨_, rfl, ?_⟩
    decide
  obtain ⟨t, ht⟩ : ∃ t, exec (step ⟨3, 1, false⟩) s (lastRounds 0 1) = some t := by
    obtain rfl := Option.some.inj (hs.symm.trans rfl)
    exact Option.isSome_iff_exists.mp (by decide)
  exact ⟨s, t, run_of_exec hs, hflag, run_of_exec ht,
    (ring_failure_contained (run_of_exec hs) hflag (run_of_exec ht)).2⟩

end Ring

end StatementStore
