import StatementStoreTools.CyclicBarrier
import StatementStoreTools.ExecuteRound
import StatementStoreTools.Traces

/-!
# The clients of the ring benchmark

`run_client`, run by `n` clients that share one barrier and the `peer_failed`
flag, as a step relation.  An event is one client's move between two points
where another client may come in between: arriving at the barrier, getting
past it, giving up on it, submitting a statement, ending a round, reading the
flag.  How a round ends and which waits time out is left open.

A wait that the arrival itself completes (the leader's) returns at once and
cannot time out; any other wait may time out at any moment, also when its
generation has just been released.  `num_rounds + 1` does not overflow: no
vector of that capacity can be allocated.
-/

namespace StatementStore

open CyclicBarrier Traces

/-- Where a client stands in `run_client`.  Round `0` stands for the startup. -/
inductive Phase
  /-- about to call `barrier.wait()` after round `r` -/
  | atBarrier (r : Nat)
  /-- has arrived at generation `g` of the barrier after round `r` -/
  | waiting (r g : Nat) (leader : Bool)
  /-- in round `r`, with `sent` statements submitted -/
  | inRound (r sent : Nat)
  /-- has completed round `r`, not the last one, and is about to read `peer_failed` -/
  | afterRound (r : Nat)
  /-- has returned its `ClientResult` -/
  | returned
deriving DecidableEq, Repr

/-- The round a phase is in the middle of. -/
def Phase.running : Phase → Option Nat
  | .inRound r _ => some r
  | _ => none

/-- One client and the records of its `ClientResult`; a success is kept by its
round. -/
structure Client where
  phase : Phase
  successes : List Nat
  failures : List FailureKind
deriving DecidableEq, Repr

/-- The settings that all clients share. -/
structure RingConfig where
  numRounds : Nat
  /-- how many messages a client sends in a round -/
  messages : Nat
  failFast : Bool

structure RingState (n : Nat) where
  clients : Fin n → Client
  barrier : Barrier
  peerFailed : Bool

/-- One move of one client. -/
inductive RingEvent (n : Nat)
  | arrive (c : Fin n) (r g : Nat)
  | pass (c : Fin n) (r g : Nat)
  | timedOut (c : Fin n) (r g : Nat)
  | submit (c : Fin n) (r i : Nat)
  | roundOk (c : Fin n) (r : Nat)
  | roundFailed (c : Fin n) (r : Nat) (kind : FailureKind)
  | load (c : Fin n) (r : Nat) (flag : Bool)
deriving DecidableEq

namespace Ring

variable {n : Nat}

/-- Every client is about to arrive at the startup barrier. -/
def initial (n : Nat) : RingState n where
  clients _ := ⟨.atBarrier 0, [], []⟩
  barrier := Barrier.fresh
  peerFailed := false

/-- The head of `for round in 1..(num_rounds + 1)`. -/
def startRound (cfg : RingConfig) (r : Nat) : Phase :=
  if r ≤ cfg.numRounds then .inRound r 0 else .returned

/-- The failure that a timed-out wait records. -/
def syncTimeout (r : Nat) : FailureKind :=
  if r = 0 then .startupSyncTimeout else .interRoundSyncTimeout

/-- Replace one client. -/
def setClient (s : RingState n) (c : Fin n) (client : Client) : RingState n :=
  { s with clients := Function.update s.clients c client }

/-- One move, if the client can make it. -/
def step (cfg : RingConfig) (s : RingState n) : RingEvent n → Option (RingState n)
  | .arrive c r g =>
      let client := s.clients c
      if client.phase = .atBarrier r ∧ g = s.barrier.generation then
        let barrier := s.barrier.arrive n
        let leader := decide (g < barrier.generation)
        some { setClient s c { client with phase := .waiting r g leader } with barrier }
      else none
  | .pass c r g =>
      let client := s.clients c
      if (client.phase = .waiting r g true ∨ client.phase = .waiting r g false) ∧
          g < s.barrier.generation then
        some (setClient s c { client with phase := startRound cfg (r + 1) })
      else none
  | .timedOut c r g =>
      let client := s.clients c
      if client.phase = .waiting r g false then
        some { setClient s c { client with
                phase := .returned
                failures := client.failures ++ [syncTimeout r] } with
          peerFailed := true }
      else none
  | .submit c r i =>
      let client := s.clients c
      if client.phase = .inRound r i ∧ i < cfg.messages then
        some (setClient s c { client with phase := .inRound r (i + 1) })
      else none
  | .roundOk c r =>
      let client := s.clients c
      if client.phase = .inRound r cfg.messages then
        some (setClient s c { client with
          phase := if r < cfg.numRounds then .afterRound r else .returned
          successes := client.successes ++ [r] })
      else none
  | .roundFailed c r kind =>
      let client := s.clients c
      if client.phase.running = some r ∧ kind ∈ FailureKind.tooManyTopics :: roundFailures then
        some { setClient s c { client with
                phase := if cfg.failFast then .returned else startRound cfg (r + 1)
                failures := client.failures ++ [kind] } with
          peerFailed := true }
      else none
  | .load c r flag =>
      let client := s.clients c
      if client.phase = .afterRound r ∧ flag = s.peerFailed then
        if flag then
          some (setClient s c { client with
            phase := .returned
            failures := client.failures ++ [.peerFailed] })
        else some (setClient s c { client with phase := .atBarrier r })
      else none

/-- A run of the whole benchmark. -/
abbrev RingRun (cfg : RingConfig) (n : Nat) (τ : List (RingEvent n)) (s : RingState n) : Prop :=
  Run (step cfg) (initial n) τ s

/-! ## What each move needs and does -/

section Moves

variable {cfg : RingConfig} {s t : RingState n} {c : Fin n} {r g i : Nat}

theorem step_arrive (h : step cfg s (.arrive c r g) = some t) :
    (s.clients c).phase = .atBarrier r ∧ g = s.barrier.generation ∧
      t = { setClient s c { s.clients c with
              phase := .waiting r g (decide (g < (s.barrier.arrive n).generation)) } with
        barrier := s.barrier.arrive n } := by
  simp only [step] at h
  split at h
  · rename_i hg
    exact ⟨hg.1, hg.2, (Option.some.inj h).symm⟩
  · cases h

theorem step_pass (h : step cfg s (.pass c r g) = some t) :
    (∃ leader, (s.clients c).phase = .waiting r g leader) ∧ g < s.barrier.generation ∧
      t = setClient s c { s.clients c with phase := startRound cfg (r + 1) } := by
  simp only [step] at h
  split at h
  · rename_i hg
    refine ⟨?_, hg.2, (Option.some.inj h).symm⟩
    rcases hg.1 with hw | hw
    · exact ⟨true, hw⟩
    · exact ⟨false, hw⟩
  · cases h

theorem step_timedOut (h : step cfg s (.timedOut c r g) = some t) :
    (s.clients c).phase = .waiting r g false ∧
      t = { setClient s c { s.clients c with
              phase := .returned
              failures := (s.clients c).failures ++ [syncTimeout r] } with
        peerFailed := true } := by
  simp only [step] at h
  split at h
  · rename_i hg
    exact ⟨hg, (Option.some.inj h).symm⟩
  · cases h

theorem step_submit (h : step cfg s (.submit c r i) = some t) :
    (s.clients c).phase = .inRound r i ∧ i < cfg.messages ∧
      t = setClient s c { s.clients c with phase := .inRound r (i + 1) } := by
  simp only [step] at h
  split at h
  · rename_i hg
    exact ⟨hg.1, hg.2, (Option.some.inj h).symm⟩
  · cases h

theorem step_roundOk (h : step cfg s (.roundOk c r) = some t) :
    (s.clients c).phase = .inRound r cfg.messages ∧
      t = setClient s c { s.clients c with
        phase := if r < cfg.numRounds then .afterRound r else .returned
        successes := (s.clients c).successes ++ [r] } := by
  simp only [step] at h
  split at h
  · rename_i hg
    exact ⟨hg, (Option.some.inj h).symm⟩
  · cases h

theorem step_roundFailed {kind : FailureKind} (h : step cfg s (.roundFailed c r kind) = some t) :
    (∃ sent, (s.clients c).phase = .inRound r sent) ∧
      kind ∈ FailureKind.tooManyTopics :: roundFailures ∧
      t = { setClient s c { s.clients c with
              phase := if cfg.failFast then .returned else startRound cfg (r + 1)
              failures := (s.clients c).failures ++ [kind] } with
        peerFailed := true } := by
  simp only [step] at h
  split at h
  · rename_i hg
    refine ⟨?_, hg.2, (Option.some.inj h).symm⟩
    cases hp : (s.clients c).phase <;> simp_all [Phase.running]
  · cases h

theorem step_load {flag : Bool} (h : step cfg s (.load c r flag) = some t) :
    (s.clients c).phase = .afterRound r ∧ flag = s.peerFailed ∧
      ((flag = true ∧ t = setClient s c { s.clients c with
          phase := .returned
          failures := (s.clients c).failures ++ [.peerFailed] }) ∨
        (flag = false ∧ t = setClient s c { s.clients c with phase := .atBarrier r })) := by
  simp only [step] at h
  split at h
  · rename_i hg
    refine ⟨hg.1, hg.2, ?_⟩
    cases flag with
    | true => exact Or.inl ⟨rfl, (Option.some.inj h).symm⟩
    | false => exact Or.inr ⟨rfl, (Option.some.inj h).symm⟩
  · cases h

end Moves

@[simp] theorem setClient_self (s : RingState n) (c : Fin n) (client : Client) :
    (setClient s c client).clients c = client := by
  simp [setClient]

@[simp] theorem setClient_of_ne (s : RingState n) {c d : Fin n} (h : d ≠ c) (client : Client) :
    (setClient s c client).clients d = s.clients d := by
  simp [setClient, h]

/-! ## The code of a round makes these moves -/

/-- The move with which a round ends. -/
def ending (c : Fin n) (r : Nat) : Except FailureKind RoundStats → RingEvent n
  | .ok _ => .roundOk c r
  | .error kind => .roundFailed c r kind

theorem run_submits (cfg : RingConfig) (s : RingState n) (c : Fin n) (r : Nat)
    (hs : (s.clients c).phase = .inRound r 0) :
    ∀ k ≤ cfg.messages, ∃ t, Run (step cfg) s ((List.range k).map (.submit c r)) t ∧
      (t.clients c).phase = .inRound r k := by
  intro k
  induction k with
  | zero => exact fun _ => ⟨s, Run.nil, hs⟩
  | succ k ih =>
      intro hk
      obtain ⟨t, hrun, ht⟩ := ih (by omega)
      refine ⟨setClient t c { t.clients c with phase := .inRound r (k + 1) }, ?_, by simp⟩
      rw [List.range_succ, List.map_append]
      exact Run.snoc hrun (by simp [step, ht]; omega)

/-- **A round of the code is a stretch of moves**: one `submit` for each
statement it submits, then the move that records its result. -/
theorem executeRound_moves {env : RoundEnv} {fuel : Nat} {w w' : World}
    {res : Except FailureKind RoundStats} (h : executeRound env fuel w = some (res, w'))
    {cfg : RingConfig} (hcfg : cfg.messages = totalMessages env.config.messagesPattern)
    {s : RingState n} {c : Fin n} {r : Nat} (hs : (s.clients c).phase = .inRound r 0) :
    ∃ calls t, w'.calls = w.calls ++ calls ∧
      Run (step cfg) s
        ((List.range (submitted calls).length).map (.submit c r) ++ [ending c r res]) t := by
  rcases executeRound_cases h with ⟨-, rfl, hcalls⟩ | ⟨sends, hopened⟩
  · obtain ⟨t, ht⟩ : ∃ t, step cfg s (.roundFailed c r .tooManyTopics) = some t := by
      simp [step, hs, Phase.running]
    exact ⟨[], t, by simpa using hcalls, Run.snoc Run.nil ht⟩
  have hlen := hopened.sentFrom.length_le
  rw [messagePlan_length, ← hcfg] at hlen
  obtain ⟨t, hrun, ht⟩ := run_submits cfg s c r hs _ hlen
  obtain ⟨u, hu⟩ : ∃ u, step cfg t (ending c r res) = some u := by
    rcases hopened.outcome with ⟨kind, hkind, rfl⟩ | ⟨stats, subscription, k, rfl, hall, -⟩
    · simp [ending, step, ht, Phase.running, hkind]
    · rw [messagePlan_length, ← hcfg] at hall
      simp [ending, step, ht, hall]
  exact ⟨_, u, hopened.calls, Run.snoc hrun hu⟩

end Ring

end StatementStore
