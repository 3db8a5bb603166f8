import StatementStoreTools.RingExpiry
import StatementStoreTools.RingReport
import StatementStoreTools.RingReturns
import StatementStoreTools.SigningKeys

/-!
# One client of the ring, from start to end

`run_client` as the sequential program it is: the startup barrier, the jitter,
and the loop over the rounds with its pause, its look at `peer_failed` and its
wait.  What the other clients decide, which waits are released and what the flag
holds, is an oracle (`Shared`).

Two levels meet here.  `clientRecords` says what a client records as a function
of the answers it gets, and both the code and the client of the ring are shown to
compute it:

* `runClient_records` — the code goes through rounds as the life of a client
  demands, and its result is `clientRecords` of their outcomes;
* `ring_client_sequential` — in every run of the ring, the records of a client
  that has returned are `clientRecords` of the answers in its moves.
-/

namespace StatementStore

open Traces StatementStore.Ring

/-! ## The code -/

def isLeader (clientId : UInt32) : Bool :=
  clientId = 0

/-- What a client learns from the shared barrier and the shared flag. -/
structure Shared where
  /-- the wait after a round, `0` for the startup: the time until the release, or
  `none` when it takes longer than the timeout -/
  wait : Nat → Option Duration
  /-- what `peer_failed` holds after a round -/
  peerFailed : Nat → Bool

/-- What `run_client` is called with. -/
structure ClientEnv where
  crates : Crates
  keys : KeyCrates
  clock : Clock
  config : ClientConfig
  rpcClient : Handle
  shared : Shared
  syncStart : Instant

/-- What `run_client` leaves: its result, and whether it has raised the flag. -/
structure ClientEnd where
  result : ClientResult
  raised : Bool

def ClientEnd.succeed (sofar : ClientEnd) (stats : RoundStats) : ClientEnd :=
  { sofar with result := { sofar.result with successes := sofar.result.successes ++ [stats] } }

/-- Record a failure, and raise the flag or leave it. -/
def ClientEnd.fail (sofar : ClientEnd) (kind : FailureKind) (raise : Bool) : ClientEnd where
  result := { sofar.result with failures := sofar.result.failures ++ [kind] }
  raised := sofar.raised || raise

namespace ClientEnv

/-- The pair that the client signs with; a seed that does not parse ends the
task by a panic. -/
def keyring (env : ClientEnv) : Except String Keypair :=
  match env.config.seed with
  | some suri =>
      match env.keys.pairFromString suri with
      | .ok pair => .ok pair
      | .error e => .error s!"--seed validated at startup: {e}"
  | none => .ok (env.keys.getKeypair env.config.clientId)

def roundEnv (env : ClientEnv) (keyring : Keypair) (round : Nat) : RoundEnv :=
  ⟨env.crates, env.clock, env.config, env.rpcClient, keyring, round⟩

/-- `timeout(receive_timeout_ms, barrier.wait())`. -/
def barrierWait (env : ClientEnv) (round : Nat) (w : World) : Bool × World :=
  match env.shared.wait round with
  | some spent => (true, w.wait spent)
  | none => (false, w.wait (Duration.fromMillis env.config.receiveTimeoutMs))

/-- The pause after a round: the rest of the interval, or a warning of the leader. -/
def pause (env : ClientEnv) (round : Nat) (roundStart : Instant) (w : World) : World :=
  let elapsed := w.now - roundStart
  let interval := Duration.fromMillis env.config.intervalMs
  if elapsed < interval then w.wait (interval - elapsed)
  else if isLeader env.config.clientId then
    w.logLine (s!"Client {env.config.clientId.toNat}: Round {round} took longer " ++
      s!"({elapsed / 1000000}ms) than target ({interval / 1000000}ms)")
  else w

/-- `for round in 1..(num_rounds + 1)`, with `left` rounds to go. -/
def rounds (env : ClientEnv) (keyring : Keypair) (fuel : Nat) :
    Nat → Nat → ClientEnd → World → Option (ClientEnd × World)
  | 0, _, sofar, w => some (sofar, w)
  | left + 1, round, sofar, w =>
      let roundStart := w.now
      match executeRound (env.roundEnv keyring round) fuel w with
      | none => none
      | some (.error failure, w) =>
          let sofar := sofar.fail failure true
          if env.config.failFast then some (sofar, w)
          else env.rounds keyring fuel left (round + 1) sofar w
      | some (.ok stats, w) =>
          let sofar := sofar.succeed stats
          if round < env.config.numRounds then
            let w := env.pause round roundStart w
            if env.shared.peerFailed round then some (sofar.fail .peerFailed false, w)
            else
              match env.barrierWait round w with
              | (true, w) => env.rounds keyring fuel left (round + 1) sofar w
              | (false, w) =>
                  let (kind, w) := fail (toString env.config.clientId.toNat)
                    (some (round, env.config.numRounds)) .interRoundSyncTimeout
                    "another client likely failed" w
                  some (sofar.fail kind true, w)
          else env.rounds keyring fuel left (round + 1) sofar w

/-- What comes between the startup barrier and the first round: a line of the
leader, and the jitter. -/
def enter (env : ClientEnv) (w : World) : World :=
  let w :=
    if isLeader env.config.clientId then
      w.logLine (s!"All {env.config.numClients.toNat} tasks synchronized and starting in " ++
        s!"{fixed 3 (Duration.asSecsF64 (w.now - env.syncStart))}s")
    else w
  let submissionJitter := ((env.config.clientId * 7) % 1000).toUInt64
  w.wait (Duration.fromMillis submissionJitter)

/-- `run_client`, or the message of its panic; `none` when a receive loop has not
ended within `fuel` polls. -/
def runClient (env : ClientEnv) (fuel : Nat) (w : World) :
    Option (Except String ClientEnd × World) :=
  match env.keyring with
  | .error message => some (.error message, w)
  | .ok keyring =>
      match env.barrierWait 0 w with
      | (false, w) =>
          let (kind, w) := fail (toString env.config.clientId.toNat) none .startupSyncTimeout
            "another client likely failed before reaching the barrier" w
          some (.ok (ClientEnd.fail ⟨⟨[], []⟩, false⟩ kind true), w)
      | (true, w) =>
          (env.rounds keyring fuel env.config.numRounds 1 ⟨⟨[], []⟩, false⟩ (env.enter w)).map
            fun out => (.ok out.1, out.2)

end ClientEnv

/-! ## What a client records -/

/-- The answers a client gets, by round. -/
structure Answers where
  /-- how the round ends -/
  outcome : Nat → Option FailureKind
  /-- what the flag holds after it -/
  peerFailed : Nat → Bool
  /-- whether the wait after it is released -/
  released : Nat → Bool

/-- The settings of the ring that a client goes by. -/
def ClientConfig.ring (config : ClientConfig) : RingConfig where
  numRounds := config.numRounds
  messages := totalMessages config.messagesPattern
  failFast := config.failFast

/-- The records of a client: its successes, by their rounds, and its failures. -/
abbrev Records := List Nat × List FailureKind

/-- A wait is released, or ends the client. -/
def barrierRecords (answers : Answers) (round : Nat) (records rest : Records) : Records :=
  if answers.released round then rest
  else (records.1, records.2 ++ [syncTimeout round])

/-- The flag lets the client go on, or ends it. -/
def flagRecords (answers : Answers) (round : Nat) (records rest : Records) : Records :=
  if answers.peerFailed round then (records.1, records.2 ++ [.peerFailed])
  else barrierRecords answers round records rest

/-- The records from round `round` on, with `left` rounds to go. -/
def roundRecords (cfg : RingConfig) (answers : Answers) : Nat → Nat → Records → Records
  | 0, _, records => records
  | left + 1, round, records =>
      match answers.outcome round with
      | some kind =>
          let records := (records.1, records.2 ++ [kind])
          if cfg.failFast then records else roundRecords cfg answers left (round + 1) records
      | none =>
          let records := (records.1 ++ [round], records.2)
          let rest := roundRecords cfg answers left (round + 1) records
          if round < cfg.numRounds then flagRecords answers round records rest else rest

/-- **What a client records**, as a function of the answers it gets. -/
def clientRecords (cfg : RingConfig) (answers : Answers) : Records :=
  barrierRecords answers 0 ([], []) (roundRecords cfg answers cfg.numRounds 1 ([], []))

/-- Only the answers from a round on matter for what comes from there on. -/
theorem roundRecords_congr {cfg : RingConfig} {answers answers' : Answers} (left : Nat) :
    ∀ (round : Nat) (records : Records),
      (∀ r, round ≤ r → answers.outcome r = answers'.outcome r) →
      answers.peerFailed = answers'.peerFailed → answers.released = answers'.released →
      roundRecords cfg answers left round records =
        roundRecords cfg answers' left round records := by
  induction left with
  | zero => exact fun _ _ _ _ _ => rfl
  | succ left ih =>
      intro round records houtcome hflag hreleased
      have hrest : ∀ records, roundRecords cfg answers left (round + 1) records =
          roundRecords cfg answers' left (round + 1) records := fun records =>
        ih (round + 1) records (fun r hr => houtcome r (Nat.le_of_succ_le hr)) hflag hreleased
      simp only [roundRecords, houtcome round (Nat.le_refl round), hrest, flagRecords,
        barrierRecords, hflag, hreleased]

/-! ## The code computes them -/

/-- The result of a round as the client keeps it. -/
def outcomeOf : Except FailureKind RoundStats → Option FailureKind
  | .ok _ => none
  | .error kind => some kind

/-- The records of a `ClientResult`. -/
def ClientResult.records (result : ClientResult) : Records :=
  (result.successes.map (·.round), result.failures)

section Code

variable {env : ClientEnv} {keyring : Keypair} {fuel : Nat} {w w' : World}

/-- The statistics of a round carry its number. -/
theorem executeRound_round {env : RoundEnv} {stats : RoundStats}
    (h : executeRound env fuel w = some (.ok stats, w')) : stats.round = env.round := by
  simp only [executeRound] at h
  cases htopics : BoundedVec.tryFrom 128 (expectedTopics env.crates env.config env.round
    (expectedCount env.config.messagesPattern)) with
  | none =>
      simp only [htopics] at h
      cases (Prod.mk.inj (Option.some.inj h)).1
  | some topics =>
      simp only [htopics] at h
      rcases hsub : subscribeTopic env.rpcClient (.matchAny topics) w with ⟨_ | subscription, v⟩
      · simp only [hsub] at h
        cases (Prod.mk.inj (Option.some.inj h)).1
      simp only [hsub] at h
      rcases hsend : env.sendPattern env.config.messagesPattern 0 v with ⟨_ | count, u⟩
      · simp only [hsend] at h
        cases (Prod.mk.inj (Option.some.inj h)).1
      simp only [hsend] at h
      obtain ⟨reading, -, h⟩ := Option.map_eq_some_iff.mp h
      cases hresult : reading.result with
      | error failure =>
          simp only [hresult] at h
          cases (Prod.mk.inj h).1
      | ok received =>
          simp only [hresult] at h
          obtain rfl := Except.ok.inj (Prod.mk.inj h).1
          rfl

/-- Rounds that the code goes through, one after the other from round `round`
on, between two worlds; in between it only waits and writes to the log. -/
inductive Lived (env : ClientEnv) (keyring : Keypair) (fuel : Nat) :
    Nat → World → List RoundRun → World → Prop
  | done {round : Nat} {w : World} : Lived env keyring fuel round w [] w
  | idle {round : Nat} {w v last : World} {life : List RoundRun} (hnow : w.now ≤ v.now)
      (hcalls : v.calls = w.calls) (rest : Lived env keyring fuel round v life last) :
      Lived env keyring fuel round w life last
  | round {run : RoundRun} {last : World} {life : List RoundRun}
      (hexec : executeRound (env.roundEnv keyring run.round) fuel run.before =
        some (run.res, run.after))
      (hcalls : run.after.calls = run.before.calls ++ run.calls)
      (rest : Lived env keyring fuel (run.round + 1) run.after life last) :
      Lived env keyring fuel run.round run.before (run :: life) last

section Lived

variable {round : Nat} {life : List RoundRun} {last : World}

theorem Lived.calls (h : Lived env keyring fuel round w life last) :
    last.calls = w.calls ++ life.flatMap (·.calls) := by
  induction h with
  | done => simp
  | idle _ hcalls _ ih => rw [ih, hcalls]
  | round _ hcalls _ ih => rw [ih, hcalls, List.append_assoc, List.flatMap_cons]

theorem Lived.executed (h : Lived env keyring fuel round w life last) :
    ∀ run ∈ life, executeRound (env.roundEnv keyring run.round) fuel run.before =
      some (run.res, run.after) ∧ run.after.calls = run.before.calls ++ run.calls := by
  induction h with
  | done => exact fun _ hmem => by cases hmem
  | idle _ _ _ ih => exact ih
  | round hexec hcalls _ ih =>
      intro run hmem
      rcases List.mem_cons.mp hmem with rfl | hlater
      · exact ⟨hexec, hcalls⟩
      · exact ih run hlater

theorem Lived.rounds (h : Lived env keyring fuel round w life last) :
    life.map (·.round) = List.range' round life.length := by
  induction h with
  | done => rfl
  | idle _ _ _ ih => exact ih
  | round _ _ _ ih => rw [List.map_cons, ih, List.length_cons, List.range'_succ]

/-- A later round starts when an earlier one is over. -/
theorem Lived.after (h : Lived env keyring fuel round w life last) :
    ∀ run ∈ life, w.now ≤ run.before.now ∧ round ≤ run.round := by
  induction h with
  | done => exact fun _ hmem => by cases hmem
  | idle hnow _ _ ih => exact fun run hmem => ⟨hnow.trans (ih run hmem).1, (ih run hmem).2⟩
  | round hexec _ _ ih =>
      intro run hmem
      rcases List.mem_cons.mp hmem with rfl | hlater
      · exact ⟨Nat.le_refl _, Nat.le_refl _⟩
      · obtain ⟨calls, hextends, -⟩ := executeRound_sends hexec
        obtain ⟨hnow, hround⟩ := ih run hlater
        exact ⟨hextends.now_le.trans hnow, by omega⟩

theorem Lived.order (h : Lived env keyring fuel round w life last) :
    life.Pairwise fun a b => a.round < b.round ∧ a.after.now ≤ b.before.now := by
  induction h with
  | done => exact List.Pairwise.nil
  | idle _ _ _ ih => exact ih
  | round _ _ rest ih =>
      refine List.pairwise_cons.mpr ⟨fun run hmem => ?_, ih⟩
      obtain ⟨hnow, hround⟩ := rest.after run hmem
      exact ⟨hround, hnow⟩

end Lived

/-- Waiting and logging make no call and give no time back. -/
structure Idle (before after : World) : Prop where
  now_le : before.now ≤ after.now
  calls : after.calls = before.calls

theorem Idle.refl (w : World) : Idle w w := ⟨Nat.le_refl _, rfl⟩

theorem Idle.wait (w : World) (d : Duration) : Idle w (w.wait d) := ⟨Nat.le_add_right _ _, rfl⟩

theorem Idle.logLine (w : World) (line : String) : Idle w (w.logLine line) :=
  ⟨Nat.le_refl _, rfl⟩

theorem Idle.trans {u v w : World} (h : Idle u v) (h' : Idle v w) : Idle u w :=
  ⟨h.now_le.trans h'.now_le, h'.calls.trans h.calls⟩

theorem pause_idle (round : Nat) (start : Instant) (w : World) :
    Idle w (env.pause round start w) := by
  unfold ClientEnv.pause
  simp only
  split
  · exact Idle.wait w _
  · split
    · exact Idle.logLine w _
    · exact Idle.refl w

theorem enter_idle (w : World) : Idle w (env.enter w) := by
  unfold ClientEnv.enter
  simp only
  split
  · exact (Idle.logLine w _).trans (Idle.wait _ _)
  · exact Idle.wait w _

theorem barrierWait_some {round : Nat} {spent : Duration} (h : env.shared.wait round = some spent)
    (w : World) : env.barrierWait round w = (true, w.wait spent) := by
  simp only [ClientEnv.barrierWait, h]

theorem barrierWait_none {round : Nat} (h : env.shared.wait round = none) (w : World) :
    env.barrierWait round w =
      (false, w.wait (Duration.fromMillis env.config.receiveTimeoutMs)) := by
  simp only [ClientEnv.barrierWait, h]

/-- The answers of the shared barrier and flag, with the outcomes of the rounds. -/
def ClientEnv.answers (env : ClientEnv) (outcome : Nat → Option FailureKind) : Answers where
  outcome := outcome
  peerFailed := env.shared.peerFailed
  released round := (env.shared.wait round).isSome

/-- The rounds from `round` on, up to `left` of them, have been lived, and lead
from the one to the other records. -/
def Leads (env : ClientEnv) (keyring : Keypair) (fuel left round : Nat) (w w' : World)
    (before after : Records) : Prop :=
  ∃ life outcome, Lived env keyring fuel round w life w' ∧ life.length ≤ left ∧
    (∀ run ∈ life, outcome run.round = outcomeOf run.res) ∧
    after = roundRecords env.config.ring (env.answers outcome) left round before

section Leads

variable {left round : Nat} {v : World} {before between after : Records}
  {res : Except FailureKind RoundStats}

theorem Leads.later (h : Leads env keyring fuel left round v w' before after) (hidle : Idle w v) :
    Leads env keyring fuel left round w w' before after := by
  obtain ⟨life, outcome, hlived, hlen, hres, hrecords⟩ := h
  exact ⟨life, outcome, .idle hidle.now_le hidle.calls hlived, hlen, hres, hrecords⟩

/-- A round, and the client ends. -/
theorem Leads.last (hexec : executeRound (env.roundEnv keyring round) fuel w = some (res, v))
    (hidle : Idle v w')
    (hrecords : ∀ outcome, outcome round = outcomeOf res →
      after = roundRecords env.config.ring (env.answers outcome) (left + 1) round before) :
    Leads env keyring fuel (left + 1) round w w' before after := by
  obtain ⟨calls, hextends, -⟩ := executeRound_sends hexec
  refine ⟨[⟨round, w, v, res, calls⟩], fun _ => outcomeOf res, ?_, by simp, by simp,
    hrecords _ rfl⟩
  exact @Lived.round env keyring fuel ⟨round, w, v, res, calls⟩ _ _ hexec hextends.calls
    (.idle hidle.now_le hidle.calls .done)

/-- A round, and those after it. -/
theorem Leads.next (hexec : executeRound (env.roundEnv keyring round) fuel w = some (res, v))
    (hrest : Leads env keyring fuel left (round + 1) v w' between after)
    (hrecords : ∀ outcome, outcome round = outcomeOf res →
      roundRecords env.config.ring (env.answers outcome) left (round + 1) between =
        roundRecords env.config.ring (env.answers outcome) (left + 1) round before) :
    Leads env keyring fuel (left + 1) round w w' before after := by
  obtain ⟨calls, hextends, -⟩ := executeRound_sends hexec
  obtain ⟨life, outcome, hlived, hlen, hres, rfl⟩ := hrest
  have hlived' : Lived env keyring fuel round w (⟨round, w, v, res, calls⟩ :: life) w' :=
    @Lived.round env keyring fuel ⟨round, w, v, res, calls⟩ _ _ hexec hextends.calls hlived
  refine ⟨_, Function.update outcome round (outcomeOf res), hlived', Nat.succ_le_succ hlen,
    fun run hmem => ?_, ?_⟩
  · rcases List.mem_cons.mp hmem with rfl | hlater
    · exact Function.update_self ..
    · have hround := (hlived.after run hlater).2
      rw [Function.update_of_ne (by omega)]
      exact hres run hlater
  · rw [← hrecords _ (Function.update_self ..)]
    refine roundRecords_congr left (round + 1) between (fun r hr => ?_) rfl rfl
    exact (Function.update_of_ne (show r ≠ round by omega) _ _).symm

end Leads

/-- How one turn of the loop ends: whether there is a next one, and with what. -/
inductive Turn (env : ClientEnv) (keyring : Keypair) (fuel round : Nat) (sofar : ClientEnd)
    (w : World) : Bool → ClientEnd → World → Prop
  | failed {kind : FailureKind} {v : World}
      (hexec : executeRound (env.roundEnv keyring round) fuel w = some (.error kind, v)) :
      Turn env keyring fuel round sofar w (!env.config.failFast) (sofar.fail kind true) v
  | last {stats : RoundStats} {v : World}
      (hexec : executeRound (env.roundEnv keyring round) fuel w = some (.ok stats, v))
      (hlast : ¬ round < env.config.numRounds) :
      Turn env keyring fuel round sofar w true (sofar.succeed stats) v
  | flagged {stats : RoundStats} {u v : World}
      (hexec : executeRound (env.roundEnv keyring round) fuel w = some (.ok stats, u))
      (hidle : Idle u v) (hlt : round < env.config.numRounds)
      (hflag : env.shared.peerFailed round = true) :
      Turn env keyring fuel round sofar w false ((sofar.succeed stats).fail .peerFailed false) v
  | released {stats : RoundStats} {u v : World} {spent : Duration}
      (hexec : executeRound (env.roundEnv keyring round) fuel w = some (.ok stats, u))
      (hidle : Idle u v) (hlt : round < env.config.numRounds)
      (hflag : env.shared.peerFailed round = false) (hwait : env.shared.wait round = some spent) :
      Turn env keyring fuel round sofar w true (sofar.succeed stats) v
  | timedOut {stats : RoundStats} {u v : World}
      (hexec : executeRound (env.roundEnv keyring round) fuel w = some (.ok stats, u))
      (hidle : Idle u v) (hlt : round < env.config.numRounds)
      (hflag : env.shared.peerFailed round = false) (hwait : env.shared.wait round = none) :
      Turn env keyring fuel round sofar w false
        ((sofar.succeed stats).fail .interRoundSyncTimeout true) v

/-- The loop is one turn and, if there is one, the rest. -/
theorem rounds_turn {left round : Nat} {sofar last : ClientEnd}
    (h : env.rounds keyring fuel (left + 1) round sofar w = some (last, w')) :
    ∃ goesOn mid v, Turn env keyring fuel round sofar w goesOn mid v ∧
      if goesOn then env.rounds keyring fuel left (round + 1) mid v = some (last, w')
      else mid = last ∧ v = w' := by
  simp only [ClientEnv.rounds] at h
  cases hexec : executeRound (env.roundEnv keyring round) fuel w with
  | none =>
      simp only [hexec] at h
      cases h
  | some out =>
      obtain ⟨res, u⟩ := out
      cases res with
      | error failure =>
          simp only [hexec] at h
          refine ⟨_, _, _, .failed hexec, ?_⟩
          cases hfast : env.config.failFast with
          | true => simpa [hfast] using h
          | false => simpa [hfast] using h
      | ok stats =>
          simp only [hexec] at h
          by_cases hlt : round < env.config.numRounds
          · simp only [if_pos hlt] at h
            have hpause := @pause_idle env round w.now u
            cases hflag : env.shared.peerFailed round with
            | true =>
                refine ⟨_, _, _, .flagged hexec hpause hlt hflag, ?_⟩
                simpa [hflag] using h
            | false =>
                simp only [hflag, Bool.false_eq_true, if_false] at h
                cases hwait : env.shared.wait round with
                | some spent =>
                    simp only [barrierWait_some hwait] at h
                    exact ⟨_, _, _, .released hexec (hpause.trans (Idle.wait _ _)) hlt hflag hwait,
                      by simpa using h⟩
                | none =>
                    simp only [barrierWait_none hwait, fail] at h
                    exact ⟨_, _, _, .timedOut hexec
                      ((hpause.trans (Idle.wait _ _)).trans (Idle.logLine _ _)) hlt hflag hwait,
                      by simpa using h⟩
          · simp only [if_neg hlt] at h
            exact ⟨_, _, _, .last hexec hlt, by simpa using h⟩

/-- **The loop over the rounds.** -/
theorem rounds_lead (left : Nat) : ∀ (round : Nat) (sofar last : ClientEnd) (w : World),
    1 ≤ round → env.rounds keyring fuel left round sofar w = some (last, w') →
    Leads env keyring fuel left round w w' sofar.result.records last.result.records := by
  induction left with
  | zero =>
      intro round sofar last w _ h
      obtain ⟨rfl, rfl⟩ := Prod.mk.inj (Option.some.inj h)
      exact ⟨[], fun _ => none, .done, Nat.le_refl _, by simp, rfl⟩
  | succ left ih =>
      intro round sofar last w hpos h
      have hnext : 1 ≤ round + 1 := Nat.le_add_left 1 round
      obtain ⟨goesOn, mid, v, hturn, hrest⟩ := rounds_turn h
      cases hturn with
      | failed hexec =>
          cases hfast : env.config.failFast with
          | true =>
              simp only [hfast, Bool.not_true, Bool.false_eq_true, if_false] at hrest
              obtain ⟨rfl, rfl⟩ := hrest
              refine .last hexec (Idle.refl v) fun outcome houtcome => ?_
              simp [roundRecords, ClientEnv.answers, houtcome, outcomeOf, ClientConfig.ring, hfast,
                ClientResult.records, ClientEnd.fail]
          | false =>
              simp only [hfast, Bool.not_false, if_true] at hrest
              refine .next hexec (ih _ _ _ _ hnext hrest) fun outcome houtcome => ?_
              simp [roundRecords, ClientEnv.answers, houtcome, outcomeOf, ClientConfig.ring, hfast,
                ClientResult.records, ClientEnd.fail]
      | last hexec hlast =>
          have hround := executeRound_round hexec
          refine .next hexec (ih _ _ _ _ hnext hrest) fun outcome houtcome => ?_
          simp [roundRecords, ClientEnv.answers, houtcome, outcomeOf, ClientConfig.ring, hlast,
            ClientResult.records, ClientEnd.succeed, hround, ClientEnv.roundEnv]
      | flagged hexec hidle hlt hflag =>
          have hround := executeRound_round hexec
          obtain ⟨rfl, rfl⟩ := hrest
          refine .last hexec hidle fun outcome houtcome => ?_
          simp [roundRecords, flagRecords, ClientEnv.answers, houtcome, outcomeOf,
            ClientConfig.ring, hlt, hflag, ClientResult.records, ClientEnd.fail, ClientEnd.succeed,
            hround, ClientEnv.roundEnv]
      | released hexec hidle hlt hflag hwait =>
          have hround := executeRound_round hexec
          refine .next hexec ((ih _ _ _ _ hnext hrest).later hidle) fun outcome houtcome => ?_
          simp [roundRecords, flagRecords, barrierRecords, ClientEnv.answers, houtcome, outcomeOf,
            ClientConfig.ring, hlt, hflag, hwait, ClientResult.records, ClientEnd.succeed, hround,
            ClientEnv.roundEnv]
      | timedOut hexec hidle hlt hflag hwait =>
          have hround := executeRound_round hexec
          obtain ⟨rfl, rfl⟩ := hrest
          refine .last hexec hidle fun outcome houtcome => ?_
          simp [roundRecords, flagRecords, barrierRecords, ClientEnv.answers, houtcome, outcomeOf,
            ClientConfig.ring, hlt, hflag, hwait, ClientResult.records, ClientEnd.fail,
            ClientEnd.succeed, hround, ClientEnv.roundEnv, syncTimeout, Nat.ne_of_gt hpos]

/-- The flag has been raised exactly when a failure of the client's own is recorded. -/
def ClientEnd.Owns (last : ClientEnd) : Prop :=
  last.raised = true ↔ ∃ kind ∈ last.result.failures, kind ≠ .peerFailed

theorem ClientEnd.Owns.fail {sofar : ClientEnd} (h : sofar.Owns) {kind : FailureKind} {raise : Bool}
    (hkind : raise = true ↔ kind ≠ .peerFailed) : (sofar.fail kind raise).Owns := by
  unfold ClientEnd.Owns at h ⊢
  simp only [ClientEnd.fail, Bool.or_eq_true, h, hkind, List.mem_append, List.mem_singleton]
  constructor
  · intro hraised
    rcases hraised with ⟨old, hold, hne⟩ | hne
    · exact ⟨old, Or.inl hold, hne⟩
    · exact ⟨kind, Or.inr rfl, hne⟩
  · intro hexists
    obtain ⟨old, hold | rfl, hne⟩ := hexists
    · exact Or.inl ⟨old, hold, hne⟩
    · exact Or.inr hne

/-- A round does not fail for the sake of a peer. -/
theorem executeRound_kind {env : RoundEnv} {kind : FailureKind}
    (h : executeRound env fuel w = some (.error kind, w')) : kind ≠ .peerFailed := by
  rcases executeRound_cases h with ⟨-, hres, -⟩ | ⟨sends, hopened⟩
  · rw [Except.error.inj hres]
    decide
  · rcases hopened.outcome with ⟨kind', hmem, hres⟩ | ⟨stats, -, -, hres, -⟩
    · rw [Except.error.inj hres]
      intro heq
      rw [heq] at hmem
      exact absurd hmem (by decide)
    · cases hres

theorem rounds_owns (left : Nat) : ∀ (round : Nat) (sofar last : ClientEnd) (w : World),
    sofar.Owns → env.rounds keyring fuel left round sofar w = some (last, w') → last.Owns := by
  induction left with
  | zero =>
      intro round sofar last w howns h
      obtain ⟨rfl, -⟩ := Prod.mk.inj (Option.some.inj h)
      exact howns
  | succ left ih =>
      intro round sofar last w howns h
      obtain ⟨goesOn, mid, v, hturn, hrest⟩ := rounds_turn h
      have hmid : mid.Owns := by
        cases hturn with
        | failed hexec => exact howns.fail (by simp [executeRound_kind hexec])
        | last hexec hlast => exact howns
        | flagged hexec hidle hlt hflag => exact ClientEnd.Owns.fail howns (by simp)
        | released hexec hidle hlt hflag hwait => exact howns
        | timedOut hexec hidle hlt hflag hwait => exact ClientEnd.Owns.fail howns (by simp)
      cases goesOn with
      | true => exact ih _ _ _ _ hmid (by simpa using hrest)
      | false =>
          obtain ⟨rfl, -⟩ : mid = last ∧ v = w' := by simpa using hrest
          exact hmid

/-- **The code of a client.**  `run_client`, whatever the barrier and the flag
answer and whatever the node does: the rounds it goes through are the life of a
client, in order and none twice, they make all its calls, and its result is what
`clientRecords` makes of their outcomes.  It has raised the flag exactly when it
reports a failure of its own. -/
theorem runClient_records {args : RingArgs} {runId : UInt64} {c : UInt32} {last : ClientEnd}
    (hconfig : env.config = clientConfig args runId c)
    (h : env.runClient fuel w = some (.ok last, w')) :
    ∃ keyring life outcome, env.keyring = .ok keyring ∧
      ClientLife env.crates env.clock args runId c keyring life ∧
      life.map (·.round) = roundsUpTo life.length ∧
      w'.calls = w.calls ++ life.flatMap (·.calls) ∧
      (∀ run ∈ life, outcome run.round = outcomeOf run.res) ∧
      last.result.records = clientRecords env.config.ring (env.answers outcome) ∧ last.Owns := by
  have hstart : ClientEnd.Owns ⟨⟨[], []⟩, false⟩ := by simp [ClientEnd.Owns]
  unfold ClientEnv.runClient at h
  cases hkeyring : env.keyring with
  | error message =>
      simp only [hkeyring] at h
      cases (Prod.mk.inj (Option.some.inj h)).1
  | ok keyring =>
      simp only [hkeyring] at h
      have hlife : ∃ life outcome, Lived env keyring fuel 1 w life w' ∧
          life.length ≤ env.config.numRounds ∧
          (∀ run ∈ life, outcome run.round = outcomeOf run.res) ∧
          last.result.records = clientRecords env.config.ring (env.answers outcome) ∧
          last.Owns := by
        cases hwait : env.shared.wait 0 with
        | none =>
            simp only [barrierWait_none hwait, fail] at h
            obtain ⟨hlast, hworld⟩ := Prod.mk.inj (Option.some.inj h)
            obtain rfl := Except.ok.inj hlast
            have hidle : Idle w w' := hworld ▸ (Idle.wait w _).trans (Idle.logLine _ _)
            refine ⟨[], fun _ => none, .idle hidle.now_le hidle.calls .done, Nat.zero_le _,
              by simp, ?_, hstart.fail (by simp)⟩
            simp [clientRecords, barrierRecords, ClientEnv.answers, hwait, ClientResult.records,
              ClientEnd.fail, syncTimeout]
        | some spent =>
            simp only [barrierWait_some hwait] at h
            obtain ⟨out, hrounds, hout⟩ := Option.map_eq_some_iff.mp h
            obtain ⟨hlast, hworld⟩ := Prod.mk.inj hout
            obtain rfl := Except.ok.inj hlast
            obtain rfl := hworld
            have hidle := (Idle.wait w spent).trans (@enter_idle env _)
            obtain ⟨life, outcome, hlived, hlen, hres, hrecords⟩ :=
              (rounds_lead env.config.numRounds 1 _ _ _ (Nat.le_refl 1) hrounds).later hidle
            refine ⟨life, outcome, hlived, hlen, hres, hrecords.trans ?_,
              rounds_owns _ _ _ _ _ hstart hrounds⟩
            simp [clientRecords, barrierRecords, ClientEnv.answers, hwait, ClientConfig.ring,
              ClientResult.records]
      obtain ⟨life, outcome, hlived, hlen, hres, hrecords, howns⟩ := hlife
      have hrounds : life.map (·.round) = roundsUpTo life.length := hlived.rounds
      refine ⟨keyring, life, outcome, rfl, ⟨fun run hmem => ?_, fun run hmem => ?_,
        fun run hmem => ?_, hlived.order⟩, hrounds, hlived.calls, hres, hrecords, howns⟩
      · have hround : run.round ∈ roundsUpTo life.length := hrounds ▸ List.mem_map_of_mem hmem
        obtain ⟨hpos, hle⟩ := mem_roundsUpTo.mp hround
        refine ⟨hpos, hle.trans ?_⟩
        rw [hconfig] at hlen
        exact hlen
      · refine ⟨env.rpcClient, fuel, ?_⟩
        rw [← hconfig]
        exact (hlived.executed run hmem).1
      · exact (hlived.executed run hmem).2

end Code

/-- A client alone whose node refuses all subscriptions. -/
def refusedClient : ClientEnv where
  crates := plainCrates
  keys := ⟨fun _ => .error "not a seed", fun _ => ⟨Vector.replicate 32 1⟩, id⟩
  clock := id
  config := clientConfig ⟨1, [(1, 8)], 5000, 2, 10000, 600000, false, []⟩ 7 0
  rpcClient := 0
  shared := ⟨fun _ => some 0, fun _ => false⟩
  syncStart := 0

/-- It fails both rounds, and has raised the flag. -/
theorem runClient_records_refused : ∃ last w',
    refusedClient.runClient 10 (steadyWorld (.error "refused") (.error "")) =
      some (.ok last, w') ∧
    last.result.records = ([], [.subscribeFailed, .subscribeFailed]) ∧
    ∃ outcome, last.result.records =
      clientRecords refusedClient.config.ring (refusedClient.answers outcome) ∧ last.Owns := by
  obtain ⟨out, hrun, hrecords⟩ : ∃ out,
      refusedClient.runClient 10 (steadyWorld (.error "refused") (.error "")) = some out ∧
        out.1.map (·.result.records) = .ok ([], [.subscribeFailed, .subscribeFailed]) :=
    ⟨_, rfl, rfl⟩
  obtain ⟨last | last, w'⟩ := out
  · cases hrecords
  · obtain ⟨-, -, outcome, -, -, -, -, -, hclient, howns⟩ := runClient_records rfl hrun
    exact ⟨last, w', hrun, Except.ok.inj hrecords, outcome, hclient, howns⟩

/-! ## The client of the ring computes them -/

namespace Ring

variable {n : Nat} {cfg : RingConfig} {s t : RingState n} {τ : List (RingEvent n)} {c : Fin n}
  {e : RingEvent n} {answers : Answers} {r : Nat}

/-- The answer that a move shows is the given one. -/
def Fits (answers : Answers) : RingEvent n → Prop
  | .roundOk _ r => answers.outcome r = none
  | .roundFailed _ r kind => answers.outcome r = some kind
  | .load _ r flag => answers.peerFailed r = flag
  | .pass _ r _ => answers.released r = true
  | .timedOut _ r _ => answers.released r = false
  | .arrive _ _ _ => True
  | .submit _ _ _ => True

/-- What a client will have recorded, from where it stands. -/
def resume (cfg : RingConfig) (answers : Answers) (client : Client) : Records :=
  let records := (client.successes, client.failures)
  match client.phase with
  | .atBarrier r | .waiting r _ _ =>
      barrierRecords answers r records
        (roundRecords cfg answers (cfg.numRounds - r) (r + 1) records)
  | .inRound r _ => roundRecords cfg answers (cfg.numRounds + 1 - r) r records
  | .afterRound r =>
      flagRecords answers r records
        (roundRecords cfg answers (cfg.numRounds - r) (r + 1) records)
  | .returned => records

/-- The round after round `r`, or the end. -/
theorem resume_startRound (successes : List Nat) (failures : List FailureKind) :
    resume cfg answers ⟨startRound cfg (r + 1), successes, failures⟩ =
      roundRecords cfg answers (cfg.numRounds - r) (r + 1) (successes, failures) := by
  unfold startRound
  split
  · simp only [resume]
    congr 1
    omega
  · rename_i hlast
    have hnone : cfg.numRounds - r = 0 := by omega
    simp only [resume, hnone, roundRecords]

/-- A round in progress is one of those to go. -/
theorem resume_inRound {sent : Nat} (hr : r ≤ cfg.numRounds) (successes : List Nat)
    (failures : List FailureKind) :
    resume cfg answers ⟨.inRound r sent, successes, failures⟩ =
      roundRecords cfg answers (cfg.numRounds - r + 1) r (successes, failures) := by
  simp only [resume]
  congr 1
  omega

/-- **A move does not change what will have been recorded**, when it shows the
answer that is given. -/
theorem resume_step (h : RingRun cfg n τ s) (hstep : step cfg s e = some t)
    (hfits : Fits answers e) :
    resume cfg answers (t.clients (RingEvent.client e)) =
      resume cfg answers (s.clients (RingEvent.client e)) := by
  cases e with
  | arrive c r g =>
      obtain ⟨hphase, -, rfl⟩ := step_arrive hstep
      simp [RingEvent.client, setClient, resume, hphase]
  | pass c r g =>
      obtain ⟨⟨leader, hphase⟩, -, rfl⟩ := step_pass hstep
      have hreleased : answers.released r = true := hfits
      simp only [RingEvent.client, setClient_self]
      rw [resume_startRound]
      simp [resume, hphase, barrierRecords, hreleased]
  | timedOut c r g =>
      obtain ⟨hphase, rfl⟩ := step_timedOut hstep
      have hreleased : answers.released r = false := hfits
      simp [RingEvent.client, setClient, resume, hphase, barrierRecords, hreleased]
  | submit c r i =>
      obtain ⟨hphase, -, rfl⟩ := step_submit hstep
      simp [RingEvent.client, resume, hphase]
  | roundOk c r =>
      obtain ⟨hphase, rfl⟩ := step_roundOk hstep
      have hr := (running_round h hphase).2
      have houtcome : answers.outcome r = none := hfits
      have hold : resume cfg answers (s.clients c) = roundRecords cfg answers
          (cfg.numRounds - r + 1) r ((s.clients c).successes, (s.clients c).failures) := by
        rw [← @resume_inRound cfg answers r cfg.messages hr, ← hphase]
      simp only [RingEvent.client, setClient_self]
      rw [hold]
      simp only [roundRecords, houtcome]
      by_cases hlast : r < cfg.numRounds
      · simp only [if_pos hlast, resume]
      · have hnone : cfg.numRounds - r = 0 := by omega
        simp only [if_neg hlast, resume, hnone, roundRecords]
  | roundFailed c r kind =>
      obtain ⟨⟨sent, hphase⟩, -, rfl⟩ := step_roundFailed hstep
      have hr := (running_round h hphase).2
      have houtcome : answers.outcome r = some kind := hfits
      have hold : resume cfg answers (s.clients c) = roundRecords cfg answers
          (cfg.numRounds - r + 1) r ((s.clients c).successes, (s.clients c).failures) := by
        rw [← @resume_inRound cfg answers r sent hr, ← hphase]
      simp only [RingEvent.client, setClient, Function.update_self]
      rw [hold]
      simp only [roundRecords, houtcome]
      cases cfg.failFast with
      | true => simp only [if_true, resume]
      | false =>
          simp only [Bool.false_eq_true, if_false]
          exact resume_startRound _ _
  | load c r flag =>
      obtain ⟨hphase, -, ⟨rfl, rfl⟩ | ⟨rfl, rfl⟩⟩ := step_load hstep
      · have hflag : answers.peerFailed r = true := hfits
        simp [RingEvent.client, resume, hphase, flagRecords, hflag]
      · have hflag : answers.peerFailed r = false := hfits
        simp [RingEvent.client, resume, hphase, flagRecords, hflag]

/-- **A run does not change it either.** -/
theorem resume_run (h : RingRun cfg n τ s) (c : Fin n)
    (hfits : ∀ e ∈ τ, RingEvent.client e = c → Fits answers e) :
    resume cfg answers (s.clients c) = clientRecords cfg answers := by
  refine (h.rule (fun τ s => RingRun cfg n τ s ∧
    ((∀ e ∈ τ, RingEvent.client e = c → Fits answers e) →
      resume cfg answers (s.clients c) = clientRecords cfg answers)) ?init ?one).2 hfits
  case init => exact ⟨Run.nil, fun _ => rfl⟩
  case one =>
    intro τ s e t hboth hstep
    obtain ⟨hrun, hresume⟩ := hboth
    refine ⟨Run.snoc hrun hstep, fun hall => ?_⟩
    have hold := hresume fun e he => hall e (List.mem_append_left _ he)
    by_cases hc : RingEvent.client e = c
    · have hlast := hall e (List.mem_append_right _ (List.mem_singleton_self e)) hc
      subst hc
      rw [resume_step hrun hstep hlast, hold]
    · rw [step_other hstep hc, hold]

/-! ### Every run gives answers -/

/-- The place in the program at which a move gets its answer. -/
def asked : RingEvent n → Option Nat
  | .roundOk _ r => some (3 * r)
  | .roundFailed _ r _ => some (3 * r)
  | .load _ r _ => some (3 * r + 1)
  | .pass _ r _ => some (3 * r + 2)
  | .timedOut _ r _ => some (3 * r + 2)
  | .arrive _ _ _ => none
  | .submit _ _ _ => none

/-- The next place at which a client will ask. -/
def nextAsked : Phase → Option Nat
  | .inRound r _ => some (3 * r)
  | .afterRound r => some (3 * r + 1)
  | .atBarrier r => some (3 * r + 2)
  | .waiting r _ _ => some (3 * r + 2)
  | .returned => none

theorem nextAsked_startRound {r k : Nat} (h : nextAsked (startRound cfg r) = some k) :
    k = 3 * r := by
  unfold startRound at h
  split at h
  · exact (Option.some.inj h).symm
  · cases h

/-- A client asks where it stands, and goes on behind that. -/
theorem step_asked (hstep : step cfg s e = some t) :
    (∀ k, asked e = some k → nextAsked (s.clients (RingEvent.client e)).phase = some k) ∧
      ∀ k, nextAsked (t.clients (RingEvent.client e)).phase = some k →
        (∀ i, asked e = some i → i < k) ∧
          ∃ i, nextAsked (s.clients (RingEvent.client e)).phase = some i ∧ i ≤ k := by
  cases e with
  | arrive c r g =>
      obtain ⟨hphase, -, rfl⟩ := step_arrive hstep
      simp [RingEvent.client, setClient, asked, nextAsked, hphase]
  | pass c r g =>
      obtain ⟨⟨leader, hphase⟩, -, rfl⟩ := step_pass hstep
      simp only [RingEvent.client, setClient_self, hphase, asked, nextAsked]
      refine ⟨fun k hk => hk, fun k hk => ?_⟩
      have hnext := nextAsked_startRound hk
      exact ⟨by simp; omega, _, rfl, by omega⟩
  | timedOut c r g =>
      obtain ⟨hphase, rfl⟩ := step_timedOut hstep
      simp [RingEvent.client, setClient, asked, nextAsked, hphase]
  | submit c r i =>
      obtain ⟨hphase, -, rfl⟩ := step_submit hstep
      simp [RingEvent.client, asked, nextAsked, hphase]
  | roundOk c r =>
      obtain ⟨hphase, rfl⟩ := step_roundOk hstep
      simp only [RingEvent.client, setClient_self, hphase, asked]
      refine ⟨fun k hk => hk, fun k hk => ?_⟩
      have hnext : k = 3 * r + 1 := by
        split at hk
        · exact (Option.some.inj hk).symm
        · cases hk
      exact ⟨by simp; omega, _, rfl, by omega⟩
  | roundFailed c r kind =>
      obtain ⟨⟨sent, hphase⟩, -, rfl⟩ := step_roundFailed hstep
      simp only [RingEvent.client, setClient, Function.update_self, hphase, asked]
      refine ⟨fun k hk => hk, fun k hk => ?_⟩
      have hnext : k = 3 * (r + 1) := by
        split at hk
        · cases hk
        · exact nextAsked_startRound hk
      exact ⟨by simp; omega, _, rfl, by omega⟩
  | load c r flag =>
      obtain ⟨hphase, -, ⟨-, rfl⟩ | ⟨-, rfl⟩⟩ := step_load hstep
      · simp [RingEvent.client, asked, nextAsked, hphase]
      · simp [RingEvent.client, asked, nextAsked, hphase]

/-- What a client has been told lies behind it. -/
theorem asked_before (h : RingRun cfg n τ s) (c : Fin n) :
    ∀ e ∈ τ, RingEvent.client e = c → ∀ i k, asked e = some i →
      nextAsked (s.clients c).phase = some k → i < k := by
  refine h.rule (fun τ s => ∀ e ∈ τ, RingEvent.client e = c → ∀ i k, asked e = some i →
    nextAsked (s.clients c).phase = some k → i < k) (by simp) ?one
  case one =>
    intro τ s e t ih hstep e' hmem hc' i k hi hk
    by_cases hc : RingEvent.client e = c
    · subst hc
      obtain ⟨hlast, j, hj, hle⟩ := (step_asked hstep).2 k hk
      rcases List.mem_append.mp hmem with hold | hnew
      · exact Nat.lt_of_lt_of_le (ih e' hold hc' i j hi hj) hle
      · rw [List.mem_singleton.mp hnew] at hi
        exact hlast i hi
    · rw [step_other hstep hc] at hk
      rcases List.mem_append.mp hmem with hold | hnew
      · exact ih e' hold hc' i k hi hk
      · rw [List.mem_singleton.mp hnew] at hc'
        exact absurd hc' hc

/-- One more answer. -/
def Answers.with (answers : Answers) : RingEvent n → Answers
  | .roundOk _ r => { answers with outcome := Function.update answers.outcome r none }
  | .roundFailed _ r kind =>
      { answers with outcome := Function.update answers.outcome r (some kind) }
  | .load _ r flag => { answers with peerFailed := Function.update answers.peerFailed r flag }
  | .pass _ r _ => { answers with released := Function.update answers.released r true }
  | .timedOut _ r _ => { answers with released := Function.update answers.released r false }
  | .arrive _ _ _ => answers
  | .submit _ _ _ => answers

theorem fits_with (answers : Answers) (e : RingEvent n) : Fits (Answers.with answers e) e := by
  cases e <;> simp [Fits, Answers.with]

/-- An answer at another place is kept. -/
theorem fits_with_of_ne {e' : RingEvent n} (h : Fits answers e')
    (hne : ∀ i k, asked e' = some i → asked e = some k → i ≠ k) :
    Fits (Answers.with answers e) e' := by
  have hround : ∀ r r' : Nat, 3 * r ≠ 3 * r' → r ≠ r' := fun r r' hrr heq => hrr (by rw [heq])
  cases e <;> cases e' <;>
    simp_all [Fits, Answers.with, asked, Function.update_of_ne]

/-- **Some answers fit every run.** -/
theorem exists_answers (h : RingRun cfg n τ s) (c : Fin n) :
    ∃ answers, ∀ e ∈ τ, RingEvent.client e = c → Fits answers e := by
  refine (h.rule (fun τ s => RingRun cfg n τ s ∧
    ∃ answers, ∀ e ∈ τ, RingEvent.client e = c → Fits answers e) ?init ?one).2
  case init => exact ⟨Run.nil, ⟨fun _ => none, fun _ => false, fun _ => false⟩, by simp⟩
  case one =>
    intro τ s e t hboth hstep
    obtain ⟨hrun, answers, hfits⟩ := hboth
    refine ⟨Run.snoc hrun hstep, ?_⟩
    by_cases hc : RingEvent.client e = c
    · refine ⟨Answers.with answers e, fun e' hmem hc' => ?_⟩
      rcases List.mem_append.mp hmem with hold | hnew
      · refine fits_with_of_ne (hfits e' hold hc') fun i k hi hk => ?_
        have hnow := (step_asked hstep).1 k hk
        rw [hc] at hnow
        exact Nat.ne_of_lt (asked_before hrun c e' hold hc' i k hi hnow)
      · rw [List.mem_singleton.mp hnew]
        exact fits_with answers e
    · refine ⟨answers, fun e' hmem hc' => ?_⟩
      rcases List.mem_append.mp hmem with hold | hnew
      · exact hfits e' hold hc'
      · rw [List.mem_singleton.mp hnew] at hc'
        exact absurd hc' hc

/-- **The ring runs the sequential program.**  In every run, whatever the
others do: there are answers that the moves of a client show, and with any such
answers a client that has returned has recorded what `clientRecords` says. -/
theorem ring_client_sequential (h : RingRun cfg n τ s) (c : Fin n) :
    (∃ answers, ∀ e ∈ τ, RingEvent.client e = c → Fits answers e) ∧
    ∀ answers, (∀ e ∈ τ, RingEvent.client e = c → Fits answers e) →
      (s.clients c).phase = .returned →
        ((s.clients c).successes, (s.clients c).failures) = clientRecords cfg answers := by
  refine ⟨exists_answers h c, fun answers hfits hret => ?_⟩
  rw [← resume_run h c hfits]
  simp only [resume, hret]

/-- The client that takes its own failure for that of a peer. -/
theorem ring_client_sequential_alone : ∃ s,
    RingRun ⟨3, 1, false⟩ 1 aloneAndStopped s ∧
    ((s.clients 0).successes, (s.clients 0).failures) =
      clientRecords ⟨3, 1, false⟩ ⟨fun r => if r = 1 then some .submitFailed else none,
        fun _ => true, fun _ => true⟩ := by
  obtain ⟨s, hs⟩ : ∃ s, exec (step ⟨3, 1, false⟩) (initial 1) aloneAndStopped = some s :=
    Option.isSome_iff_exists.mp (by decide)
  have hphase : (exec (step ⟨3, 1, false⟩) (initial 1) aloneAndStopped).map (·.clients 0 |>.phase) =
      some .returned := by decide
  have hret : (s.clients 0).phase = .returned := by simpa [hs] using hphase
  refine ⟨s, run_of_exec hs,
    (ring_client_sequential (run_of_exec hs) 0).2 _ (fun e he _ => ?_) hret⟩
  simp only [aloneAndStopped, List.mem_cons, List.not_mem_nil, or_false] at he
  rcases he with rfl | rfl | rfl | rfl | rfl | rfl <;> simp [Fits]

end Ring

end StatementStore
