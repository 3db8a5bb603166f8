import StatementStoreTools.LabelledCalls
import StatementStoreTools.OpsCommon
import StatementStoreTools.StreamReads

/-!
# The `subscribe` phase

`run_subscribe`: on every endpoint, seed a statement unless a topic is pinned,
then open `reads_per_node` subscriptions one after the other and judge each of
them.  The plain read wants a statement; the read of `--assert-once` wants
exactly one, counting the initial dump and one idle window after it.
-/

namespace StatementStore

open TimedStreams Loops

structure SubscribeConfig where
  readsPerNode : UInt32
  messageSize : UInt64
  baseExpirySecs : UInt64
  runId : UInt64
  settleMs : UInt64
  drainTimeoutMs : UInt64
  topicOverride : Option Bytes32
  assertOnce : Bool

def SubscribeConfig.validate (config : SubscribeConfig) : Except String Unit := do
  ensure (0 < config.readsPerNode) "--reads-per-node must be > 0"
  ensure (0 < config.messageSize) "--message-size must be > 0"
  ensure (0 < config.baseExpirySecs) "--base-expiry-secs must be > 0"
  ensure (0 < config.drainTimeoutMs) "--drain-timeout-ms must be > 0"
  ensure (!config.assertOnce || config.topicOverride.isSome)
    "--assert-once requires --topic (it asserts on a known topic; it never seeds)"

theorem SubscribeConfig.validate_ok {config : SubscribeConfig} :
    config.validate = .ok () ↔
      0 < config.readsPerNode ∧ 0 < config.messageSize ∧ 0 < config.baseExpirySecs ∧
        0 < config.drainTimeoutMs ∧
        (config.assertOnce = true → config.topicOverride.isSome = true) := by
  simp only [SubscribeConfig.validate, validate_bind_ok, ensure_ok, decide_eq_true_eq]
  cases config.assertOnce <;> simp

/-- Outcome of the optional seed step. -/
inductive SeedStatus
  | submitted
  | notSeeded
  | failed
deriving DecidableEq, Repr

def SeedStatus.debug : SeedStatus → String
  | submitted => "Submitted"
  | notSeeded => "NotSeeded"
  | failed => "Failed"

structure SubscribeEndpointReport where
  endpoint : String
  stats : Option Stats
  successes : UInt32
  failures : UInt32
  firstError : Option String
  seedStatus : SeedStatus
  assertOnce : Bool
deriving DecidableEq

/-- Seed one statement, but never under a pinned topic. -/
def ensureSeed (env : OpsEnv) (rpc : Handle) (topic channel : Bytes32) (expiryTs : UInt32)
    (config : SubscribeConfig) (w : World) : Except String SeedStatus × World :=
  if config.topicOverride.isSome then (.ok .notSeeded, w)
  else
    let statement :=
      buildStatement env.keypair topic channel expiryTs 0 (zeroes config.messageSize)
    match submitStatement rpc statement w with
    | (.ok .new, w) => (.ok .submitted, w)
    | (.ok .known, w) => (.ok .submitted, w)
    | (.ok (.other debug), w) => (.error s!"seed submit returned {debug}", w)
    | (.error e, w) => (.error s!"seed submit failed: {e}", w)

/-- Judge a read by what it saw, once the subscription is open. -/
def runSingleRead (fuel : Nat) (rpc : Handle) (topic : Bytes32) (config : SubscribeConfig)
    (w : World) : Option ((Except String Unit × Duration) × World) :=
  match singleTopicFilter topic with
  | .error e => some ((.error e, 0), w)
  | .ok filter =>
      let tStart := w.now
      let drainTo := Duration.fromMillis config.drainTimeoutMs
      match subscribeTopic rpc filter w with
      | (.error e, w) => some ((.error e, w.now - tStart), w)
      | (.ok stream, w) =>
          (drainInitialBatch fuel drainTo stream).map fun drain =>
            let w := w.wait drain.spent
            match drain.result with
            | .error e => ((.error e, w.now - tStart), w)
            | .ok drained =>
                if 0 < drained then ((.ok (), w.now - tStart), w)
                else if config.topicOverride.isSome then
                  let next := nextStatementBatch drainTo drain.rest
                  let w := w.wait next.spent
                  let outcome :=
                    match next.result with
                    | .error e => .error e
                    | .ok n =>
                        if n = 0 then .error "Subscription event delivered 0 statements"
                        else .ok ()
                  ((outcome, w.now - tStart), w)
                else
                  ((.error "Initial dump returned 0 statements; expected the seed statement",
                    w.now - tStart), w)

/-- `*counts.entry(b).or_default() += 1`. -/
def countPayload : List (Bytes × Nat) → Bytes → List (Bytes × Nat)
  | [], b => [(b, 1)]
  | (key, n) :: counts, b =>
      if key = b then (key, n + 1) :: counts else (key, n) :: countPayload counts b

/-- Succeeds iff exactly one statement was received. -/
def assertExactlyOnce (received : List Bytes) (topic : Bytes32) : Except String Unit :=
  if received.length = 1 then .ok ()
  else if received = [] then
    .error s!"topic 0x{hexFull topic}: no statement received; expected exactly one"
  else
    let counts := received.foldl countPayload []
    let distinct := counts.length
    let maxRepeat := (counts.map (·.2)).foldl max 0
    .error (s!"topic 0x{hexFull topic}: received {received.length} statements " ++
      s!"(distinct={distinct}, max_repeat={maxRepeat}); expected exactly one")

theorem assertExactlyOnce_ok {received : List Bytes} {topic : Bytes32} :
    assertExactlyOnce received topic = .ok () ↔ received.length = 1 := by
  unfold assertExactlyOnce
  split
  · simp [*]
  · split <;> simp [*]

/-- The read of `--assert-once`; its latency ends with the initial dump. -/
def runAssertOnceRead (fuel : Nat) (rpc : Handle) (topic : Bytes32) (config : SubscribeConfig)
    (w : World) : Option ((Except String Unit × Duration) × World) :=
  match singleTopicFilter topic with
  | .error e => some ((.error e, 0), w)
  | .ok filter =>
      let window := Duration.fromMillis config.drainTimeoutMs
      let tStart := w.now
      match subscribeTopic rpc filter w with
      | (.error e, w) => some ((.error e, w.now - tStart), w)
      | (.ok stream, w) =>
          (collectInitialDump fuel window stream).bind fun dump =>
            let w := w.wait dump.spent
            let elapsed := w.now - tStart
            match dump.result with
            | .error e => some ((.error e, elapsed), w)
            | .ok received =>
                (collectUntilIdle fuel window dump.rest).map fun watch =>
                  let w := w.wait watch.spent
                  match watch.result with
                  | .error e => ((.error e, elapsed), w)
                  | .ok extra => ((assertExactlyOnce (received ++ extra) topic, elapsed), w)

/-- The counters of an endpoint's reads. -/
structure ReadTally where
  durationsSecs : List Rat
  successes : UInt32
  failures : UInt32
  firstError : Option String

def ReadTally.zero : ReadTally := ⟨[], 0, 0, none⟩

/-- Count one read. -/
def ReadTally.record (tally : ReadTally) (outcome : Except String Unit) (elapsed : Duration) :
    ReadTally :=
  let tally := { tally with durationsSecs := tally.durationsSecs ++ [elapsed.asSecsF64] }
  match outcome with
  | .ok () => { tally with successes := tally.successes + 1 }
  | .error e =>
      { tally with
        failures := tally.failures + 1
        firstError := tally.firstError.or (some e) }

/-- One read of the configured kind. -/
def runRead (fuel : Nat) (rpc : Handle) (topic : Bytes32) (config : SubscribeConfig)
    (w : World) : Option ((Except String Unit × Duration) × World) :=
  if config.assertOnce then runAssertOnceRead fuel rpc topic config w
  else runSingleRead fuel rpc topic config w

/-- `for _ in 0..config.reads_per_node`. -/
def runReads (fuel : Nat) (rpc : Handle) (topic : Bytes32) (config : SubscribeConfig)
    (w : World) : Option (ReadTally × World) :=
  (List.range config.readsPerNode.toNat).foldlM
    (fun state _ => (runRead fuel rpc topic config state.2).map fun read =>
      (state.1.record read.1.1 read.1.2, read.2))
    (ReadTally.zero, w)

/-- The line that tells how the seeding went. -/
def seedLine (endpoint : String) (topic : Bytes32) : SeedStatus → Option String
  | .submitted => some s!"endpoint={endpoint} seeded with new statement on topic 0x{hexShort topic}"
  | .notSeeded => some (s!"endpoint={endpoint} --topic 0x{hexShort topic} set; not seeding " ++
      "(reads time out if no matching statement is present)")
  | .failed => none

def World.logSeed (endpoint : String) (topic : Bytes32) (status : SeedStatus) (w : World) :
    World :=
  match seedLine endpoint topic status with
  | some line => w.logLine line
  | none => w

def subscribeScope (endpointIdx : UInt32) : String :=
  s!"subscribe-{endpointIdx.toNat}"

def runSubscribeOnEndpoint (env : OpsEnv) (fuel : Nat) (endpoint : String) (rpc : Handle)
    (config : SubscribeConfig) (endpointIdx : UInt32) (w : World) :
    Option (SubscribeEndpointReport × World) :=
  let scope := subscribeScope endpointIdx
  let topic := config.topicOverride.getD (deriveTopic env.crates config.runId scope 0)
  let channel := deriveChannel env.crates config.runId scope 0
  let expiryTs := expirySecondsFromNow env.clock w.now config.baseExpirySecs
  match ensureSeed env rpc topic channel expiryTs config w with
  | (.error e, w) =>
      some ({
        endpoint := endpoint
        stats := none
        successes := 0
        failures := 1
        firstError := some e
        seedStatus := .failed
        assertOnce := config.assertOnce }, w)
  | (.ok seedStatus, w) =>
      let w := w.logSeed endpoint topic seedStatus
      let w :=
        if seedStatus = .submitted ∧ 0 < config.settleMs then
          w.wait (Duration.fromMillis config.settleMs)
        else w
      (runReads fuel rpc topic config w).map fun read =>
        ({
          endpoint := endpoint
          stats := calcStats read.1.durationsSecs
          successes := read.1.successes
          failures := read.1.failures
          firstError := read.1.firstError
          seedStatus := seedStatus
          assertOnce := config.assertOnce }, read.2)

/-- The `--assert-once` part of the summary line. -/
def assertOnceSuffix (r : SubscribeEndpointReport) : String :=
  if !r.assertOnce then ""
  else if r.failures = 0 ∧ r.successes = 1 then
    " assert_once=PASS: received the statement exactly once"
  else if r.failures = 0 ∧ 1 < r.successes then
    " assert_once=PASS: received the statement exactly once on each of " ++
      s!"{r.successes.toNat} reads"
  else " assert_once=FAIL: statement not received exactly once"

/-- The counters in front of a summary line. -/
def subscribeReportHead (tag : String) (r : SubscribeEndpointReport) (s : Stats) : String :=
  s!"{tag}subscribe endpoint={r.endpoint} ok={r.successes.toNat} fail={r.failures.toNat} " ++
    s!"min={fixed 4 s.min}s avg={fixed 4 s.avg}s max={fixed 4 s.max}s n={s.count} " ++
    s!"seed={r.seedStatus.debug}"

/-- The summary line of an endpoint. -/
def subscribeReportLine (tag : String) (r : SubscribeEndpointReport) : String :=
  match r.stats with
  | some s => subscribeReportHead tag r s ++ assertOnceSuffix r ++ errSuffix r.firstError
  | none =>
      s!"{tag}subscribe endpoint={r.endpoint} ok={r.successes.toNat} fail={r.failures.toNat} " ++
      s!"no samples (seed={r.seedStatus.debug}{errSuffix r.firstError})"

/-- `run_subscribe`; `none` when one of its reads has not ended. -/
def runSubscribe (env : OpsEnv) (fuel : Nat) (endpoints : List (String × Handle))
    (config : SubscribeConfig) (tag : String) (w : World) :
    Option (Except String (List SubscribeEndpointReport) × World) :=
  match config.validate with
  | .error e => some (.error e, w)
  | .ok () =>
      (endpoints.zipIdx.foldlM
        (fun state entry =>
          (runSubscribeOnEndpoint env fuel entry.1.1 entry.1.2 config (UInt32.ofNat entry.2)
            state.2).map fun out =>
              (state.1 ++ [out.1], out.2.logLine (subscribeReportLine tag out.1)))
        (([] : List SubscribeEndpointReport), w)).map fun done => (.ok done.1, done.2)

/-! ## Reads and endpoints as a whole -/

/-- The filter of a read. -/
def readFilter (topic : Bytes32) : TopicFilter := .matchAll ⟨[topic], by simp⟩

/-- What a read makes of its subscription: the outcome, the time that counts
for its latency, and all the time it takes. -/
def readStream (fuel : Nat) (topic : Bytes32) (config : SubscribeConfig) (stream : EventStream) :
    Option (Except String Unit × Duration × Duration) :=
  let window := Duration.fromMillis config.drainTimeoutMs
  if config.assertOnce then
    (collectInitialDump fuel window stream).bind fun dump =>
      match dump.result with
      | .error e => some (.error e, dump.spent, dump.spent)
      | .ok received =>
          (collectUntilIdle fuel window dump.rest).map fun watch =>
            match watch.result with
            | .error e => (.error e, dump.spent, dump.spent + watch.spent)
            | .ok extra =>
                (assertExactlyOnce (received ++ extra) topic, dump.spent,
                  dump.spent + watch.spent)
  else
    (drainInitialBatch fuel window stream).map fun drain =>
      match drain.result with
      | .error e => (.error e, drain.spent, drain.spent)
      | .ok drained =>
          if 0 < drained then (.ok (), drain.spent, drain.spent)
          else if config.topicOverride.isSome then
            let next := nextStatementBatch window drain.rest
            let outcome :=
              match next.result with
              | .error e => .error e
              | .ok n =>
                  if n = 0 then .error "Subscription event delivered 0 statements" else .ok ()
            (outcome, drain.spent + next.spent, drain.spent + next.spent)
          else
            (.error "Initial dump returned 0 statements; expected the seed statement",
              drain.spent, drain.spent)

/-- The topic that endpoint `idx` reads. -/
def readTopic (env : OpsEnv) (config : SubscribeConfig) (idx : Nat) : Bytes32 :=
  config.topicOverride.getD (deriveTopic env.crates config.runId
    (subscribeScope (UInt32.ofNat idx)) 0)

/-- Seeding endpoint `idx`. -/
def seedEndpoint (env : OpsEnv) (config : SubscribeConfig) (rpc : Handle) (idx : Nat)
    (w : World) : Except String SeedStatus × World :=
  ensureSeed env rpc (readTopic env config idx)
    (deriveChannel env.crates config.runId (subscribeScope (UInt32.ofNat idx)) 0)
    (expirySecondsFromNow env.clock w.now config.baseExpirySecs) config w

/-- The seed of endpoint `idx`, at time `now`. -/
def seedStatement (env : OpsEnv) (config : SubscribeConfig) (idx : Nat) (now : Instant) :
    Statement :=
  buildStatement env.keypair (readTopic env config idx)
    (deriveChannel env.crates config.runId (subscribeScope (UInt32.ofNat idx)) 0)
    (expirySecondsFromNow env.clock now config.baseExpirySecs) 0 (zeroes config.messageSize)

/-- What seeding makes of the answer to its submission. -/
def seedOutcome : Except String SubmitResult → Except String SeedStatus
  | .ok .new => .ok .submitted
  | .ok .known => .ok .submitted
  | .ok (.other debug) => .error s!"seed submit returned {debug}"
  | .error e => .error s!"seed submit failed: {e}"

/-- Between the seeding and the reads: a line in the log, and time to settle. -/
def settle (env : OpsEnv) (endpoint : String) (config : SubscribeConfig) (idx : Nat)
    (status : SeedStatus) (w : World) : World :=
  if status = .submitted ∧ 0 < config.settleMs then
    (w.logSeed endpoint (readTopic env config idx) status).wait
      (Duration.fromMillis config.settleMs)
  else w.logSeed endpoint (readTopic env config idx) status

/-- The report of an endpoint whose seed has failed. -/
def seedFailedReport (endpoint e : String) (config : SubscribeConfig) :
    SubscribeEndpointReport where
  endpoint := endpoint
  stats := none
  successes := 0
  failures := 1
  firstError := some e
  seedStatus := .failed
  assertOnce := config.assertOnce

/-- The report of an endpoint by the tally of its reads. -/
def readsReport (endpoint : String) (config : SubscribeConfig) (status : SeedStatus)
    (tally : ReadTally) : SubscribeEndpointReport where
  endpoint := endpoint
  stats := calcStats tally.durationsSecs
  successes := tally.successes
  failures := tally.failures
  firstError := tally.firstError
  seedStatus := status
  assertOnce := config.assertOnce

section Whole

variable {env : OpsEnv} {fuel : Nat} {endpoint : String} {rpc : Handle} {topic : Bytes32}
  {config : SubscribeConfig} {idx : Nat} {w : World}

theorem singleTopicFilter_read : singleTopicFilter topic = .ok (readFilter topic) :=
  singleTopicFilter_ok topic

/-- A read opens a subscription and makes something of it. -/
theorem runRead_eq :
    runRead fuel rpc topic config w =
      match (subscribeTopic rpc (readFilter topic) w).1 with
      | .error e => some ((.error e, (subscribeTopic rpc (readFilter topic) w).2.now - w.now),
          (subscribeTopic rpc (readFilter topic) w).2)
      | .ok stream =>
          (readStream fuel topic config stream).map fun out =>
            ((out.1, ((subscribeTopic rpc (readFilter topic) w).2.wait out.2.1).now - w.now),
              (subscribeTopic rpc (readFilter topic) w).2.wait out.2.2) := by
  rcases hsub : subscribeTopic rpc (readFilter topic) w with ⟨e | stream, u⟩
  · by_cases hassert : config.assertOnce
    · simp only [runRead, if_pos hassert, runAssertOnceRead, singleTopicFilter_read, hsub]
    · simp only [runRead, if_neg hassert, runSingleRead, singleTopicFilter_read, hsub]
  · by_cases hassert : config.assertOnce
    · simp only [runRead, if_pos hassert, runAssertOnceRead, singleTopicFilter_read, hsub,
        readStream]
      rcases collectInitialDump fuel _ stream with _ | dump
      · rfl
      · rcases hdump : dump.result with e | received
        · simp [hdump]
        · simp only [Option.bind_some, hdump, Option.map_map]
          refine congrArg (fun f => Option.map f _) (funext fun watch => ?_)
          cases hwatch : watch.result <;> simp [hwatch, wait_wait]
    · simp only [runRead, if_neg hassert, runSingleRead, singleTopicFilter_read, hsub,
        readStream, Option.map_map]
      refine congrArg (fun f => Option.map f _) (funext fun drain => ?_)
      cases hdrain : drain.result with
      | error e => simp [hdrain]
      | ok drained =>
          by_cases hsome : 0 < drained
          · simp [hdrain, hsome]
          · by_cases hpinned : config.topicOverride.isSome
            · cases hnext : (nextStatementBatch (Duration.fromMillis config.drainTimeoutMs)
                drain.rest).result <;> simp [hdrain, hsome, hpinned, hnext, wait_wait]
            · simp [hdrain, hsome, hpinned]

theorem seedEndpoint_eq (env : OpsEnv) (config : SubscribeConfig) (rpc : Handle) (idx : Nat)
    (w : World) :
    seedEndpoint env config rpc idx w =
      if config.topicOverride.isSome then (.ok .notSeeded, w)
      else (seedOutcome (submitStatement rpc (seedStatement env config idx w.now) w).1,
        (submitStatement rpc (seedStatement env config idx w.now) w).2) := by
  unfold seedEndpoint ensureSeed
  by_cases hpinned : config.topicOverride.isSome
  · rw [if_pos hpinned, if_pos hpinned]
  · rw [if_neg hpinned, if_neg hpinned]
    rcases hsubmit : submitStatement rpc (seedStatement env config idx w.now) w with
      ⟨e | _ | _ | debug, v⟩ <;>
    · rw [seedStatement] at hsubmit
      simp only [hsubmit]
      rfl

/-- An endpoint is seeded, settles and is read. -/
theorem runSubscribeOnEndpoint_eq :
    runSubscribeOnEndpoint env fuel endpoint rpc config (UInt32.ofNat idx) w =
      match (seedEndpoint env config rpc idx w).1 with
      | .error e => some (seedFailedReport endpoint e config, (seedEndpoint env config rpc idx w).2)
      | .ok status =>
          (runReads fuel rpc (readTopic env config idx) config
            (settle env endpoint config idx status (seedEndpoint env config rpc idx w).2)).map
              fun read => (readsReport endpoint config status read.1, read.2) := by
  rcases hseed : seedEndpoint env config rpc idx w with ⟨e | status, v⟩
  · rw [seedEndpoint, readTopic] at hseed
    simp only [runSubscribeOnEndpoint, hseed]
    rfl
  · rw [seedEndpoint, readTopic] at hseed
    simp only [runSubscribeOnEndpoint, hseed]
    rfl

end Whole

/-! ## What the phase sends -/

/-- The label of an endpoint's seed. -/
def seedLabel (env : OpsEnv) (config : SubscribeConfig) (endpointIdx : UInt32) : Label where
  signer := some env.keypair.account
  channel := some (deriveChannel env.crates config.runId (subscribeScope endpointIdx) 0)
  topics := [config.topicOverride.getD
    (deriveTopic env.crates config.runId (subscribeScope endpointIdx) 0)]

section Sent

variable {env : OpsEnv} {fuel : Nat} {rpc : Handle} {topic channel : Bytes32}
  {expiryTs endpointIdx : UInt32} {config : SubscribeConfig} {w w' : World}

theorem runRead_quiet {out : Except String Unit × Duration}
    (h : runRead fuel rpc topic config w = some (out, w')) :
    ∃ new, Extends w w' new ∧ Quiet new := by
  have hextends := subscribeTopic_extends rpc (readFilter topic) w
  rw [runRead_eq] at h
  cases hopen : (subscribeTopic rpc (readFilter topic) w).1 with
  | error e =>
      rw [hopen] at h
      obtain ⟨-, rfl⟩ := Prod.mk.inj (Option.some.inj h)
      exact ⟨_, hextends, quiet_matchAll ..⟩
  | ok stream =>
      rw [hopen] at h
      obtain ⟨read, -, heq⟩ := Option.map_eq_some_iff.mp h
      obtain ⟨-, rfl⟩ := Prod.mk.inj heq
      exact ⟨_, hextends.wait _, quiet_matchAll ..⟩

theorem runReads_quiet {tally : ReadTally}
    (h : runReads fuel rpc topic config w = some (tally, w')) :
    ∃ new, Extends w w' new ∧ Quiet new := by
  have hrule := foldlM_rule
    (fun _ (state : ReadTally × World) => ∃ new, Extends w state.2 new ∧ Quiet new)
    ?turn ⟨[], Extends.refl w, .nil⟩ h
  · exact hrule
  case turn =>
    intro done i rest state state' _ hgiven hturn
    obtain ⟨new, hnew, hquiet⟩ := hgiven
    obtain ⟨⟨read, v⟩, hone, rfl⟩ := Option.map_eq_some_iff.mp hturn
    obtain ⟨more, hmore, hquiet'⟩ := runRead_quiet hone
    exact ⟨new ++ more, hnew.trans hmore, hquiet.append hquiet'⟩

/-- Seeding makes one submission at most, of the labelled statement. -/
theorem seedEndpoint_extends (env : OpsEnv) (config : SubscribeConfig) (rpc : Handle) (idx : Nat)
    (w : World) :
    ∃ new, Extends w (seedEndpoint env config rpc idx w).2 new ∧
      ∀ more, Quiet more → CallsFor (seedLabel env config (UInt32.ofNat idx)) (new ++ more) := by
  rw [seedEndpoint_eq]
  split
  · exact ⟨[], Extends.refl w, fun more hquiet => hquiet.callsFor⟩
  · exact ⟨_, submitStatement_extends rpc (seedStatement env config idx w.now) w,
      fun more hquiet => hquiet.callsFor_submit rfl⟩

theorem logSeed_extends (endpoint : String) (topic : Bytes32) (status : SeedStatus) (v : World) :
    Extends v (v.logSeed endpoint topic status) [] := by
  unfold World.logSeed
  split
  · exact (Extends.refl v).logLine _
  · exact Extends.refl v

theorem settle_extends (endpoint : String) (idx : Nat) (status : SeedStatus) (v : World) :
    Extends v (settle env endpoint config idx status v) [] := by
  have hlogged := logSeed_extends endpoint (readTopic env config idx) status v
  unfold settle
  split
  · exact hlogged.wait _
  · exact hlogged

theorem runSubscribeOnEndpoint_extends {endpoint : String} {idx : Nat}
    {report : SubscribeEndpointReport}
    (h : runSubscribeOnEndpoint env fuel endpoint rpc config (UInt32.ofNat idx) w =
      some (report, w')) :
    ∃ new, Extends w w' new ∧ CallsFor (seedLabel env config (UInt32.ofNat idx)) new := by
  obtain ⟨new, hnew, hfor⟩ := seedEndpoint_extends env config rpc idx w
  rw [runSubscribeOnEndpoint_eq] at h
  cases hseed : (seedEndpoint env config rpc idx w).1 with
  | error e =>
      rw [hseed] at h
      obtain ⟨-, rfl⟩ := Prod.mk.inj (Option.some.inj h)
      have hnone := hfor [] .nil
      rw [List.append_nil] at hnone
      exact ⟨new, hnew, hnone⟩
  | ok status =>
      rw [hseed] at h
      obtain ⟨⟨tally, v⟩, hreads, heq⟩ := Option.map_eq_some_iff.mp h
      obtain ⟨-, rfl⟩ := Prod.mk.inj heq
      obtain ⟨more, hmore, hquiet⟩ := runReads_quiet hreads
      exact ⟨new ++ more, hnew.trans ((settle_extends endpoint idx status _).trans hmore),
        hfor more hquiet⟩

/-- **All endpoints.**  With an accepted configuration the phase does not fail,
and its calls follow the labels of the seeds. -/
theorem runSubscribe_extends (hvalid : config.validate = .ok ())
    {endpoints : List (String × Handle)} {tag : String}
    {out : Except String (List SubscribeEndpointReport)}
    (h : runSubscribe env fuel endpoints config tag w = some (out, w')) :
    (∃ reports, out = .ok reports) ∧ ∃ new, Extends w w' new ∧
      CallsForAll (endpoints.zipIdx.map fun entry =>
        seedLabel env config (UInt32.ofNat entry.2)) new := by
  simp only [runSubscribe, hvalid] at h
  obtain ⟨⟨perEndpoint, v⟩, hfold, heq⟩ := Option.map_eq_some_iff.mp h
  obtain ⟨rfl, rfl⟩ := Prod.mk.inj heq
  have hrule := foldlM_rule
    (fun done (state : List SubscribeEndpointReport × World) => ∃ new, Extends w state.2 new ∧
      CallsForAll (done.map fun entry => seedLabel env config (UInt32.ofNat entry.2)) new)
    ?turn ⟨[], Extends.refl w, .nil⟩ hfold
  · exact ⟨⟨_, rfl⟩, hrule⟩
  case turn =>
    intro done entry rest state state' _ hgiven hturn
    obtain ⟨new, hnew, hall⟩ := hgiven
    obtain ⟨⟨report, v⟩, hone, rfl⟩ := Option.map_eq_some_iff.mp hturn
    obtain ⟨more, hmore, hfor⟩ := runSubscribeOnEndpoint_extends hone
    refine ⟨new ++ more, (hnew.trans hmore).logLine _, ?_⟩
    rw [List.map_append]
    exact hall.append hfor.all

theorem runSubscribe_now_le {endpoints : List (String × Handle)} {tag : String}
    {out : Except String (List SubscribeEndpointReport)}
    (h : runSubscribe env fuel endpoints config tag w = some (out, w')) : w.now ≤ w'.now := by
  cases hvalid : config.validate with
  | error e =>
      simp only [runSubscribe, hvalid, Option.some.injEq, Prod.mk.injEq] at h
      exact h.2 ▸ Nat.le_refl _
  | ok u =>
      obtain ⟨-, new, hnew, -⟩ := runSubscribe_extends hvalid h
      exact hnew.now_le

end Sent

end StatementStore
