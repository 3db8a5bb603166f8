import StatementStoreTools.LabelledCalls
import StatementStoreTools.OpsCommon
import StatementStoreTools.StreamReads

/-!
# The `propagation` phase

`run_propagation`: for every pair of a submit and a subscribe endpoint, in
row-major order, run the configured number of iterations.  An iteration opens
a subscription to its topic, drains the initial dump, submits one statement
and waits for the next event of the subscription, which stops the timer.

`runSingleIteration_spec` says what one iteration does to the world, and when
it ends as a success.
-/

namespace StatementStore

open TimedStreams Loops

structure PropagationConfig where
  iterations : UInt32
  messageSize : UInt64
  baseExpirySecs : UInt64
  runId : UInt64
  drainTimeoutMs : UInt64
  receiveTimeoutMs : UInt64
  topicOverride : Option Bytes32

def PropagationConfig.validate (config : PropagationConfig) : Except String Unit := do
  ensure (0 < config.iterations) "--iterations must be > 0"
  ensure (0 < config.messageSize) "--message-size must be > 0"
  ensure (0 < config.baseExpirySecs) "--base-expiry-secs must be > 0"
  ensure (0 < config.drainTimeoutMs) "--drain-timeout-ms must be > 0"
  ensure (0 < config.receiveTimeoutMs) "--receive-timeout-ms must be > 0"

theorem PropagationConfig.validate_ok {config : PropagationConfig} :
    config.validate = .ok () ↔
      0 < config.iterations ∧ 0 < config.messageSize ∧ 0 < config.baseExpirySecs ∧
        0 < config.drainTimeoutMs ∧ 0 < config.receiveTimeoutMs := by
  simp only [PropagationConfig.validate, validate_bind_ok, ensure_ok, decide_eq_true_eq]

structure PropagationPairReport where
  submitEndpoint : String
  subscribeEndpoint : String
  propagationStats : Option Stats
  submitStats : Option Stats
  successes : UInt32
  failures : UInt32
  firstError : Option String
deriving DecidableEq

def topicFilterFrom (topic : Bytes32) : Except String TopicFilter :=
  match BoundedVec.tryFrom 128 [topic] with
  | some topics => .ok (.matchAny topics)
  | none => .error "Failed to build BoundedVec for topic filter"

/-- The filter that asks for one topic. -/
def matchAnyOf (topic : Bytes32) : TopicFilter := .matchAny ⟨[topic], by simp⟩

theorem topicFilterFrom_ok (topic : Bytes32) : topicFilterFrom topic = .ok (matchAnyOf topic) := by
  rw [topicFilterFrom, BoundedVec.tryFrom_of_le (by simp), matchAnyOf]

/-- Partial timing of an iteration, as far as it got. -/
structure IterationTiming where
  submitDur : Option Duration
  propagationDur : Option Duration
  outcome : Except String Unit

def IterationTiming.err (e : String) : IterationTiming := ⟨none, none, .error e⟩

/-- The timed part of an iteration, from `t_start` on: submit, then wait for the
next event of the subscription. -/
def submitAndReceive (submitRpc : Handle) (statement : Statement) (receiveTimeout : Duration)
    (stream : EventStream) (w : World) : IterationTiming × World :=
  let tStart := w.now
  let submission := submitStatement submitRpc statement w
  let w := submission.2
  let submitDur := some (w.now - tStart)
  match accepted submission.1 with
  | .error e => (⟨submitDur, none, .error e⟩, w)
  | .ok () =>
      let next := nextStatementBatch receiveTimeout stream
      let w := w.wait next.spent
      match next.result with
      | .error e => (⟨submitDur, none, .error e⟩, w)
      | .ok received =>
          if received = 0 then
            (⟨submitDur, none, .error "Subscription event delivered 0 statements"⟩, w)
          else (⟨submitDur, some (w.now - tStart), .ok ()⟩, w)

def runSingleIteration (env : OpsEnv) (fuel : Nat) (submitRpc subscribeRpc : Handle)
    (topic channel : Bytes32) (expiryTs seq : UInt32) (data : Bytes)
    (config : PropagationConfig) (w : World) : Option (IterationTiming × World) :=
  match topicFilterFrom topic with
  | .error e => some (.err e, w)
  | .ok filter =>
      match subscribeTopic subscribeRpc filter w with
      | (.error e, w) => some (.err e, w)
      | (.ok stream, w) =>
          (drainInitialBatch fuel (Duration.fromMillis config.drainTimeoutMs) stream).map
            fun drain =>
              let w := w.wait drain.spent
              match drain.result with
              | .error e => (.err e, w)
              | .ok drained =>
                  if config.topicOverride.isNone ∧ drained ≠ 0 then
                    (.err (s!"Initial dump for unique topic was not empty (got {drained}); " ++
                      "run-id namespacing failed"), w)
                  else
                    submitAndReceive submitRpc
                      (buildStatement env.keypair topic channel expiryTs seq data)
                      (Duration.fromMillis config.receiveTimeoutMs) drain.rest w

/-- The counters of a pair's iterations. -/
structure PairTally where
  propDurations : List Rat
  submitDurations : List Rat
  successes : UInt32
  failures : UInt32
  firstError : Option String

def PairTally.zero : PairTally := ⟨[], [], 0, 0, none⟩

/-- Record whatever the iteration produced. -/
def PairTally.record (tally : PairTally) (timing : IterationTiming) : PairTally :=
  let tally := { tally with
    submitDurations :=
      tally.submitDurations ++ (timing.submitDur.map Duration.asSecsF64).toList
    propDurations :=
      tally.propDurations ++ (timing.propagationDur.map Duration.asSecsF64).toList }
  match timing.outcome with
  | .ok () => { tally with successes := tally.successes + 1 }
  | .error e =>
      { tally with
        failures := tally.failures + 1
        firstError := tally.firstError.or (some e) }

def propagationScope (scopeIdx : UInt32) : String :=
  s!"prop-{scopeIdx.toNat}"

/-- The topic of iteration `i`. -/
def propagationTopic (crates : Crates) (config : PropagationConfig) (scopeIdx i : UInt32) :
    Bytes32 :=
  config.topicOverride.getD (deriveTopic crates config.runId (propagationScope scopeIdx) i)

/-- The channel of iteration `i`. -/
def propagationChannel (crates : Crates) (config : PropagationConfig) (scopeIdx i : UInt32) :
    Bytes32 :=
  deriveChannel crates config.runId (propagationScope scopeIdx) i

/-- Iteration `i` of a pair. -/
def runIteration (env : OpsEnv) (fuel : Nat) (submitRpc subscribeRpc : Handle)
    (config : PropagationConfig) (scopeIdx baseExpiry i : UInt32) (w : World) :
    Option (IterationTiming × World) :=
  runSingleIteration env fuel submitRpc subscribeRpc
    (propagationTopic env.crates config scopeIdx i)
    (propagationChannel env.crates config scopeIdx i)
    (saturatingAdd32 baseExpiry i) i (zeroes config.messageSize) config w

/-- The first `n` iterations of a pair. -/
def runIterations (env : OpsEnv) (fuel : Nat) (submitRpc subscribeRpc : Handle)
    (config : PropagationConfig) (scopeIdx baseExpiry : UInt32) (n : Nat) (w : World) :
    Option (PairTally × World) :=
  (List.range n).foldlM
    (fun state i =>
      (runIteration env fuel submitRpc subscribeRpc config scopeIdx baseExpiry (UInt32.ofNat i)
        state.2).map fun out => (state.1.record out.1, out.2))
    (PairTally.zero, w)

def runPair (env : OpsEnv) (fuel : Nat) (submitEndpoint : String) (submitRpc : Handle)
    (subscribeEndpoint : String) (subscribeRpc : Handle) (config : PropagationConfig)
    (scopeIdx : UInt32) (w : World) : Option (PropagationPairReport × World) :=
  let baseExpiry := expirySecondsFromNow env.clock w.now config.baseExpirySecs
  (runIterations env fuel submitRpc subscribeRpc config scopeIdx baseExpiry
    config.iterations.toNat w).map fun out =>
      ({
        submitEndpoint := submitEndpoint
        subscribeEndpoint := subscribeEndpoint
        propagationStats := calcStats out.1.propDurations
        submitStats := calcStats out.1.submitDurations
        successes := out.1.successes
        failures := out.1.failures
        firstError := out.1.firstError }, out.2)

/-- `log_pair_report`. -/
def pairReportLine (tag : String) (r : PropagationPairReport) : String :=
  let propPart :=
    match r.propagationStats with
    | some p => s!"prop_min={fixed 4 p.min}s prop_avg={fixed 4 p.avg}s " ++
        s!"prop_max={fixed 4 p.max}s n={p.count}"
    | none => "prop=none"
  let submitPart :=
    match r.submitStats with
    | some s => s!"submit_min={fixed 4 s.min}s submit_avg={fixed 4 s.avg}s " ++
        s!"submit_max={fixed 4 s.max}s submit_n={s.count}"
    | none => "submit=none"
  s!"{tag}propagation submit_endpoint={r.submitEndpoint} " ++
    s!"subscribe_endpoint={r.subscribeEndpoint} ok={r.successes.toNat} " ++
    s!"fail={r.failures.toNat} {propPart} {submitPart}{errSuffix r.firstError}"

/-- The Cartesian product in row-major order, each pair with its index. -/
def endpointPairs (submitEndpoints subscribeEndpoints : List (String × Handle)) :
    List (((String × Handle) × (String × Handle)) × Nat) :=
  submitEndpoints.zipIdx.flatMap fun s =>
    subscribeEndpoints.zipIdx.map fun b =>
      ((s.1, b.1), s.2 * subscribeEndpoints.length + b.2)

/-- `run_propagation`; `none` when a drain of one of its iterations has not
ended. -/
def runPropagation (env : OpsEnv) (fuel : Nat)
    (submitEndpoints subscribeEndpoints : List (String × Handle)) (config : PropagationConfig)
    (tag : String) (w : World) :
    Option (Except String (List PropagationPairReport) × World) :=
  match config.validate with
  | .error e => some (.error e, w)
  | .ok () =>
      if submitEndpoints = [] then
        some (.error "--submit-endpoints must list at least one endpoint", w)
      else if subscribeEndpoints = [] then
        some (.error "--subscribe-endpoints must list at least one endpoint", w)
      else
        ((endpointPairs submitEndpoints subscribeEndpoints).foldlM
          (fun state pair =>
            (runPair env fuel pair.1.1.1 pair.1.1.2 pair.1.2.1 pair.1.2.2 config
              (UInt32.ofNat pair.2) state.2).map fun out =>
                (state.1 ++ [out.1], out.2.logLine (pairReportLine tag out.1)))
          (([] : List PropagationPairReport), w)).map fun done => (.ok done.1, done.2)

/-! ## What one iteration does -/

/-- The iteration that starts in `w` gets as far as waiting for an event: the
subscription opens with `stream`, its dump ends at poll `b`, is empty unless
the topic is pinned, and the submission is accepted. -/
def AwaitsAt (config : PropagationConfig) (submitRpc subscribeRpc : Handle) (w : World)
    (stream : EventStream) (b : Nat) : Prop :=
  (w.conns subscribeRpc).subscriptions.head.2 = .ok stream ∧
    DumpEndsAt (Duration.fromMillis config.drainTimeoutMs) stream b ∧
    (config.topicOverride = none → payloads stream (b + 1) = []) ∧
    accepted (w.conns submitRpc).submits.head.2 = .ok ()

/-- The first poll after the dump delivers `ev` in time. -/
def NextDelivers (config : PropagationConfig) (stream : EventStream) (b : Nat)
    (ev : StatementEvent) : Prop :=
  DeliversAt (Duration.fromMillis config.receiveTimeoutMs) stream (b + 1) ev

/-- What an iteration leaves behind: one subscription and, when it got that
far, one submission. -/
structure Iterated (submitRpc subscribeRpc : Handle) (topic : Bytes32) (statement : Statement)
    (timing : IterationTiming) (before after : World) : Prop where
  log : after.log = before.log
  now_le : before.now ≤ after.now
  calls : ∃ t, after.calls = before.calls ++
    .subscribe subscribeRpc before.now (matchAnyOf topic) ::
      if timing.submitDur.isSome then [.submit submitRpc t statement] else []
  recorded : timing.propagationDur.isSome ↔ timing.outcome = .ok ()
  submitted : timing.outcome = .ok () → timing.submitDur.isSome

/-- An iteration from the end of its drain on. -/
def afterDrain (config : PropagationConfig) (submitRpc : Handle) (statement : Statement)
    (drain : Reading (Except String StatementEvent) (Except String Nat)) (w : World) :
    IterationTiming × World :=
  let w := w.wait drain.spent
  match drain.result with
  | .error e => (.err e, w)
  | .ok drained =>
      if config.topicOverride.isNone ∧ drained ≠ 0 then
        (.err (s!"Initial dump for unique topic was not empty (got {drained}); " ++
          "run-id namespacing failed"), w)
      else
        submitAndReceive submitRpc statement (Duration.fromMillis config.receiveTimeoutMs)
          drain.rest w

/-- What the timed part of an iteration leaves behind. -/
structure Measured (submitRpc : Handle) (statement : Statement) (timing : IterationTiming)
    (before after : World) : Prop where
  log : after.log = before.log
  now_le : before.now ≤ after.now
  calls : after.calls = before.calls ++ [.submit submitRpc before.now statement]
  recorded : timing.propagationDur.isSome ↔ timing.outcome = .ok ()
  submitted : timing.submitDur.isSome

section Iteration

variable {env : OpsEnv} {fuel : Nat} {submitRpc subscribeRpc : Handle}
  {topic channel : Bytes32} {expiryTs seq : UInt32} {data : Bytes} {config : PropagationConfig}
  {w w' : World} {timing : IterationTiming}

theorem submitAndReceive_measured (submitRpc : Handle) (statement : Statement)
    (window : Duration) (s : EventStream) (w : World) :
    Measured submitRpc statement (submitAndReceive submitRpc statement window s w).1 w
      (submitAndReceive submitRpc statement window s w).2 := by
  have htime := submitStatement_now_le submitRpc w statement
  have hwaited := Nat.le_add_right_of_le (k := (nextStatementBatch window s).spent) htime
  simp only [submitAndReceive]
  cases accepted (submitStatement submitRpc statement w).1 with
  | error e => exact ⟨rfl, htime, rfl, by simp, rfl⟩
  | ok u =>
      cases (nextStatementBatch window s).result with
      | error e => exact ⟨rfl, hwaited, rfl, by simp, rfl⟩
      | ok received =>
          by_cases hzero : received = 0
          · simp only [if_pos hzero]
            exact ⟨rfl, hwaited, rfl, by simp, rfl⟩
          · simp only [if_neg hzero]
            exact ⟨rfl, hwaited, rfl, by simp, rfl⟩

theorem submitAndReceive_ok (submitRpc : Handle) (statement : Statement) (window : Duration)
    (s : EventStream) (i : Nat) (w : World) :
    (submitAndReceive submitRpc statement window (s.drop i) w).1.outcome = .ok () ↔
      accepted (w.conns submitRpc).submits.head.2 = .ok () ∧
        ∃ ev, DeliversAt window s i ev ∧ ev.statements ≠ [] := by
  have hanswer : (submitStatement submitRpc statement w).1 =
      (w.conns submitRpc).submits.head.2 := rfl
  have hnext := nextStatementBatch_ok window s i
  simp only [submitAndReceive, hanswer]
  cases accepted (w.conns submitRpc).submits.head.2 with
  | error e => simp
  | ok u =>
      cases hresult : (nextStatementBatch window (s.drop i)).result with
      | error e =>
          have hsilent : ∀ ev, ¬ DeliversAt window s i ev := by
            intro ev hev
            cases hresult.symm.trans ((hnext _).mpr ⟨ev, hev, rfl⟩)
          simp [hsilent]
      | ok received =>
          obtain ⟨ev, hev, hlen⟩ := (hnext received).mp hresult
          have hone : ∀ ev', DeliversAt window s i ev' ↔ ev' = ev := by
            intro ev'
            unfold DeliversAt at hev ⊢
            rw [hev]
            simp [eq_comm]
          simp only [hone, exists_eq_left, true_and, ← List.length_eq_zero_iff, ne_eq, hlen]
          by_cases hzero : received = 0 <;> simp [hzero]

/-- An iteration opens a subscription, drains its dump and does the rest. -/
theorem runSingleIteration_eq :
    runSingleIteration env fuel submitRpc subscribeRpc topic channel expiryTs seq data config w =
      match (subscribeTopic subscribeRpc (matchAnyOf topic) w).1 with
      | .error e => some (.err e, (subscribeTopic subscribeRpc (matchAnyOf topic) w).2)
      | .ok stream =>
          (drainInitialBatch fuel (Duration.fromMillis config.drainTimeoutMs) stream).map
            fun drain => afterDrain config submitRpc
              (buildStatement env.keypair topic channel expiryTs seq data) drain
              (subscribeTopic subscribeRpc (matchAnyOf topic) w).2 := by
  simp only [runSingleIteration, topicFilterFrom_ok]
  rcases subscribeTopic subscribeRpc (matchAnyOf topic) w with ⟨e | stream, v⟩ <;> rfl

/-- What an iteration can do. -/
inductive IterationRun (fuel : Nat) (config : PropagationConfig) (submitRpc subscribeRpc : Handle)
    (topic : Bytes32) (statement : Statement) (w : World) : IterationTiming → World → Prop
  /-- its subscription does not open -/
  | refused {e : String} (hopen : (w.conns subscribeRpc).subscriptions.head.2 = .error e) :
      IterationRun fuel config submitRpc subscribeRpc topic statement w (.err e)
        (subscribeTopic subscribeRpc (matchAnyOf topic) w).2
  /-- its dump breaks off, or is not empty although the topic is its own -/
  | stopped {stream : EventStream}
      {drain : Reading (Except String StatementEvent) (Except String Nat)} {e : String}
      (hopen : (w.conns subscribeRpc).subscriptions.head.2 = .ok stream)
      (hdrain : drainInitialBatch fuel (Duration.fromMillis config.drainTimeoutMs) stream =
        some drain)
      (hwhy : ∀ drained, drain.result = .ok drained →
        config.topicOverride = none ∧ drained ≠ 0) :
      IterationRun fuel config submitRpc subscribeRpc topic statement w (.err e)
        ((subscribeTopic subscribeRpc (matchAnyOf topic) w).2.wait drain.spent)
  /-- it comes to its submission -/
  | submits {stream : EventStream}
      {drain : Reading (Except String StatementEvent) (Except String Nat)} {drained : Nat}
      (hopen : (w.conns subscribeRpc).subscriptions.head.2 = .ok stream)
      (hdrain : drainInitialBatch fuel (Duration.fromMillis config.drainTimeoutMs) stream =
        some drain)
      (hresult : drain.result = .ok drained) (hempty : config.topicOverride = none → drained = 0)
      {timing : IterationTiming} {w' : World}
      (hrest : submitAndReceive submitRpc statement (Duration.fromMillis config.receiveTimeoutMs)
        drain.rest ((subscribeTopic subscribeRpc (matchAnyOf topic) w).2.wait drain.spent) =
          (timing, w')) :
      IterationRun fuel config submitRpc subscribeRpc topic statement w timing w'

theorem runSingleIteration_cases
    (h : runSingleIteration env fuel submitRpc subscribeRpc topic channel expiryTs seq data config
      w = some (timing, w')) :
    IterationRun fuel config submitRpc subscribeRpc topic
      (buildStatement env.keypair topic channel expiryTs seq data) w timing w' := by
  rw [runSingleIteration_eq] at h
  cases hopen : (subscribeTopic subscribeRpc (matchAnyOf topic) w).1 with
  | error e =>
      rw [hopen] at h
      obtain ⟨rfl, rfl⟩ := Prod.mk.inj (Option.some.inj h)
      exact .refused hopen
  | ok stream =>
      rw [hopen] at h
      obtain ⟨drain, hdrain, h⟩ := Option.map_eq_some_iff.mp h
      unfold afterDrain at h
      cases hresult : drain.result with
      | error e =>
          simp only [hresult] at h
          obtain ⟨rfl, rfl⟩ := Prod.mk.inj h
          refine .stopped hopen hdrain fun drained hok => ?_
          cases hresult.symm.trans hok
      | ok drained =>
          by_cases hdump : config.topicOverride.isNone ∧ drained ≠ 0
          · simp only [hresult, if_pos hdump] at h
            obtain ⟨rfl, rfl⟩ := Prod.mk.inj h
            refine .stopped hopen hdrain fun drained' hok => ?_
            obtain rfl := Except.ok.inj (hresult.symm.trans hok)
            exact ⟨Option.isNone_iff_eq_none.mp hdump.1, hdump.2⟩
          · simp only [hresult, if_neg hdump] at h
            refine .submits hopen hdrain hresult (fun hplain => ?_) h
            by_contra hne
            exact hdump ⟨by simp [hplain], hne⟩

/-- An iteration that stops at its dump does not get to wait. -/
theorem not_awaitsAt_of_stopped {stream stream' : EventStream} {b : Nat}
    {drain : Reading (Except String StatementEvent) (Except String Nat)}
    (hopen : (w.conns subscribeRpc).subscriptions.head.2 = .ok stream)
    (hdrain : drainInitialBatch fuel (Duration.fromMillis config.drainTimeoutMs) stream =
      some drain)
    (hwhy : ∀ drained, drain.result = .ok drained → config.topicOverride = none ∧ drained ≠ 0) :
    ¬ AwaitsAt config submitRpc subscribeRpc w stream' b := by
  intro hgiven
  obtain ⟨hs, hend, hplain, -⟩ := hgiven
  obtain rfl := Except.ok.inj (hopen.symm.trans hs)
  cases hresult : drain.result with
  | error e => exact absurd hend (drainInitialBatch_error hdrain hresult)
  | ok drained =>
      obtain ⟨b', hend', hcount, -⟩ := drainInitialBatch_ok hdrain hresult
      obtain ⟨hnone, hne⟩ := hwhy drained hresult
      rw [hend'.unique hend, hplain hnone] at hcount
      exact absurd hcount hne

/-- **One iteration.**  It ends as a success exactly when it gets to wait for
an event and the first one to come, in time, carries a statement: which one is
not looked at. -/
theorem runSingleIteration_spec
    (h : runSingleIteration env fuel submitRpc subscribeRpc topic channel expiryTs seq data config
      w = some (timing, w')) :
    Iterated submitRpc subscribeRpc topic
        (buildStatement env.keypair topic channel expiryTs seq data) timing w w' ∧
      (timing.outcome = .ok () ↔ ∃ stream b,
        AwaitsAt config submitRpc subscribeRpc w stream b ∧
          ∃ ev, NextDelivers config stream b ev ∧ ev.statements ≠ []) := by
  have hnow := subscribeTopic_now_le subscribeRpc w (matchAnyOf topic)
  have hcalls := subscribeTopic_calls subscribeRpc w (matchAnyOf topic)
  have hlog := subscribeTopic_log subscribeRpc w (matchAnyOf topic)
  cases runSingleIteration_cases h with
  | refused hopen =>
      refine ⟨⟨hlog, hnow, ⟨0, hcalls⟩, by simp [IterationTiming.err], fun hok => by cases hok⟩,
        fun hok => (by cases hok), ?_⟩
      intro hgiven
      obtain ⟨stream, b, hwait, -⟩ := hgiven
      cases hopen.symm.trans hwait.1
  | @stopped stream drain e hopen hdrain hwhy =>
      refine ⟨⟨hlog, Nat.le_add_right_of_le hnow, ⟨0, hcalls⟩, by simp [IterationTiming.err],
        fun hok => by cases hok⟩, fun hok => (by cases hok), ?_⟩
      intro hgiven
      obtain ⟨s, b, hwait, -⟩ := hgiven
      exact absurd hwait (not_awaitsAt_of_stopped hopen hdrain hwhy)
  | @submits stream drain drained hopen hdrain hresult hempty _ _ hrun =>
      obtain ⟨b, hend, hcount, hrest⟩ := drainInitialBatch_ok hdrain hresult
      rw [hrest] at hrun
      have hmeasured := submitAndReceive_measured submitRpc
        (buildStatement env.keypair topic channel expiryTs seq data)
        (Duration.fromMillis config.receiveTimeoutMs) (stream.drop (b + 1))
        ((subscribeTopic subscribeRpc (matchAnyOf topic) w).2.wait drain.spent)
      have hjudged := submitAndReceive_ok submitRpc
        (buildStatement env.keypair topic channel expiryTs seq data)
        (Duration.fromMillis config.receiveTimeoutMs) stream (b + 1)
        ((subscribeTopic subscribeRpc (matchAnyOf topic) w).2.wait drain.spent)
      rw [hrun] at hmeasured hjudged
      rw [wait_conns, subscribeTopic_submits subscribeRpc w] at hjudged
      refine ⟨⟨hmeasured.log.trans hlog, (Nat.le_add_right_of_le hnow).trans hmeasured.now_le,
        ⟨(subscribeTopic subscribeRpc (matchAnyOf topic) w).2.now + drain.spent, ?_⟩,
        hmeasured.recorded, fun _ => hmeasured.submitted⟩, ?_⟩
      · rw [hmeasured.calls, if_pos hmeasured.submitted, wait_calls, hcalls, List.append_assoc]
        rfl
      · rw [hjudged]
        constructor
        · intro hgiven
          obtain ⟨hacc, hnext⟩ := hgiven
          refine ⟨stream, b, ⟨hopen, hend, fun hplain => ?_, hacc⟩, hnext⟩
          exact List.length_eq_zero_iff.mp (hcount.symm.trans (hempty hplain))
        · intro hgiven
          obtain ⟨s, b', ⟨hs, hend', -, hacc⟩, hnext⟩ := hgiven
          obtain rfl := Except.ok.inj (hopen.symm.trans hs)
          obtain rfl := hend'.unique hend
          exact ⟨hacc, hnext⟩

end Iteration

/-! ## What the phase sends -/

/-- The label of the statement of iteration `i` of a pair. -/
def propagationLabel (env : OpsEnv) (config : PropagationConfig) (scopeIdx i : UInt32) :
    Label where
  signer := some env.keypair.account
  channel := some (propagationChannel env.crates config scopeIdx i)
  topics := [propagationTopic env.crates config scopeIdx i]

/-- The labels of a pair, in order. -/
def pairLabels (env : OpsEnv) (config : PropagationConfig) (scopeIdx : UInt32) : List Label :=
  (List.range config.iterations.toNat).map fun i =>
    propagationLabel env config scopeIdx (UInt32.ofNat i)

section Sent

variable {env : OpsEnv} {fuel : Nat} {submitRpc subscribeRpc : Handle}
  {config : PropagationConfig} {scopeIdx baseExpiry i : UInt32} {w w' : World}

theorem runIteration_extends {timing : IterationTiming}
    (h : runIteration env fuel submitRpc subscribeRpc config scopeIdx baseExpiry i w =
      some (timing, w')) :
    ∃ new, Extends w w' new ∧ CallsFor (propagationLabel env config scopeIdx i) new := by
  obtain ⟨hdone, -⟩ := runSingleIteration_spec h
  obtain ⟨t, hcalls⟩ := hdone.calls
  refine ⟨_, ⟨hcalls, hdone.now_le⟩, ?_⟩
  by_cases hsubmitted : timing.submitDur.isSome
  · rw [if_pos hsubmitted]
    exact callsFor_probe_submit rfl rfl
  · rw [if_neg hsubmitted]
    exact callsFor_probe rfl

theorem runIterations_extends {tally : PairTally} {n : Nat}
    (h : runIterations env fuel submitRpc subscribeRpc config scopeIdx baseExpiry n w =
      some (tally, w')) :
    ∃ new, Extends w w' new ∧ CallsForAll ((List.range n).map fun i =>
      propagationLabel env config scopeIdx (UInt32.ofNat i)) new := by
  refine foldlM_rule
    (fun done (state : PairTally × World) => ∃ new, Extends w state.2 new ∧
      CallsForAll (done.map fun i => propagationLabel env config scopeIdx (UInt32.ofNat i)) new)
    ?turn ⟨[], Extends.refl w, .nil⟩ h
  intro done i rest state state' _ hgiven hturn
  obtain ⟨new, hnew, hall⟩ := hgiven
  obtain ⟨⟨timing, v⟩, hone, rfl⟩ := Option.map_eq_some_iff.mp hturn
  obtain ⟨more, hmore, hfor⟩ := runIteration_extends hone
  refine ⟨new ++ more, hnew.trans hmore, ?_⟩
  rw [List.map_append]
  exact hall.append hfor.all

theorem runPair_extends {submitEndpoint subscribeEndpoint : String}
    {report : PropagationPairReport}
    (h : runPair env fuel submitEndpoint submitRpc subscribeEndpoint subscribeRpc config scopeIdx
      w = some (report, w')) :
    ∃ new, Extends w w' new ∧ CallsForAll (pairLabels env config scopeIdx) new := by
  simp only [runPair] at h
  obtain ⟨⟨tally, v⟩, hruns, heq⟩ := Option.map_eq_some_iff.mp h
  obtain ⟨-, rfl⟩ := Prod.mk.inj heq
  exact runIterations_extends hruns

/-- **All pairs.**  With an accepted configuration and endpoints on both sides
the phase does not fail, and its calls follow the labels of the pairs. -/
theorem runPropagation_extends (hvalid : config.validate = .ok ())
    {submitEndpoints subscribeEndpoints : List (String × Handle)} (hsubmit : submitEndpoints ≠ [])
    (hsubscribe : subscribeEndpoints ≠ []) {tag : String}
    {out : Except String (List PropagationPairReport)}
    (h : runPropagation env fuel submitEndpoints subscribeEndpoints config tag w =
      some (out, w')) :
    (∃ reports, out = .ok reports) ∧ ∃ new, Extends w w' new ∧
      CallsForAll ((endpointPairs submitEndpoints subscribeEndpoints).flatMap fun pair =>
        pairLabels env config (UInt32.ofNat pair.2)) new := by
  simp only [runPropagation, hvalid, if_neg hsubmit, if_neg hsubscribe] at h
  obtain ⟨⟨perPair, v⟩, hfold, heq⟩ := Option.map_eq_some_iff.mp h
  obtain ⟨rfl, rfl⟩ := Prod.mk.inj heq
  have hrule := foldlM_rule
    (fun done (state : List PropagationPairReport × World) => ∃ new, Extends w state.2 new ∧
      CallsForAll (done.flatMap fun pair => pairLabels env config (UInt32.ofNat pair.2)) new)
    ?turn ⟨[], Extends.refl w, .nil⟩ hfold
  · exact ⟨⟨_, rfl⟩, hrule⟩
  case turn =>
    intro done pair rest state state' _ hgiven hturn
    obtain ⟨new, hnew, hall⟩ := hgiven
    obtain ⟨⟨report, v⟩, hone, rfl⟩ := Option.map_eq_some_iff.mp hturn
    obtain ⟨more, hmore, hfor⟩ := runPair_extends hone
    refine ⟨new ++ more, (hnew.trans hmore).logLine _, ?_⟩
    rw [List.flatMap_append, List.flatMap_singleton]
    exact hall.append hfor

theorem runPropagation_now_le {submitEndpoints subscribeEndpoints : List (String × Handle)}
    {tag : String} {out : Except String (List PropagationPairReport)}
    (h : runPropagation env fuel submitEndpoints subscribeEndpoints config tag w =
      some (out, w')) : w.now ≤ w'.now := by
  cases hvalid : config.validate with
  | error e =>
      simp only [runPropagation, hvalid, Option.some.injEq, Prod.mk.injEq] at h
      exact h.2 ▸ Nat.le_refl _
  | ok u =>
      by_cases hsubmit : submitEndpoints = []
      · simp only [runPropagation, hvalid, if_pos hsubmit, Option.some.injEq, Prod.mk.injEq] at h
        exact h.2 ▸ Nat.le_refl _
      · by_cases hsubscribe : subscribeEndpoints = []
        · simp only [runPropagation, hvalid, if_neg hsubmit, if_pos hsubscribe,
            Option.some.injEq, Prod.mk.injEq] at h
          exact h.2 ▸ Nat.le_refl _
        · obtain ⟨-, new, hnew, -⟩ := runPropagation_extends hvalid hsubmit hsubscribe h
          exact hnew.now_le

end Sent

end StatementStore
