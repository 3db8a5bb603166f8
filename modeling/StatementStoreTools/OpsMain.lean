import StatementStoreTools.PeriodicLoop
import StatementStoreTools.PhaseAccounts
import StatementStoreTools.QuotaReadBack
import StatementStoreTools.SigningKeys

/-!
# The subcommands of `statement-ops-bench`

From the arguments of a subcommand to its exit.  A measuring command parses its
seed, opens its connections, and runs its phase; what the phase measures does not
reach the exit.  `admin` works on one account of the chain.

* `measurement_exits` — `submit`, `propagation` and `loop` are decided before
  their first call: they fail without making one, or they succeed whatever the
  nodes answer;
* `admin_exits` — `admin` changes nothing but the quota of its account, and
  `set-quota` succeeds exactly when the quota is there in the end.
-/

namespace StatementStore

/-! ## The arguments -/

structure SharedArgs where
  seed : Option String := none
  messageSize : UInt64 := 512
  baseExpirySecs : UInt64 := 600

structure SubmitArgs where
  rpcEndpoints : List String
  iterations : UInt32 := 1
  iterationBatch : UInt32 := 1
  topic : Option Bytes32 := none
  shared : SharedArgs := {}

structure PropagationArgs where
  submitEndpoints : List String
  subscribeEndpoints : List String
  iterations : UInt32 := 1
  drainTimeoutMs : UInt64 := 2000
  receiveTimeoutMs : UInt64 := 5000
  topic : Option Bytes32 := none
  shared : SharedArgs := {}

structure SubscribeArgs where
  rpcEndpoints : List String
  readsPerNode : UInt32 := 1
  settleMs : UInt64 := 100
  drainTimeoutMs : UInt64 := 2000
  topic : Option Bytes32 := none
  assertOnce : Bool := false
  shared : SharedArgs := {}

structure LoopArgs where
  rpcEndpoints : List String
  intervalSecs : UInt64 := 30
  iterations : Option UInt32 := none
  durationSecs : Option UInt64 := none
  submitIterations : UInt32 := 1
  propagationIterations : UInt32 := 1
  readsPerNode : UInt32 := 1
  drainTimeoutMs : UInt64 := 2000
  receiveTimeoutMs : UInt64 := 5000
  subscribeDrainTimeoutMs : UInt64 := 2000
  settleMs : UInt64 := 100
  newConnectionPerIteration : Bool := true
  shared : SharedArgs := {}

structure QueryArgs where
  rpcEndpoints : List String
  topic : Option Bytes32 := none
  drainTimeoutMs : UInt64 := 15000

def SubmitArgs.config (args : SubmitArgs) (runId : UInt64) : SubmitConfig where
  iterations := args.iterations
  iterationBatch := args.iterationBatch
  messageSize := args.shared.messageSize
  baseExpirySecs := args.shared.baseExpirySecs
  runId := runId
  topicOverride := args.topic

def PropagationArgs.config (args : PropagationArgs) (runId : UInt64) : PropagationConfig where
  iterations := args.iterations
  messageSize := args.shared.messageSize
  baseExpirySecs := args.shared.baseExpirySecs
  runId := runId
  drainTimeoutMs := args.drainTimeoutMs
  receiveTimeoutMs := args.receiveTimeoutMs
  topicOverride := args.topic

def SubscribeArgs.config (args : SubscribeArgs) (runId : UInt64) : SubscribeConfig where
  readsPerNode := args.readsPerNode
  messageSize := args.shared.messageSize
  baseExpirySecs := args.shared.baseExpirySecs
  runId := runId
  settleMs := args.settleMs
  drainTimeoutMs := args.drainTimeoutMs
  topicOverride := args.topic
  assertOnce := args.assertOnce

def LoopArgs.config (args : LoopArgs) (runId : UInt64) : LoopConfig where
  intervalSecs := args.intervalSecs
  maxIterations := args.iterations
  maxDurationSecs := args.durationSecs
  newConnectionPerIteration := args.newConnectionPerIteration
  submitConfig := {
    iterations := args.submitIterations
    iterationBatch := 1
    messageSize := args.shared.messageSize
    baseExpirySecs := args.shared.baseExpirySecs
    runId := runId
    topicOverride := none }
  propagationConfig := {
    iterations := args.propagationIterations
    messageSize := args.shared.messageSize
    baseExpirySecs := args.shared.baseExpirySecs
    runId := runId
    drainTimeoutMs := args.drainTimeoutMs
    receiveTimeoutMs := args.receiveTimeoutMs
    topicOverride := none }
  subscribeConfig := {
    readsPerNode := args.readsPerNode
    messageSize := args.shared.messageSize
    baseExpirySecs := args.shared.baseExpirySecs
    runId := runId
    settleMs := args.settleMs
    drainTimeoutMs := args.subscribeDrainTimeoutMs
    topicOverride := none
    assertOnce := false }

def QueryArgs.config (args : QueryArgs) : QueryConfig where
  topic := args.topic
  drainTimeoutMs := args.drainTimeoutMs

/-- Every default is accepted: with endpoints alone all commands have a valid
configuration. -/
theorem defaults_valid (endpoints others : List String) (runId : UInt64) :
    (SubmitArgs.config { rpcEndpoints := endpoints } runId).validate = .ok () ∧
    (PropagationArgs.config { submitEndpoints := endpoints, subscribeEndpoints := others }
      runId).validate = .ok () ∧
    (SubscribeArgs.config { rpcEndpoints := endpoints } runId).validate = .ok () ∧
    (LoopArgs.config { rpcEndpoints := endpoints } runId).validate = .ok () ∧
    (QueryArgs.config { rpcEndpoints := endpoints }).validate = .ok () :=
  ⟨rfl, rfl, rfl, rfl, rfl⟩

/-! ## The measuring commands -/

section Commands

variable (crates : Crates) (keys : KeyCrates) (clock : Clock) (fuel : Nat)

def submitRunningLine (args : SubmitArgs) : String :=
  s!"Running submit benchmark: endpoints={args.rpcEndpoints.length} " ++
    s!"iterations={args.iterations.toNat} iteration_batch={args.iterationBatch.toNat} " ++
    s!"msg_size={args.shared.messageSize.toNat}B"

/-- `run_submit_cmd`. -/
def runSubmitCmd (args : SubmitArgs) (runId : UInt64) (w : World) : Except String Unit × World :=
  match parseSeed keys args.shared.seed with
  | .error e => (.error e, w)
  | .ok keypair =>
      match connectAll args.rpcEndpoints w with
      | (.error e, w) => (.error e, w)
      | (.ok endpoints, w) =>
          let w := w.logLine (submitRunningLine args)
          match runSubmit ⟨crates, clock, keypair⟩ endpoints (args.config runId) "" w with
          | (.error e, w) => (.error e, w)
          | (.ok _, w) => (.ok (), w)

def propagationRunningLine (args : PropagationArgs) : String :=
  s!"Running propagation benchmark: submit_eps={args.submitEndpoints.length} " ++
    s!"subscribe_eps={args.subscribeEndpoints.length} iterations={args.iterations.toNat} " ++
    s!"msg_size={args.shared.messageSize.toNat}B"

/-- `run_propagation_cmd`. -/
def runPropagationCmd (args : PropagationArgs) (runId : UInt64) (w : World) :
    Option (Except String Unit × World) :=
  match parseSeed keys args.shared.seed with
  | .error e => some (.error e, w)
  | .ok keypair =>
      match connectAll args.submitEndpoints w with
      | (.error e, w) => some (.error e, w)
      | (.ok submitEps, w) =>
          match connectAll args.subscribeEndpoints w with
          | (.error e, w) => some (.error e, w)
          | (.ok subEps, w) =>
              let w := w.logLine (propagationRunningLine args)
              (runPropagation ⟨crates, clock, keypair⟩ fuel submitEps subEps (args.config runId) ""
                w).map fun out =>
                  match out.1 with
                  | .error e => (.error e, out.2)
                  | .ok _ => (.ok (), out.2)

/-- `{:?}` of an optional number. -/
def debugOption : Option Nat → String
  | some n => s!"Some({n})"
  | none => "None"

def LoopStopReason.debug : LoopStopReason → String
  | maxIterations => "MaxIterations"
  | maxDuration => "MaxDuration"
  | cancelled => "Cancelled"

def loopRunningLine (args : LoopArgs) : String :=
  s!"Running loop benchmark: endpoints={args.rpcEndpoints.length} " ++
    s!"interval={args.intervalSecs.toNat}s " ++
    s!"max_iterations={debugOption (args.iterations.map UInt32.toNat)} " ++
    s!"max_duration={debugOption (args.durationSecs.map UInt64.toNat)}s " ++
    s!"new_connection_per_iteration={args.newConnectionPerIteration}"

def loopFinishedLine (report : LoopReport) : String :=
  s!"Loop finished: iterations={report.iterationsCompleted.toNat} " ++
    s!"stop_reason={report.stoppedReason.debug}"

/-- `run_loop_cmd`, with the lines that it logs itself; `cancel` is the instant of
a Ctrl-C.  `none` when the loop does not return. -/
def runLoopCmd (cycleFuel : Nat) (cancel : Option Instant) (entropy : Stream' UInt64)
    (args : LoopArgs) (runId : UInt64) (w : World) : Option (Except String Unit × List String) :=
  match parseSeed keys args.shared.seed with
  | .error e => some (.error e, [])
  | .ok keypair =>
      let running := loopRunningLine args
      (runLoop ⟨crates, clock, keypair⟩ cycleFuel (connector args.rpcEndpoints) (args.config runId)
        cancel fuel entropy (w.logLine running)).bind fun out =>
          match out with
          | .error e => some (.error e, [running])
          | .ok out => out.report.map fun report => (.ok (), [running, loopFinishedLine report])

end Commands

/-! ## When they succeed -/

/-- There are endpoints, and each of the next attempts to connect succeeds. -/
def Reached (eps : List String) (w : World) : Prop :=
  eps ≠ [] ∧ ∀ i < eps.length, (w.dials.get i).2 = .ok ()

section Connections

variable {eps : List String} {w v : World}

/-- Connecting uses one attempt for each endpoint. -/
theorem connectEach_dials {endpoints : List (String × Handle)}
    (h : connectEach eps w = (.ok endpoints, v)) : v.dials = w.dials.drop eps.length := by
  induction eps generalizing w endpoints with
  | nil =>
      obtain ⟨-, rfl⟩ := Prod.mk.inj h
      rfl
  | cons ep eps ih =>
      cases hdial : w.dials.head.2 with
      | error e =>
          simp only [connectEach, connect_error hdial] at h
          cases (Prod.mk.inj h).1
      | ok u =>
          simp only [connectEach, connect_ok hdial] at h
          rcases hrest : connectEach eps { w with
            now := w.now + w.dials.head.1
            dials := w.dials.tail
            opened := w.opened + 1 } with ⟨e | out, v'⟩
          · simp only [hrest] at h
            cases (Prod.mk.inj h).1
          · simp only [hrest] at h
            obtain ⟨-, rfl⟩ := Prod.mk.inj h
            rw [ih hrest, List.length_cons, Stream'.tail_eq_drop, Stream'.drop_drop,
              Nat.add_comm]

/-- **Connecting** succeeds exactly when all endpoints are reached, and makes no
call either way. -/
theorem connectAll_cases (eps : List String) (w : World) :
    (Reached eps w ∧ ∃ endpoints v, connectAll eps w = (.ok endpoints, v) ∧ endpoints ≠ [] ∧
      v.calls = w.calls ∧ v.dials = w.dials.drop eps.length) ∨
    (¬ Reached eps w ∧ ∃ e v, connectAll eps w = (.error e, v) ∧ v.calls = w.calls) := by
  by_cases hne : eps = []
  · refine Or.inr ⟨fun hreached => hreached.1 hne, ?_⟩
    rw [connectAll, if_pos hne]
    exact ⟨_, w, rfl, rfl⟩
  · by_cases hdials : ∀ i < eps.length, (w.dials.get i).2 = .ok ()
    · obtain ⟨endpoints, v, hconnect, hconn⟩ := connectAll_ok hne hdials
      have heach : connectEach eps w = (.ok endpoints, v) := by
        rwa [connectAll, if_neg hne] at hconnect
      refine Or.inl ⟨⟨hne, hdials⟩, endpoints, v, hconnect, ?_, hconn.calls,
        connectEach_dials heach⟩
      intro hnone
      rw [hnone] at hconn
      exact hne hconn.names.symm
    · refine Or.inr ⟨fun hreached => hdials hreached.2, ?_⟩
      push Not at hdials
      obtain ⟨e, v, hconnect, -, hcalls⟩ := connectAll_error hne hdials
      exact ⟨e, v, hconnect, hcalls⟩

end Connections

/-- The seed parses, or there is none. -/
def SeedParses (keys : KeyCrates) (seed : Option String) : Prop :=
  ∀ suri, seed = some suri → ∃ pair, keys.pairFromString suri = .ok pair

theorem parseSeed_cases (keys : KeyCrates) (seed : Option String) :
    (SeedParses keys seed ∧ ∃ keypair, parseSeed keys seed = .ok keypair) ∨
      (¬ SeedParses keys seed ∧ ∃ e, parseSeed keys seed = .error e) := by
  cases seed with
  | none => exact Or.inl ⟨fun _ h => (by cases h), _, rfl⟩
  | some suri =>
      cases hpair : keys.pairFromString suri with
      | ok pair =>
          refine Or.inl ⟨fun suri' h => ?_, pair, by simp only [parseSeed, hpair]⟩
          obtain rfl := Option.some.inj h
          exact ⟨pair, hpair⟩
      | error e =>
          refine Or.inr ⟨fun h => ?_, _, by simp only [parseSeed, hpair]; rfl⟩
          obtain ⟨pair, hok⟩ := h suri rfl
          cases hpair.symm.trans hok

/-- The exit is that of a condition known before the first call; when it does not
hold, no call is made. -/
structure Decided (ready : Prop) (w : World) (out : Except String Unit × World) : Prop where
  exit : out.1 = .ok () ↔ ready
  untouched : ¬ ready → out.2.calls = w.calls

theorem Decided.failed {ready : Prop} {w v : World} {e : String} (hnot : ¬ ready)
    (hcalls : v.calls = w.calls) : Decided ready w (.error e, v) :=
  ⟨⟨fun h => (by cases h), fun h => absurd h hnot⟩, fun _ => hcalls⟩

theorem Decided.succeeded {ready : Prop} {w v : World} (hready : ready) :
    Decided ready w (.ok (), v) :=
  ⟨⟨fun _ => hready, fun _ => rfl⟩, fun hnot => absurd hready hnot⟩

section Exits

variable (crates : Crates) (keys : KeyCrates) (clock : Clock)

theorem runSubmitCmd_decided (args : SubmitArgs) (runId : UInt64) (w : World) :
    Decided (SeedParses keys args.shared.seed ∧ Reached args.rpcEndpoints w ∧
      (args.config runId).validate = .ok ()) w
      (runSubmitCmd crates keys clock args runId w) := by
  unfold runSubmitCmd
  rcases parseSeed_cases keys args.shared.seed with ⟨hseed, keypair, hparse⟩ | ⟨hseed, e, hparse⟩
  · simp only [hparse]
    rcases connectAll_cases args.rpcEndpoints w with
      ⟨hreached, endpoints, v, hconnect, -, hcalls, -⟩ | ⟨hreached, e, v, hconnect, hcalls⟩
    · simp only [hconnect]
      cases hvalid : (args.config runId).validate with
      | error e =>
          simp only [runSubmit, hvalid]
          exact .failed (fun h => by cases h.2.2) hcalls
      | ok u =>
          obtain ⟨reports, w', new, hrun, -⟩ := runSubmit_extends ⟨crates, clock, keypair⟩
            (args.config runId) hvalid endpoints "" (v.logLine (submitRunningLine args))
          simp only [hrun]
          exact .succeeded ⟨hseed, hreached, trivial⟩
    · simp only [hconnect]
      exact .failed (fun h => hreached h.2.1) hcalls
  · simp only [hparse]
    exact .failed (fun h => hseed h.1) rfl

/-- The attempts to connect that are left after some. -/
def World.later (w : World) (n : Nat) : World :=
  { w with dials := w.dials.drop n }

theorem runPropagationCmd_decided {fuel : Nat} {args : PropagationArgs} {runId : UInt64} {w : World}
    {out : Except String Unit × World}
    (h : runPropagationCmd crates keys clock fuel args runId w = some out) :
    Decided (SeedParses keys args.shared.seed ∧ Reached args.submitEndpoints w ∧
      Reached args.subscribeEndpoints (w.later args.submitEndpoints.length) ∧
      (args.config runId).validate = .ok ()) w out := by
  unfold runPropagationCmd at h
  rcases parseSeed_cases keys args.shared.seed with ⟨hseed, keypair, hparse⟩ | ⟨hseed, e, hparse⟩
  · simp only [hparse] at h
    rcases connectAll_cases args.submitEndpoints w with
      ⟨hsubmit, submitEps, v, hconnect, hne, hcalls, hdials⟩ | ⟨hsubmit, e, v, hconnect, hcalls⟩
    · simp only [hconnect] at h
      have hlater : Reached args.subscribeEndpoints v ↔
          Reached args.subscribeEndpoints (w.later args.submitEndpoints.length) := by
        simp only [Reached, World.later, hdials]
      rcases connectAll_cases args.subscribeEndpoints v with
        ⟨hsub, subEps, u, hconnect', hne', hcalls', -⟩ | ⟨hsub, e, u, hconnect', hcalls'⟩
      · simp only [hconnect'] at h
        cases hvalid : (args.config runId).validate with
        | error e =>
            simp only [runPropagation, hvalid, Option.map_some] at h
            obtain rfl := Option.some.inj h
            exact .failed (fun hall => by cases hall.2.2.2) (hcalls'.trans hcalls)
        | ok valid =>
            obtain ⟨⟨res, u'⟩, hrun, hout⟩ := Option.map_eq_some_iff.mp h
            obtain ⟨reports, hok, -⟩ := runPropagation_accounted hvalid hrun
            obtain rfl := hok hne hne'
            obtain rfl := hout
            exact .succeeded ⟨hseed, hsubmit, hlater.mp hsub, rfl⟩
      · simp only [hconnect'] at h
        obtain rfl := Option.some.inj h
        exact .failed (fun hall => hsub (hlater.mpr hall.2.2.1)) (hcalls'.trans hcalls)
    · simp only [hconnect] at h
      obtain rfl := Option.some.inj h
      exact .failed (fun hall => hsubmit hall.2.1) hcalls
  · simp only [hparse] at h
    obtain rfl := Option.some.inj h
    exact .failed (fun hall => hseed hall.1) rfl

theorem runSubscribeCmd_decided {fuel : Nat} {args : SubscribeArgs} {runId : UInt64} {w : World}
    {out : Except String Unit × World} (hplain : args.assertOnce = false)
    (h : runSubscribeCmd crates clock (parseSeed keys args.shared.seed) fuel args.rpcEndpoints
      (args.config runId) w = some out) :
    Decided (SeedParses keys args.shared.seed ∧ Reached args.rpcEndpoints w ∧
      (args.config runId).validate = .ok ()) w out := by
  have hverdict : ∀ reports, subscribeVerdict (args.config runId) reports = .ok () := fun reports =>
    by simp [subscribeVerdict, SubscribeArgs.config, hplain]
  unfold runSubscribeCmd at h
  rcases parseSeed_cases keys args.shared.seed with ⟨hseed, keypair, hparse⟩ | ⟨hseed, e, hparse⟩
  · simp only [hparse] at h
    rcases connectAll_cases args.rpcEndpoints w with
      ⟨hreached, endpoints, v, hconnect, -, hcalls, -⟩ | ⟨hreached, e, v, hconnect, hcalls⟩
    · simp only [hconnect] at h
      cases hvalid : (args.config runId).validate with
      | error e =>
          simp only [runSubscribe, hvalid, Option.map_some] at h
          obtain rfl := Option.some.inj h
          exact .failed (fun hall => by cases hall.2.2) hcalls
      | ok valid =>
          obtain ⟨⟨res, u⟩, hrun, hout⟩ := Option.map_eq_some_iff.mp h
          obtain ⟨reports, rfl, -⟩ := runSubscribe_accounted hvalid hrun
          simp only [hverdict] at hout
          obtain rfl := hout
          exact .succeeded ⟨hseed, hreached, rfl⟩
    · simp only [hconnect] at h
      obtain rfl := Option.some.inj h
      exact .failed (fun hall => hreached hall.2.1) hcalls
  · simp only [hparse] at h
    obtain rfl := Option.some.inj h
    exact .failed (fun hall => hseed hall.1) rfl

theorem runLoopCmd_exit {fuel cycleFuel : Nat} {cancel : Option Instant} {entropy : Stream' UInt64}
    {args : LoopArgs} {runId : UInt64} {w : World} {exit : Except String Unit} {log : List String}
    (h : runLoopCmd crates keys clock fuel cycleFuel cancel entropy args runId w =
      some (exit, log)) :
    exit = .ok () ↔ SeedParses keys args.shared.seed ∧ Reached args.rpcEndpoints w ∧
      (args.config runId).validate = .ok () := by
  unfold runLoopCmd at h
  rcases parseSeed_cases keys args.shared.seed with ⟨hseed, keypair, hparse⟩ | ⟨hseed, e, hparse⟩
  · simp only [hparse] at h
    obtain ⟨res, hrun, h⟩ := Option.bind_eq_some_iff.mp h
    simp only [runLoop, periodicLoop, connector] at hrun
    cases hvalid : (args.config runId).validate with
    | error e =>
        simp only [hvalid] at hrun
        obtain rfl := Option.some.inj hrun
        obtain ⟨rfl, -⟩ := Prod.mk.inj (Option.some.inj h)
        simp
    | ok u =>
        simp only [hvalid] at hrun
        rcases connectAll_cases args.rpcEndpoints (w.logLine (loopRunningLine args)) with
          ⟨hreached, endpoints, v, hconnect, hne, -, -⟩ | ⟨hreached, e, v, hconnect, -⟩
        · simp only [hconnect, if_neg hne] at hrun
          obtain ⟨last, -, rfl⟩ := Option.map_eq_some_iff.mp hrun
          obtain ⟨report, -, hout⟩ := Option.map_eq_some_iff.mp h
          obtain ⟨rfl, -⟩ := Prod.mk.inj hout
          exact ⟨fun _ => ⟨hseed, hreached, rfl⟩, fun _ => rfl⟩
        · simp only [hconnect] at hrun
          obtain rfl := Option.some.inj hrun
          obtain ⟨rfl, -⟩ := Prod.mk.inj (Option.some.inj h)
          exact ⟨fun hok => (by cases hok), fun hall => absurd hall.2.1 hreached⟩
  · simp only [hparse] at h
    obtain ⟨rfl, -⟩ := Prod.mk.inj (Option.some.inj h)
    exact ⟨fun hok => (by cases hok), fun hall => absurd hall.1 hseed⟩

/-- **What the nodes answer does not reach the exit.**  A measuring command that
returns has failed before its first call, for its seed, an endpoint or its
configuration, or it has succeeded: failed submissions, iterations and reads are
only logged.  (A `subscribe` with `--assert-once` is the exception.) -/
theorem measurement_exits (runId : UInt64) (w : World) :
    (∀ args : SubmitArgs, Decided (SeedParses keys args.shared.seed ∧ Reached args.rpcEndpoints w ∧
      (args.config runId).validate = .ok ()) w (runSubmitCmd crates keys clock args runId w)) ∧
    (∀ fuel (args : PropagationArgs) out,
      runPropagationCmd crates keys clock fuel args runId w = some out →
      Decided (SeedParses keys args.shared.seed ∧ Reached args.submitEndpoints w ∧
        Reached args.subscribeEndpoints (w.later args.submitEndpoints.length) ∧
        (args.config runId).validate = .ok ()) w out) ∧
    (∀ fuel (args : SubscribeArgs) out, args.assertOnce = false →
      runSubscribeCmd crates clock (parseSeed keys args.shared.seed) fuel args.rpcEndpoints
        (args.config runId) w = some out →
      Decided (SeedParses keys args.shared.seed ∧ Reached args.rpcEndpoints w ∧
        (args.config runId).validate = .ok ()) w out) ∧
    ∀ fuel cycleFuel cancel entropy (args : LoopArgs) exit log,
      runLoopCmd crates keys clock fuel cycleFuel cancel entropy args runId w = some (exit, log) →
      (exit = .ok () ↔ SeedParses keys args.shared.seed ∧ Reached args.rpcEndpoints w ∧
        (args.config runId).validate = .ok ()) :=
  ⟨fun args => runSubmitCmd_decided crates keys clock args runId w,
    fun _ _ _ h => runPropagationCmd_decided crates keys clock h,
    fun _ _ _ hplain h => runSubscribeCmd_decided crates keys clock hplain h,
    fun _ _ _ _ _ _ _ h => runLoopCmd_exit crates keys clock h⟩

end Exits

/-! ## `admin` -/

structure ShowQuotaArgs where
  rpcEndpoint : String
  account : Bytes32

structure SetQuotaArgs where
  rpcEndpoint : String
  account : Bytes32
  sudoKey : SudoKeyArgs
  maxCount : UInt32
  maxSize : UInt32

inductive AdminAction
  | showQuota (args : ShowQuotaArgs)
  | setQuota (args : SetQuotaArgs)

def SetQuotaArgs.config (args : SetQuotaArgs) (signer : Bytes32) : SetQuotaConfig where
  endpoint := args.rpcEndpoint
  account := args.account
  signer := signer
  maxCount := args.maxCount
  maxSize := args.maxSize

/-- `run_admin_cmd`. -/
def runAdminCmd (crates : SudoCrates) (outside : Outside) (node : Node) : AdminAction → AdminRun
  | .showQuota args =>
      match showQuota crates.toQuotaCrates node node.storage ⟨args.rpcEndpoint, args.account⟩ with
      | .error e => ⟨.error e, [], node.storage⟩
      | .ok quota => ⟨.ok (), [quotaLine args.account quota], node.storage⟩
  | .setQuota args =>
      match (resolveSudoKeypair crates outside args.sudoKey).1 with
      | .error e => ⟨.error e, [], node.storage⟩
      | .ok signer => runSetQuota crates.toQuotaCrates node (args.config signer)

def AdminAction.account : AdminAction → Bytes32
  | .showQuota args => args.account
  | .setQuota args => args.account

section Admin

variable {crates : QuotaCrates} {node : Node} {config : SetQuotaConfig} {key : Bytes}

/-- The storage that `set_quota` leaves when its extrinsic is finalized. -/
theorem execute_setStorage (node : Node) (item : StorageItem) (storage : Storage) :
    node.execute 0 (.setStorage ⟨[item]⟩) storage =
      if node.took 0 0 then storage.put item else storage := by
  cases htook : node.took 0 0 <;>
    simp [Node.execute, SudoCall.effective, SudoCall.calls, htook]

/-- `set_quota` writes one key, or none. -/
theorem setQuota_frame (crates : QuotaCrates) (node : Node) (config : SetQuotaConfig)
    (h : key ≠ crates.statementAllowanceKey config.account) :
    (setQuota crates node config).2 key = node.storage key := by
  unfold setQuota
  cases node.connect with
  | error e => rfl
  | ok u =>
      cases node.accountNonce config.signer with
      | error e => rfl
      | ok nonce =>
          cases node.submissions 0 with
          | error e => rfl
          | ok u =>
              simp only [execute_setStorage]
              split
              · exact Storage.put_of_ne h
              · rfl

theorem runSetQuota_storage (crates : QuotaCrates) (node : Node) (config : SetQuotaConfig) :
    (runSetQuota crates node config).storage = (setQuota crates node config).2 := by
  unfold runSetQuota
  rcases setQuota crates node config with ⟨e | u, storage⟩
  · rfl
  · cases hshow : showQuota crates node storage ⟨config.endpoint, config.account⟩ with
    | error e => simp only [hshow]
    | ok quota =>
        simp only [hshow]
        split <;> rfl

/-- The node answers everything that `set-quota` asks of it. -/
structure Answered (node : Node) (signer : Bytes32) : Prop where
  connect : node.connect = .ok ()
  nonce : ∃ nonce, node.accountNonce signer = .ok nonce
  submission : node.submissions 0 = .ok ()
  wsConnect : node.wsConnect = .ok ()
  read : node.reads 0 = .ok ()

/-- The account has this quota, and not by an empty value. -/
def Shows (crates : QuotaCrates) (storage : Storage) (account : Bytes32)
    (allowance : StatementAllowance) : Prop :=
  ∃ bytes, storage (crates.statementAllowanceKey account) = some bytes ∧ bytes ≠ [] ∧
    crates.decode bytes = some allowance

theorem showQuota_ok_some {storage : Storage} {show_ : ShowQuotaConfig}
    {allowance : StatementAllowance} :
    showQuota crates node storage show_ = .ok (some allowance) ↔
      node.wsConnect = .ok () ∧ node.reads 0 = .ok () ∧
        Shows crates storage show_.account allowance := by
  unfold showQuota Shows
  cases node.wsConnect with
  | error e => simp
  | ok u =>
      cases node.reads 0 with
      | error e => simp
      | ok u =>
          cases storage (crates.statementAllowanceKey show_.account) with
          | none => simp
          | some bytes =>
              by_cases hempty : bytes = []
              · simp [hempty]
              · cases hdecode : crates.decode bytes with
                | none => simp [hempty, hdecode]
                | some found => simp [hempty, hdecode]

/-- `set-quota` succeeds exactly when everything is answered and the requested
quota is there in the end. -/
theorem runSetQuota_ok : (runSetQuota crates node config).exit = .ok () ↔
    Answered node config.signer ∧
      Shows crates (runSetQuota crates node config).storage config.account config.allowance := by
  rw [runSetQuota_storage]
  have hset : (∃ storage, setQuota crates node config = (.ok (), storage)) ↔
      node.connect = .ok () ∧ (∃ nonce, node.accountNonce config.signer = .ok nonce) ∧
        node.submissions 0 = .ok () := by
    unfold setQuota
    cases node.connect <;> cases node.accountNonce config.signer <;> cases node.submissions 0 <;>
      simp
  unfold runSetQuota
  rcases hrun : setQuota crates node config with ⟨e | u, storage⟩
  · simp only [reduceCtorEq, false_iff, not_and]
    intro hanswered
    obtain ⟨storage', hok⟩ :=
      hset.mpr ⟨hanswered.connect, hanswered.nonce, hanswered.submission⟩
    cases (Prod.mk.inj (hrun.symm.trans hok)).1
  · obtain ⟨hconnect, hnonce, hsubmission⟩ := hset.mp ⟨storage, hrun⟩
    have hshows := @showQuota_ok_some crates node storage ⟨config.endpoint, config.account⟩
      config.allowance
    have hanswered : Answered node config.signer ∧
        Shows crates storage config.account config.allowance ↔
          showQuota crates node storage ⟨config.endpoint, config.account⟩ =
            .ok (some config.allowance) := by
      rw [hshows]
      constructor
      · intro h
        exact ⟨h.1.wsConnect, h.1.read, h.2⟩
      · intro h
        exact ⟨⟨hconnect, hnonce, hsubmission, h.1, h.2.1⟩, h.2.2⟩
    rw [hanswered]
    cases hshow : showQuota crates node storage ⟨config.endpoint, config.account⟩ with
    | error e => simp [hshow]
    | ok quota =>
        cases quota with
        | none => simp [hshow]
        | some q =>
            obtain ⟨maxCount, maxSize⟩ := q
            by_cases hmatch : maxCount = config.maxCount ∧ maxSize = config.maxSize
            · simp [hshow, SetQuotaConfig.allowance, hmatch]
            · simp [hshow, SetQuotaConfig.allowance, hmatch]

/-- When the call takes effect, the requested quota is there. -/
theorem setQuota_shows (h : Answered node config.signer)
    (htook : node.took 0 0 = true) (hencode : crates.encode config.allowance ≠ []) :
    Shows crates (setQuota crates node config).2 config.account config.allowance := by
  obtain ⟨nonce, hnonce⟩ := h.nonce
  refine ⟨crates.encode config.allowance, ?_, hencode, crates.decode_encode _⟩
  simp only [setQuota, h.connect, hnonce, h.submission, execute_setStorage, htook, if_true]
  exact Storage.put_self _

end Admin

/-- **What `admin` does to the chain.**  It leaves everything but the quota of
its account alone, and all of it when it only shows, or has no key.  `set-quota`
succeeds exactly when it has a key, all is answered, and the requested quota is
there in the end; a call that takes effect is enough for that. -/
theorem admin_exits (crates : SudoCrates) (outside : Outside) (node : Node) :
    (∀ action key, key ≠ crates.statementAllowanceKey action.account →
      (runAdminCmd crates outside node action).storage key = node.storage key) ∧
    (∀ args, (runAdminCmd crates outside node (.showQuota args)).storage = node.storage) ∧
    ∀ args : SetQuotaArgs,
      let run := runAdminCmd crates outside node (.setQuota args)
      let signer := (resolveSudoKeypair crates outside args.sudoKey).1
      let allowance : StatementAllowance := ⟨args.maxCount, args.maxSize⟩
      (∀ e, signer = .error e → run = ⟨.error e, [], node.storage⟩) ∧
      (run.exit = .ok () ↔ ∃ key, signer = .ok key ∧ Answered node key ∧
        Shows crates.toQuotaCrates run.storage args.account allowance) ∧
      (crates.encode allowance ≠ [] → ∀ key, signer = .ok key → Answered node key →
        node.took 0 0 = true → run.exit = .ok ()) := by
  refine ⟨fun action key hkey => ?_, fun args => ?_, fun args => ⟨fun e he => ?_, ?_, ?_⟩⟩
  · cases action with
    | showQuota args =>
        simp only [runAdminCmd]
        cases showQuota crates.toQuotaCrates node node.storage ⟨args.rpcEndpoint, args.account⟩ <;>
          rfl
    | setQuota args =>
        cases hsigner : (resolveSudoKeypair crates outside args.sudoKey).1 with
        | error e => simp only [runAdminCmd, hsigner]
        | ok signer =>
            simp only [runAdminCmd, hsigner, runSetQuota_storage]
            exact setQuota_frame _ _ _ hkey
  · simp only [runAdminCmd]
    cases showQuota crates.toQuotaCrates node node.storage ⟨args.rpcEndpoint, args.account⟩ <;> rfl
  · simp only [runAdminCmd, he]
  · simp only [runAdminCmd]
    cases hsigner : (resolveSudoKeypair crates outside args.sudoKey).1 with
    | error e => simp
    | ok signer =>
        simp only [Except.ok.injEq, exists_eq_left']
        exact runSetQuota_ok
  · intro hencode key hsigner hanswered htook
    simp only [runAdminCmd, hsigner]
    refine runSetQuota_ok.mpr ⟨hanswered, ?_⟩
    rw [runSetQuota_storage]
    exact setQuota_shows hanswered htook hencode

end StatementStore
