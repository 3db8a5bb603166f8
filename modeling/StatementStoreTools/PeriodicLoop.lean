import StatementStoreTools.Loops
import StatementStoreTools.OpsCommands
import StatementStoreTools.PropagationPhase
import StatementStoreTools.SubmitPhase

/-!
# The `loop` subcommand

`run_loop`: connect, then repeat one cycle of submit, propagation and subscribe
until a number of iterations, a duration or a cancellation ends it.

The connector and the body are futures, and `cancel` is the instant at which
the cancellation becomes ready, if it ever does.  Time passes only while
something is awaited.  A `select!` prefers `cancel` (`biased`); a future that
loses is dropped, and what it may have done by then is not looked at any more.

The loop keeps a history that the code does not have: for every iteration
started, when, what became of its reconnect and what became of its body.
`loopTurn_cases` says what one turn does; the theorems about whole runs come
from it.
-/

namespace StatementStore

open Loops

abbrev Endpoints := List (String × Handle)

structure LoopConfig where
  intervalSecs : UInt64
  maxIterations : Option UInt32
  maxDurationSecs : Option UInt64
  newConnectionPerIteration : Bool
  submitConfig : SubmitConfig
  propagationConfig : PropagationConfig
  subscribeConfig : SubscribeConfig

def LoopConfig.validate (config : LoopConfig) : Except String Unit := do
  ensure (0 < config.intervalSecs) "--interval-secs must be > 0"
  config.submitConfig.validate
  config.propagationConfig.validate
  config.subscribeConfig.validate

theorem LoopConfig.validate_ok {config : LoopConfig} :
    config.validate = .ok () ↔ 0 < config.intervalSecs ∧
      config.submitConfig.validate = .ok () ∧ config.propagationConfig.validate = .ok () ∧
      config.subscribeConfig.validate = .ok () := by
  simp only [LoopConfig.validate, validate_bind_ok, ensure_ok, decide_eq_true_eq]

inductive LoopStopReason
  | maxIterations
  | maxDuration
  | cancelled
deriving DecidableEq, Repr

/-- The reports of one whole cycle. -/
structure CycleReport where
  submit : List SubmitEndpointReport
  propagation : List PropagationPairReport
  subscribe : List SubscribeEndpointReport

structure LoopReport where
  iterationsCompleted : UInt32
  lastSubmit : Option (List SubmitEndpointReport)
  lastPropagation : Option (List PropagationPairReport)
  lastSubscribe : Option (List SubscribeEndpointReport)
  stoppedReason : LoopStopReason

/-- A future: run from a world, it becomes ready with a result, or never
(`none`). -/
structure Future (α : Type) where
  run : World → Option (Except String α × World)
  now_le : ∀ {w out w'}, run w = some (out, w') → w.now ≤ w'.now

/-- What became of a future that was awaited next to `cancel`. -/
inductive Attempt (α : Type)
  | pending
  | cancelled (at_ : Instant)
  | finished (at_ : Instant) (out : Except String α)

/-- `select! { biased; _ = &mut cancel => …, out = future => … }`. -/
def select {α : Type} (cancel : Option Instant) (future : Future α) (w : World) :
    Attempt α × World :=
  match future.run w, cancel with
  | none, none => (.pending, w)
  | none, some c => (.cancelled (max w.now c), { w with now := max w.now c })
  | some (out, w'), none => (.finished w'.now out, w')
  | some (out, w'), some c =>
      if c ≤ w'.now then (.cancelled (max w.now c), { w with now := max w.now c })
      else (.finished w'.now out, w')

/-- One started iteration: the endpoints still held when the connector was
called, with the outcome of the call, and the endpoints the body ran with, with
its outcome. -/
structure Iteration where
  start : Instant
  reconnect : Option (Endpoints × Attempt Endpoints)
  body : Option (Endpoints × Attempt CycleReport)

structure LoopState where
  endpoints : Endpoints
  iterationsCompleted : UInt32
  lastSubmit : Option (List SubmitEndpointReport)
  lastPropagation : Option (List PropagationPairReport)
  lastSubscribe : Option (List SubscribeEndpointReport)
  entropy : Stream' UInt64
  world : World
  history : List Iteration

/-- The end of a run: its report, or `none` when its last iteration waits
forever. -/
structure LoopEnd where
  report : Option LoopReport
  history : List Iteration
  begun : Instant
  ended : Instant

/-- `break` with a reason. -/
def LoopState.stop (s : LoopState) (begun : Instant) (reason : LoopStopReason) : LoopEnd where
  report := some {
    iterationsCompleted := s.iterationsCompleted
    lastSubmit := s.lastSubmit
    lastPropagation := s.lastPropagation
    lastSubscribe := s.lastSubscribe
    stoppedReason := reason }
  history := s.history
  begun := begun
  ended := s.world.now

/-- The last iteration of the history is never left. -/
def LoopState.waits (s : LoopState) (begun : Instant) : LoopEnd where
  report := none
  history := s.history
  begun := begun
  ended := s.world.now

def LoopState.record (s : LoopState) (it : Iteration) : LoopState :=
  { s with history := s.history ++ [it] }

/-- The two checks made before an iteration and after it. -/
def stopCheck (config : LoopConfig) (begun now : Instant) (iterationsCompleted : UInt32) :
    Option LoopStopReason :=
  if config.maxIterations.any fun max => max ≤ iterationsCompleted then some .maxIterations
  else if config.maxDurationSecs.any fun max => Duration.fromSecs max ≤ now - begun then
    some .maxDuration
  else none

/-- `iterations_completed += 1`. -/
def LoopState.count (s : LoopState) : LoopState :=
  { s with iterationsCompleted := s.iterationsCompleted + 1 }

def LoopState.sleepUntil (t : Instant) (s : LoopState) : LoopState :=
  { s with world := { s.world with now := t } }

/-- From `iterations_completed += 1` to the end of the loop body. -/
def closeIteration (config : LoopConfig) (cancel : Option Instant) (begun iterStart : Instant)
    (s : LoopState) : LoopState ⊕ LoopEnd :=
  let s := s.count
  match stopCheck config begun s.world.now s.iterationsCompleted with
  | some reason => .inr (s.stop begun reason)
  | none =>
      let elapsed := s.world.now - iterStart
      let interval := Duration.fromSecs config.intervalSecs
      if elapsed < interval then
        let wake := s.world.now + (interval - elapsed)
        match cancel.filter fun c => c ≤ wake with
        | some c => .inr ((s.sleepUntil (max s.world.now c)).stop begun .cancelled)
        | none => .inl (s.sleepUntil wake)
      else .inl s

/-- `iter_idx` is one more than the iterations completed. -/
def iterationTag (iterationsCompleted : UInt32) : String :=
  s!"[loop #{(iterationsCompleted + 1).toNat}] "

/-- Log the start of an iteration and draw its run id. -/
def LoopState.startIteration (s : LoopState) : LoopState :=
  { s with
    entropy := s.entropy.tail
    world := s.world.logLine s!"{iterationTag s.iterationsCompleted}starting iteration" }

section Loop

variable (connector : Future Endpoints) (work : UInt64 → String → Endpoints → Future CycleReport)
  (config : LoopConfig) (cancel : Option Instant) (begun : Instant)

/-- The body of an iteration, next to `cancel`. -/
def bodyTurn (iterStart : Instant) (reconnect : Option (Endpoints × Attempt Endpoints))
    (iterRunId : UInt64) (tag : String) (s : LoopState) : LoopState ⊕ LoopEnd :=
  match select cancel (work iterRunId tag s.endpoints) s.world with
  | (.pending, _) =>
      .inr ((s.record ⟨iterStart, reconnect, some (s.endpoints, .pending)⟩).waits begun)
  | (.cancelled at_, w) =>
      .inr (({ s with world := w }.record
        ⟨iterStart, reconnect, some (s.endpoints, .cancelled at_)⟩).stop begun .cancelled)
  | (.finished at_ (.ok r), w) =>
      closeIteration config cancel begun iterStart
        ({ s with
          lastSubmit := some r.submit
          lastPropagation := some r.propagation
          lastSubscribe := some r.subscribe
          world := w }.record
            ⟨iterStart, reconnect, some (s.endpoints, .finished at_ (.ok r))⟩)
  | (.finished at_ (.error e), w) =>
      closeIteration config cancel begun iterStart
        ({ s with world := w.logLine s!"{tag}iteration failed: {e}" }.record
          ⟨iterStart, reconnect, some (s.endpoints, .finished at_ (.error e))⟩)

/-- One turn of the `loop`. -/
def loopTurn (s : LoopState) : LoopState ⊕ LoopEnd :=
  match stopCheck config begun s.world.now s.iterationsCompleted with
  | some reason => .inr (s.stop begun reason)
  | none =>
      let tag := iterationTag s.iterationsCompleted
      let iterStart := s.world.now
      let iterRunId := s.entropy.head
      let s := s.startIteration
      if config.newConnectionPerIteration ∧ 0 < s.iterationsCompleted then
        let s : LoopState := { s with endpoints := [] }
        match select cancel connector s.world with
        | (.pending, _) =>
            .inr ((s.record ⟨iterStart, some (s.endpoints, .pending), none⟩).waits begun)
        | (.cancelled at_, w) =>
            .inr (({ s with world := w }.record
              ⟨iterStart, some (s.endpoints, .cancelled at_), none⟩).stop begun .cancelled)
        | (.finished at_ (.ok endpoints), w) =>
            bodyTurn work config cancel begun iterStart
              (some (s.endpoints, .finished at_ (.ok endpoints))) iterRunId tag
              { s with endpoints := endpoints, world := w }
        | (.finished at_ (.error e), w) =>
            closeIteration config cancel begun iterStart
              ({ s with world := w.logLine s!"{tag}reconnect failed: {e}" }.record
                ⟨iterStart, some (s.endpoints, .finished at_ (.error e)), none⟩)
      else bodyTurn work config cancel begun iterStart none iterRunId tag s

/-- The state in which the loop is entered. -/
def LoopState.initial (endpoints : Endpoints) (entropy : Stream' UInt64) (w : World) :
    LoopState where
  endpoints := endpoints
  iterationsCompleted := 0
  lastSubmit := none
  lastPropagation := none
  lastSubscribe := none
  entropy := entropy
  world := w
  history := []

/-- `run_loop` with the cycle left open; `none` when the initial connect never
ends or `fuel` turns are not enough. -/
def periodicLoop (fuel : Nat) (entropy : Stream' UInt64) (w : World) :
    Option (Except String LoopEnd) :=
  match config.validate with
  | .error e => some (.error e)
  | .ok () =>
      match connector.run w with
      | none => none
      | some (.error _, _) => some (.error "initial connect to RPC endpoints failed")
      | some (.ok endpoints, w) =>
          if endpoints = [] then
            some (.error "--rpc-endpoints must list at least one endpoint")
          else
            (run (loopTurn connector work config cancel w.now) fuel
              (.initial endpoints entropy w)).map .ok

end Loop

/-! ## The cycle and the connector of the binary -/

/-- The three phases of a cycle, in order, under one fresh run id. -/
def runCycle (env : OpsEnv) (fuel : Nat) (config : LoopConfig) (iterRunId : UInt64)
    (tag : String) (endpoints : Endpoints) (w : World) :
    Option (Except String CycleReport × World) :=
  match runSubmit env endpoints { config.submitConfig with runId := iterRunId } tag w with
  | (.error e, w) => some (.error e, w)
  | (.ok s, w) =>
      (runPropagation env fuel endpoints endpoints
        { config.propagationConfig with runId := iterRunId } tag w).bind fun
        | (.error e, w) => some (.error e, w)
        | (.ok p, w) =>
            (runSubscribe env fuel endpoints { config.subscribeConfig with runId := iterRunId }
              tag w).map fun
              | (.error e, w) => (.error e, w)
              | (.ok r, w) => (.ok ⟨s, p, r⟩, w)

theorem runCycle_now_le {env : OpsEnv} {fuel : Nat} {config : LoopConfig} {iterRunId : UInt64}
    {tag : String} {endpoints : Endpoints} {w w' : World} {out : Except String CycleReport}
    (h : runCycle env fuel config iterRunId tag endpoints w = some (out, w')) :
    w.now ≤ w'.now := by
  have hsubmitted := runSubmit_now_le env { config.submitConfig with runId := iterRunId }
    endpoints tag w
  unfold runCycle at h
  rcases hsubmit : runSubmit env endpoints { config.submitConfig with runId := iterRunId } tag w
    with ⟨(e | s), v⟩ <;> rw [hsubmit] at hsubmitted <;> simp only [hsubmit] at h
  · obtain ⟨-, rfl⟩ := Prod.mk.inj (Option.some.inj h)
    exact hsubmitted
  · obtain ⟨⟨p, v'⟩, hpropagation, h⟩ := Option.bind_eq_some_iff.mp h
    have hpropagated := hsubmitted.trans (runPropagation_now_le hpropagation)
    cases p with
    | error e =>
        obtain ⟨-, rfl⟩ := Prod.mk.inj (Option.some.inj h)
        exact hpropagated
    | ok p =>
        obtain ⟨⟨r, v''⟩, hsubscribe, heq⟩ := Option.map_eq_some_iff.mp h
        have hsubscribed := hpropagated.trans (runSubscribe_now_le hsubscribe)
        cases r <;> obtain ⟨-, rfl⟩ := Prod.mk.inj heq <;> exact hsubscribed

/-- **One cycle.**  With an accepted configuration and at least one endpoint, a
cycle that ends ends with its three reports, and its calls follow the labels
of its phases; the submissions of the first phase are complete. -/
theorem runCycle_extends {env : OpsEnv} {fuel : Nat} {config : LoopConfig} {iterRunId : UInt64}
    {tag : String} {endpoints : Endpoints} {w w' : World} {out : Except String CycleReport}
    (hvalid : config.validate = .ok ()) (hne : endpoints ≠ [])
    (h : runCycle env fuel config iterRunId tag endpoints w = some (out, w')) :
    (∃ r, out = .ok r) ∧ ∃ first pairs seeds, Extends w w' (first ++ (pairs ++ seeds)) ∧
      subscribed first = [] ∧
      labels first = (endpoints.flatMap fun entry =>
        (submitIndices config.submitConfig).map
          (submitLabel env { config.submitConfig with runId := iterRunId } entry.1)) ∧
      CallsForAll ((endpointPairs endpoints endpoints).flatMap fun pair =>
        pairLabels env { config.propagationConfig with runId := iterRunId }
          (UInt32.ofNat pair.2)) pairs ∧
      CallsForAll (endpoints.zipIdx.map fun entry =>
        seedLabel env { config.subscribeConfig with runId := iterRunId }
          (UInt32.ofNat entry.2)) seeds := by
  obtain ⟨-, hsubmit, hpropagation, hsubscribe⟩ := LoopConfig.validate_ok.mp hvalid
  obtain ⟨s, v, first, hrun, hfirst, hnone, hlabels⟩ := runSubmit_extends env
    { config.submitConfig with runId := iterRunId } hsubmit endpoints tag w
  simp only [runCycle, hrun] at h
  obtain ⟨⟨p, v'⟩, hprop, h⟩ := Option.bind_eq_some_iff.mp h
  have hvalidp : ({ config.propagationConfig with runId := iterRunId } :
    PropagationConfig).validate = .ok () := hpropagation
  obtain ⟨⟨p, rfl⟩, pairs, hpairs, hcallsp⟩ := runPropagation_extends hvalidp hne hne hprop
  obtain ⟨⟨r, v''⟩, hsub, heq⟩ := Option.map_eq_some_iff.mp h
  have hvalidr : ({ config.subscribeConfig with runId := iterRunId } :
    SubscribeConfig).validate = .ok () := hsubscribe
  obtain ⟨⟨r, rfl⟩, seeds, hseeds, hcallss⟩ := runSubscribe_extends hvalidr hsub
  obtain ⟨rfl, rfl⟩ := Prod.mk.inj heq
  exact ⟨⟨_, rfl⟩, first, pairs, seeds, hfirst.trans (hpairs.trans hseeds), hnone, hlabels,
    hcallsp, hcallss⟩

/-- The body of an iteration.  A cycle that has not ended within `fuel` turns of
its reads counts as one that never does. -/
def cycle (env : OpsEnv) (fuel : Nat) (config : LoopConfig) (iterRunId : UInt64) (tag : String)
    (endpoints : Endpoints) : Future CycleReport where
  run := runCycle env fuel config iterRunId tag endpoints
  now_le := runCycle_now_le

/-- `connect_all` over fixed URLs, the connector of the binary. -/
def connector (urls : List String) : Future Endpoints where
  run w := some (connectAll urls w)
  now_le {w out w'} h := by
    have hle := connectAll_now_le urls w
    rw [Option.some.inj h] at hle
    exact hle

/-- The connector returns no empty list. -/
theorem connector_nonempty {urls : List String} {w w' : World} {endpoints : Endpoints}
    (h : (connector urls).run w = some (.ok endpoints, w')) : endpoints ≠ [] := by
  obtain ⟨hne, hnames⟩ := connectAll_names (Option.some.inj h)
  intro heq
  obtain rfl := heq
  exact hne hnames.symm

/-- `run_loop`. -/
def runLoop (env : OpsEnv) (cycleFuel : Nat) (connector : Future Endpoints)
    (config : LoopConfig) (cancel : Option Instant) (fuel : Nat) (entropy : Stream' UInt64)
    (w : World) : Option (Except String LoopEnd) :=
  periodicLoop connector (cycle env cycleFuel config) config cancel fuel entropy w

end StatementStore
