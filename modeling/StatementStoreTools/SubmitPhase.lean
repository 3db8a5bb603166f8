import StatementStoreTools.Loops
import StatementStoreTools.OpsCommon

/-!
# The `submit` phase

`run_submit`: on every endpoint, take the configured number of timing samples.
A sample is one batch of statements, submitted in parallel on one connection;
it lasts as long as its slowest submission.

`runSubmitOnEndpoint_extends` says which statements an endpoint is sent.
-/

namespace StatementStore

open Loops

structure SubmitConfig where
  iterations : UInt32
  iterationBatch : UInt32
  messageSize : UInt64
  baseExpirySecs : UInt64
  runId : UInt64
  topicOverride : Option Bytes32

def SubmitConfig.validate (config : SubmitConfig) : Except String Unit := do
  ensure (0 < config.iterations) "--iterations must be > 0"
  ensure (0 < config.iterationBatch) "--iteration-batch must be > 0"
  ensure (0 < config.messageSize) "--message-size must be > 0"
  ensure (0 < config.baseExpirySecs) "--base-expiry-secs must be > 0"

theorem SubmitConfig.validate_ok {config : SubmitConfig} :
    config.validate = .ok () ↔
      0 < config.iterations ∧ 0 < config.iterationBatch ∧ 0 < config.messageSize ∧
        0 < config.baseExpirySecs := by
  simp only [SubmitConfig.validate, validate_bind_ok, ensure_ok, decide_eq_true_eq]

structure SubmitEndpointReport where
  endpoint : String
  stats : Option Stats
  successes : UInt32
  failures : UInt32
  firstError : Option String
  iterationBatch : UInt32
deriving DecidableEq

/-- `join_all` over a batch: all submissions start at once, and the last answer
ends the wait. -/
def submitAll (rpc : Handle) (statements : List Statement) (w : World) :
    List (Except String SubmitResult) × World :=
  let conn := w.conns rpc
  let answers := conn.submits.take statements.length
  (answers.map (·.2),
    { w with
      now := w.now + (answers.map (·.1)).foldl max 0
      conns := Function.update w.conns rpc
        { conn with submits := conn.submits.drop statements.length }
      calls := w.calls ++ statements.map (.submit rpc w.now) })

/-- The counters of an endpoint's batches. -/
structure SubmitTally where
  durationsSecs : List Rat
  successes : UInt32
  failures : UInt32
  firstError : Option String

def SubmitTally.zero : SubmitTally := ⟨[], 0, 0, none⟩

/-- Count one submission. -/
def SubmitTally.record (tally : SubmitTally) (result : Except String SubmitResult) :
    SubmitTally :=
  match accepted result with
  | .ok () => { tally with successes := tally.successes + 1 }
  | .error e =>
      { tally with
        failures := tally.failures + 1
        firstError := tally.firstError.or (some e) }

def submitScope (endpoint : String) : String :=
  s!"submit-{endpoint}"

/-- The statement with the running index `globalIdx`. -/
def submitStatementAt (env : OpsEnv) (config : SubmitConfig) (endpoint : String)
    (baseExpiry globalIdx : UInt32) : Statement :=
  let scope := submitScope endpoint
  let topic := config.topicOverride.getD (deriveTopic env.crates config.runId scope globalIdx)
  let channel := deriveChannel env.crates config.runId scope globalIdx
  buildStatement env.keypair topic channel (saturatingAdd32 baseExpiry globalIdx) globalIdx
    (zeroes config.messageSize)

/-- The statements of one batch. -/
def batchStatements (env : OpsEnv) (config : SubmitConfig) (endpoint : String)
    (baseExpiry batchIdx : UInt32) : List Statement :=
  (List.range config.iterationBatch.toNat).map fun subIdx =>
    submitStatementAt env config endpoint baseExpiry
      (batchIdx * config.iterationBatch + UInt32.ofNat subIdx)

/-- Submit one batch and record its sample. -/
def runBatch (env : OpsEnv) (endpoint : String) (rpc : Handle) (config : SubmitConfig)
    (baseExpiry : UInt32) (state : SubmitTally × World) (batchIdx : UInt32) :
    SubmitTally × World :=
  let started := state.2.now
  let out := submitAll rpc (batchStatements env config endpoint baseExpiry batchIdx) state.2
  let tally := { state.1 with
    durationsSecs := state.1.durationsSecs ++ [Duration.asSecsF64 (out.2.now - started)] }
  (out.1.foldl SubmitTally.record tally, out.2)

def runSubmitOnEndpoint (env : OpsEnv) (endpoint : String) (rpc : Handle)
    (config : SubmitConfig) (w : World) : SubmitEndpointReport × World :=
  let baseExpiry := expirySecondsFromNow env.clock w.now config.baseExpirySecs
  let done := (List.range config.iterations.toNat).foldl
    (fun state batchIdx =>
      runBatch env endpoint rpc config baseExpiry state (UInt32.ofNat batchIdx))
    (SubmitTally.zero, w)
  ({
    endpoint := endpoint
    stats := calcStats done.1.durationsSecs
    successes := done.1.successes
    failures := done.1.failures
    firstError := done.1.firstError
    iterationBatch := config.iterationBatch }, done.2)

/-- `log_endpoint_report`. -/
def submitReportLine (tag : String) (r : SubmitEndpointReport) : String :=
  let batchSuffix := if 1 < r.iterationBatch then s!" batch={r.iterationBatch.toNat}" else ""
  match r.stats with
  | some s =>
      s!"{tag}submit endpoint={r.endpoint} ok={r.successes.toNat} fail={r.failures.toNat} " ++
        s!"min={fixed 4 s.min}s avg={fixed 4 s.avg}s max={fixed 4 s.max}s n={s.count}" ++
        batchSuffix ++ errSuffix r.firstError
  | none =>
      s!"{tag}submit endpoint={r.endpoint} ok={r.successes.toNat} fail={r.failures.toNat} " ++
        s!"no samples{batchSuffix}{errSuffix r.firstError}"

def runSubmit (env : OpsEnv) (endpoints : List (String × Handle)) (config : SubmitConfig)
    (tag : String) (w : World) : Except String (List SubmitEndpointReport) × World :=
  match config.validate with
  | .error e => (.error e, w)
  | .ok () =>
      let done := endpoints.foldl
        (fun state entry =>
          let out := runSubmitOnEndpoint env entry.1 entry.2 config state.2
          (state.1 ++ [out.1], out.2.logLine (submitReportLine tag out.1)))
        (([] : List SubmitEndpointReport), w)
      (.ok done.1, done.2)

/-! ## What the phase sends -/

/-- The label of the statement with the running index `globalIdx`. -/
def submitLabel (env : OpsEnv) (config : SubmitConfig) (endpoint : String)
    (globalIdx : UInt32) : Label where
  signer := some env.keypair.account
  channel := some (deriveChannel env.crates config.runId (submitScope endpoint) globalIdx)
  topics := [config.topicOverride.getD
    (deriveTopic env.crates config.runId (submitScope endpoint) globalIdx)]

/-- The running indices of an endpoint, batch by batch. -/
def submitIndices (config : SubmitConfig) : List UInt32 :=
  (List.range config.iterations.toNat).flatMap fun batchIdx =>
    (List.range config.iterationBatch.toNat).map fun subIdx =>
      UInt32.ofNat batchIdx * config.iterationBatch + UInt32.ofNat subIdx

section Sent

variable (env : OpsEnv) (config : SubmitConfig)

theorem submitted_map_submit (rpc : Handle) (t : Instant) (statements : List Statement) :
    submitted (statements.map (.submit rpc t)) = statements := by
  rw [submitted, List.filterMap_map]
  exact List.filterMap_some

private theorem subscribed_map_submit (rpc : Handle) (t : Instant)
    (statements : List Statement) : subscribed (statements.map (.submit rpc t)) = [] := by
  induction statements with
  | nil => rfl
  | cons s statements ih =>
      rw [List.map_cons, ← List.singleton_append, subscribed_append, ih]
      rfl

theorem submitAll_extends (rpc : Handle) (statements : List Statement) (w : World) :
    Extends w (submitAll rpc statements w).2 (statements.map (.submit rpc w.now)) :=
  ⟨rfl, Nat.le_add_right ..⟩

theorem submitStatementAt_label (endpoint : String) (baseExpiry globalIdx : UInt32) :
    (submitStatementAt env config endpoint baseExpiry globalIdx).label =
      submitLabel env config endpoint globalIdx := rfl

theorem runBatch_extends (endpoint : String) (rpc : Handle) (baseExpiry : UInt32)
    (state : SubmitTally × World) (batchIdx : UInt32) :
    ∃ new, Extends state.2 (runBatch env endpoint rpc config baseExpiry state batchIdx).2 new ∧
      subscribed new = [] ∧
      labels new = ((List.range config.iterationBatch.toNat).map fun subIdx =>
        batchIdx * config.iterationBatch + UInt32.ofNat subIdx).map
          (submitLabel env config endpoint) := by
  refine ⟨_, submitAll_extends rpc _ state.2, subscribed_map_submit .., ?_⟩
  rw [labels, submitted_map_submit, batchStatements, List.map_map, List.map_map]
  exact List.map_congr_left fun subIdx _ => submitStatementAt_label ..

/-- **One endpoint.**  It is sent one statement for every running index. -/
theorem runSubmitOnEndpoint_extends (endpoint : String) (rpc : Handle) (w : World) :
    ∃ new, Extends w (runSubmitOnEndpoint env endpoint rpc config w).2 new ∧
      subscribed new = [] ∧
      labels new = (submitIndices config).map (submitLabel env config endpoint) := by
  apply foldl_rule _ (List.range config.iterations.toNat)
    (fun done (state : SubmitTally × World) => ∃ new, Extends w state.2 new ∧
      subscribed new = [] ∧
      labels new = (done.flatMap fun batchIdx =>
        (List.range config.iterationBatch.toNat).map fun subIdx =>
          UInt32.ofNat batchIdx * config.iterationBatch + UInt32.ofNat subIdx).map
            (submitLabel env config endpoint))
  case turn =>
    intro done batchIdx rest state _ hgiven
    obtain ⟨new, hnew, hsubscribed, hlabels⟩ := hgiven
    obtain ⟨more, hmore, hsubscribed', hlabels'⟩ := runBatch_extends env config endpoint rpc
      (expirySecondsFromNow env.clock w.now config.baseExpirySecs) state (UInt32.ofNat batchIdx)
    refine ⟨new ++ more, hnew.trans hmore, ?_, ?_⟩
    · rw [subscribed_append, hsubscribed, hsubscribed', List.append_nil]
    · rw [labels_append, hlabels, hlabels', List.flatMap_append, List.map_append]
      simp
  case hs => exact ⟨[], Extends.refl w, rfl, rfl⟩

/-- **All endpoints**, one after the other. -/
theorem runSubmit_extends (hvalid : config.validate = .ok ()) (endpoints : List (String × Handle))
    (tag : String) (w : World) :
    ∃ reports w' new, runSubmit env endpoints config tag w = (.ok reports, w') ∧
      Extends w w' new ∧ subscribed new = [] ∧
      labels new = endpoints.flatMap fun entry =>
        (submitIndices config).map (submitLabel env config entry.1) := by
  simp only [runSubmit, hvalid]
  have hall := foldl_rule
    (fun (state : List SubmitEndpointReport × World) (entry : String × Handle) =>
      let out := runSubmitOnEndpoint env entry.1 entry.2 config state.2
      (state.1 ++ [out.1], out.2.logLine (submitReportLine tag out.1)))
    endpoints
    (fun done state => ∃ new, Extends w state.2 new ∧ subscribed new = [] ∧
      labels new = done.flatMap fun entry =>
        (submitIndices config).map (submitLabel env config entry.1))
    ?turn (s := ([], w)) ⟨[], Extends.refl w, rfl, rfl⟩
  · obtain ⟨new, hnew⟩ := hall
    exact ⟨_, _, new, rfl, hnew⟩
  case turn =>
    intro done entry rest state _ hgiven
    obtain ⟨new, hnew, hsubscribed, hlabels⟩ := hgiven
    obtain ⟨more, hmore, hsubscribed', hlabels'⟩ := runSubmitOnEndpoint_extends env config
      entry.1 entry.2 state.2
    refine ⟨new ++ more, (hnew.trans hmore).logLine _, ?_, ?_⟩
    · rw [subscribed_append, hsubscribed, hsubscribed', List.append_nil]
    · rw [labels_append, hlabels, hlabels', List.flatMap_append]
      simp

theorem runSubmit_now_le (endpoints : List (String × Handle)) (tag : String) (w : World) :
    w.now ≤ (runSubmit env endpoints config tag w).2.now := by
  cases hvalid : config.validate with
  | error e => simp [runSubmit, hvalid]
  | ok u =>
      obtain ⟨reports, w', new, hrun, hnew, -⟩ :=
        runSubmit_extends env config hvalid endpoints tag w
      rw [hrun]
      exact hnew.now_le

end Sent

end StatementStore
