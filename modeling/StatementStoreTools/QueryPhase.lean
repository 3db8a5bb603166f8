import StatementStoreTools.OpsCommon
import StatementStoreTools.StreamReads

/-!
# The `query` command

`run_query`: on every endpoint, open a subscription, collect its initial dump,
decode it and print it sorted by expiry.  An endpoint that fails leaves a
report with its error and does not stop the others.
-/

namespace StatementStore

open TimedStreams

structure QueryConfig where
  topic : Option Bytes32
  drainTimeoutMs : UInt64

def QueryConfig.validate (config : QueryConfig) : Except String Unit :=
  ensure (0 < config.drainTimeoutMs) "--drain-timeout-ms must be > 0"

/-- Display-oriented view of one statement from the dump. -/
structure StatementSummary where
  hash : Bytes32
  account : Option Bytes32
  topics : List Topic
  expirySecs : UInt32
  seq : UInt32
  dataLen : Nat
  channel : Option Bytes32

def StatementSummary.fromStatement (crates : Crates) (statement : Statement) :
    StatementSummary where
  hash := crates.hash statement
  account := statement.signer
  topics := statement.topics
  expirySecs := statement.expirationTimestampSecs
  seq := statement.expiry.toUInt32
  dataLen := statement.dataLen
  channel := statement.channel

structure QueryEndpointReport where
  endpoint : String
  statements : List StatementSummary
  undecodable : Nat
  error : Option String

/-- Every endpoint failed. -/
def allFailed (perEndpoint : List QueryEndpointReport) : Bool :=
  !perEndpoint.isEmpty && perEndpoint.all fun r => r.error.isSome

def filterLabel : Option Bytes32 → String
  | some t => s!"0x{hexFull t}"
  | none => "any"

def filterFor : Option Bytes32 → Except String TopicFilter
  | some t => singleTopicFilter t
  | none => .ok .any

theorem filterFor_ok (topic : Option Bytes32) : ∃ filter, filterFor topic = .ok filter := by
  cases topic with
  | none => exact ⟨_, rfl⟩
  | some t => exact ⟨_, singleTopicFilter_ok t⟩

/-- `(expiry_secs, seq)`, compared lexicographically. -/
def StatementSummary.keyLe (a b : StatementSummary) : Bool :=
  a.expirySecs < b.expirySecs || (a.expirySecs = b.expirySecs && a.seq ≤ b.seq)

/-- Decode the dump, skipping what does not decode, and sort it (stably). -/
def summarize (crates : Crates) (dump : List Bytes) : List StatementSummary × Nat :=
  let decoded := dump.filterMap crates.decode
  ((decoded.map (StatementSummary.fromStatement crates)).mergeSort StatementSummary.keyLe,
    dump.countP fun encoded => (crates.decode encoded).isNone)

def queryEndpoint (crates : Crates) (fuel : Nat) (endpoint : String) (rpc : Handle)
    (config : QueryConfig) (w : World) : Option (QueryEndpointReport × World) :=
  let failed (e : String) : QueryEndpointReport :=
    { endpoint := endpoint, statements := [], undecodable := 0, error := some e }
  match filterFor config.topic with
  | .error e => some (failed e, w)
  | .ok filter =>
      match subscribeTopic rpc filter w with
      | (.error e, w) => some (failed e, w)
      | (.ok stream, w) =>
          let drainTo := Duration.fromMillis config.drainTimeoutMs
          (collectInitialDump fuel drainTo stream).map fun dump =>
            let w := w.wait dump.spent
            match dump.result with
            | .error e => (failed e, w)
            | .ok payloads =>
                let out := summarize crates payloads
                ({ endpoint := endpoint, statements := out.1, undecodable := out.2
                   error := none }, w)

/-! ## The report -/

/-- `format_duration_secs`. -/
def formatDurationSecs (secs : UInt64) : String :=
  let days := secs / 86400
  let hours := (secs % 86400) / 3600
  let minutes := (secs % 3600) / 60
  let seconds := secs % 60
  let out := if 0 < days then s!"{days.toNat}d" else ""
  let out := if 0 < hours ∨ out ≠ "" then out ++ s!"{hours.toNat}h" else out
  let out := if 0 < minutes ∨ out ≠ "" then out ++ s!"{minutes.toNat}m" else out
  out ++ s!"{seconds.toNat}s"

/-- Time to, or since, the expiry. -/
def formatRemaining (nowSecs : UInt64) (expirySecs : UInt32) : String :=
  let expiry := expirySecs.toUInt64
  if nowSecs < expiry then s!"expires in {formatDurationSecs (expiry - nowSecs)}"
  else if expiry < nowSecs then s!"expired {formatDurationSecs (nowSecs - expiry)} ago"
  else "expires now"

def optHex : Option Bytes32 → String
  | some b => s!"0x{hexFull b}"
  | none => "none"

/-- The line of statement `i`. -/
def statementLine (nowSecs : UInt64) (i : Nat) (s : StatementSummary) : String :=
  let topics := ",".intercalate (s.topics.map fun t => s!"0x{hexFull t}")
  s!"  [{i}] hash=0x{hexFull s.hash} expires_at={s.expirySecs.toNat} " ++
    s!"({formatRemaining nowSecs s.expirySecs}) seq={s.seq.toNat} data_len={s.dataLen} " ++
    s!"account={optHex s.account} channel={optHex s.channel} topics=[{topics}]"

/-- The lines logged for an endpoint. -/
def queryReportLines (nowSecs : UInt64) (config : QueryConfig) (r : QueryEndpointReport) :
    List String :=
  let filter := filterLabel config.topic
  match r.error with
  | some e => [s!"query endpoint={r.endpoint} filter={filter} failed: {e}"]
  | none =>
      (s!"query endpoint={r.endpoint} filter={filter} n={r.statements.length} " ++
        s!"undecodable={r.undecodable} (sorted by expiry, soonest first)") ::
      if r.statements = [] then ["  (no matching statements)"]
      else r.statements.zipIdx.map fun p => statementLine nowSecs p.2 p.1

def World.logLines (lines : List String) (w : World) : World :=
  { w with log := w.log ++ lines }

@[simp] theorem logLines_log (lines : List String) (w : World) :
    (w.logLines lines).log = w.log ++ lines := rfl

/-- `run_query`; `none` when one of its dumps has not ended. -/
def runQuery (crates : Crates) (clock : Clock) (fuel : Nat)
    (endpoints : List (String × Handle)) (config : QueryConfig) (w : World) :
    Option (Except String (List QueryEndpointReport) × World) :=
  match config.validate with
  | .error e => some (.error e, w)
  | .ok () =>
      (endpoints.foldlM
        (fun state entry =>
          (queryEndpoint crates fuel entry.1 entry.2 config state.2).map fun out =>
            (state.1 ++ [out.1],
              out.2.logLines (queryReportLines (nowUnixSecs clock out.2.now) config out.1)))
        (([] : List QueryEndpointReport), w)).map fun done => (.ok done.1, done.2)

/-! ## What one endpoint contributes -/

/-- The connection's next subscription opens and its initial dump completes,
at poll `b`. -/
def DumpCompletes (window : Duration) (w : World) (rpc : Handle) (stream : EventStream)
    (b : Nat) : Prop :=
  (w.conns rpc).subscriptions.head.2 = .ok stream ∧ DumpEndsAt window stream b

/-- What querying an endpoint leaves of the world: only its own connection has
moved on. -/
structure Queried (rpc : Handle) (before after : World) : Prop where
  log : after.log = before.log
  conns : ∀ h, h ≠ rpc → after.conns h = before.conns h

theorem summarize_length (crates : Crates) (dump : List Bytes) :
    (summarize crates dump).1.length + (summarize crates dump).2 = dump.length := by
  induction dump with
  | nil => simp [summarize]
  | cons b dump ih =>
      simp only [summarize, List.length_mergeSort, List.length_map, List.filterMap_cons,
        List.countP_cons] at ih ⊢
      cases crates.decode b <;> simp at ih ⊢ <;> omega

/-- **One endpoint.**  It is reported without an error exactly when its dump
completes, and then with the whole of it. -/
theorem queryEndpoint_spec {crates : Crates} {fuel : Nat} {endpoint : String} {rpc : Handle}
    {config : QueryConfig} {w w' : World} {r : QueryEndpointReport}
    (h : queryEndpoint crates fuel endpoint rpc config w = some (r, w')) :
    r.endpoint = endpoint ∧ Queried rpc w w' ∧
      (r.error = none ↔ ∃ stream b,
        DumpCompletes (Duration.fromMillis config.drainTimeoutMs) w rpc stream b) ∧
      ∀ stream b, DumpCompletes (Duration.fromMillis config.drainTimeoutMs) w rpc stream b →
        r.statements.length + r.undecodable = (payloads stream (b + 1)).length := by
  obtain ⟨filter, hfilter⟩ := filterFor_ok config.topic
  have hquery : Queried rpc w (subscribeTopic rpc filter w).2 :=
    ⟨rfl, fun h hne => by simp [subscribeTopic, hne]⟩
  have hfirst : (w.conns rpc).subscriptions.head.2 = (subscribeTopic rpc filter w).1 := rfl
  simp only [queryEndpoint, hfilter] at h
  rcases hsub : subscribeTopic rpc filter w with ⟨answer, w₁⟩
  rw [hsub] at hquery hfirst
  simp only [hsub] at h
  cases answer with
  | error e =>
      obtain ⟨rfl, rfl⟩ := Prod.mk.inj (Option.some.inj h)
      have hnot : ∀ stream b, ¬ DumpCompletes (Duration.fromMillis config.drainTimeoutMs) w rpc
          stream b := by
        intro stream b hgiven
        obtain ⟨hopen, -⟩ := hgiven
        rw [hfirst] at hopen
        cases hopen
      exact ⟨rfl, hquery, by simp [hnot], fun stream b hc => absurd hc (hnot stream b)⟩
  | ok stream =>
      obtain ⟨dump, hdump, h⟩ := Option.map_eq_some_iff.mp h
      cases hresult : dump.result with
      | error e =>
          simp only [hresult] at h
          obtain ⟨rfl, rfl⟩ := Prod.mk.inj h
          have hnot : ∀ stream b, ¬ DumpCompletes (Duration.fromMillis config.drainTimeoutMs) w
              rpc stream b := by
            intro stream' b hgiven
            obtain ⟨hopen, hend⟩ := hgiven
            obtain rfl := Except.ok.inj (hfirst.symm.trans hopen)
            obtain ⟨fuel', out, hrun, hok, -⟩ := collectInitialDump_of_boundary hend
            obtain rfl := Reader.read_unique hrun hdump
            rw [hok] at hresult
            cases hresult
          exact ⟨rfl, ⟨hquery.log, hquery.conns⟩, by simp [hnot],
            fun stream b hc => absurd hc (hnot stream b)⟩
      | ok v =>
          simp only [hresult] at h
          obtain ⟨rfl, rfl⟩ := Prod.mk.inj h
          obtain ⟨b, hend, rfl, -⟩ := collectInitialDump_ok hdump hresult
          refine ⟨rfl, ⟨hquery.log, hquery.conns⟩, ?_, ?_⟩
          · exact ⟨fun _ => ⟨stream, b, hfirst, hend⟩, fun _ => rfl⟩
          · intro stream' b' hgiven
            obtain ⟨hopen, hend'⟩ := hgiven
            obtain rfl := Except.ok.inj (hfirst.symm.trans hopen)
            obtain rfl := hend.unique hend'
            exact summarize_length crates _

theorem allFailed_iff {perEndpoint : List QueryEndpointReport} :
    allFailed perEndpoint = true ↔ perEndpoint ≠ [] ∧ ∀ r ∈ perEndpoint, r.error ≠ none := by
  simp [allFailed, Option.isSome_iff_ne_none]

end StatementStore
