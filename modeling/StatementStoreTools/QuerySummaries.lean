import StatementStoreTools.QueryPhase
import StatementStoreTools.SplitWords
import StatementStoreTools.StableSorting

/-!
# What `query` shows of a dump

An endpoint is shown all or nothing.  When its dump is complete, every payload
that decodes is listed, the soonest to expire first and equal ones in the order
of the dump, and the others are counted; what comes after the boundary is never
read.  When the subscription fails, or breaks off before the boundary, the
report is the error alone, whatever has been read by then.

The sort looks at the two halves of the expiry.  Together they are the expiry,
so this is the order of the expiry itself: `keyLe_fromStatement`.
-/

namespace StatementStore

open TimedStreams SplitWords StableSorting

/-! ## The order of the summaries -/

/-- The order of the expiries, halves not taken apart. -/
def Statement.expiryLe (a b : Statement) : Bool := a.expiry ≤ b.expiry

theorem expiryLe_trans (a b c : Statement) (hab : a.expiryLe b = true)
    (hbc : b.expiryLe c = true) : a.expiryLe c = true := by
  simp only [Statement.expiryLe, decide_eq_true_eq] at hab hbc ⊢
  exact UInt64.le_trans hab hbc

theorem expiryLe_total (a b : Statement) : (a.expiryLe b || b.expiryLe a) = true := by
  simp only [Statement.expiryLe, Bool.or_eq_true, decide_eq_true_eq]
  exact UInt64.le_total ..

theorem keyLe_iff {a b : StatementSummary} : a.keyLe b = true ↔
    a.expirySecs < b.expirySecs ∨ (a.expirySecs = b.expirySecs ∧ a.seq ≤ b.seq) := by
  simp [StatementSummary.keyLe]

/-- **Seconds and sequence number, in this order, are the expiry.** -/
theorem keyLe_fromStatement (crates : Crates) (a b : Statement) :
    (StatementSummary.fromStatement crates a).keyLe (StatementSummary.fromStatement crates b) =
      a.expiryLe b := by
  have hhalves : a.expiry ≤ b.expiry ↔
      a.expirationTimestampSecs < b.expirationTimestampSecs ∨
        (a.expirationTimestampSecs = b.expirationTimestampSecs ∧
          a.expiry.toUInt32 ≤ b.expiry.toUInt32) := le_iff_halves
  rw [Bool.eq_iff_iff, keyLe_iff, Statement.expiryLe, decide_eq_true_eq, hhalves]
  rfl

/-! ## A complete dump -/

/-- All of `dump` is accounted for: what decodes is listed, sorted by the key of
the summaries and no less by the expiries themselves, the rest is counted. -/
structure DumpReported (crates : Crates) (dump : List Bytes) (r : QueryEndpointReport) :
    Prop where
  error : r.error = none
  listed : StablySorted StatementSummary.keyLe
    ((dump.filterMap crates.decode).map (StatementSummary.fromStatement crates)) r.statements
  byExpiry : ∃ statements,
    StablySorted Statement.expiryLe (dump.filterMap crates.decode) statements ∧
      r.statements = statements.map (StatementSummary.fromStatement crates)
  undecodable : r.undecodable = dump.countP fun encoded => (crates.decode encoded).isNone
  size : r.statements.length + r.undecodable = dump.length

/-- The report of an endpoint that could not be queried. -/
def failedReport (endpoint e : String) : QueryEndpointReport where
  endpoint := endpoint
  statements := []
  undecodable := 0
  error := some e

/-- The report of an endpoint, by the outcome of its dump. -/
def dumpReport (crates : Crates) (endpoint : String) : Except String (List Bytes) →
    QueryEndpointReport
  | .error e => failedReport endpoint e
  | .ok dump =>
      { endpoint := endpoint
        statements := (summarize crates dump).1
        undecodable := (summarize crates dump).2
        error := none }

theorem dumpReport_reported (crates : Crates) (endpoint : String) (dump : List Bytes) :
    DumpReported crates dump (dumpReport crates endpoint (.ok dump)) := by
  have hsorted := stablySorted_mergeSort expiryLe_trans expiryLe_total
    (dump.filterMap crates.decode)
  -- sorting the summaries is sorting the statements first
  have hmap : (summarize crates dump).1 =
      ((dump.filterMap crates.decode).mergeSort Statement.expiryLe).map
        (StatementSummary.fromStatement crates) := by
    rw [List.map_mergeSort fun a _ b _ => (keyLe_fromStatement crates a b).symm]
    rfl
  refine ⟨rfl, ?_, ⟨_, hsorted, hmap⟩, rfl, summarize_length crates dump⟩
  change StablySorted _ _ (summarize crates dump).1
  rw [hmap]
  exact hsorted.map (keyLe_fromStatement crates)

/-! ## One endpoint -/

section Endpoint

variable {crates : Crates} {fuel : Nat} {endpoint : String} {rpc : Handle} {config : QueryConfig}
  {w : World}

theorem queryEndpoint_refused {e : String}
    (hrefused : (w.conns rpc).subscriptions.head.2 = .error e) :
    ∃ w', queryEndpoint crates fuel endpoint rpc config w = some (failedReport endpoint e, w') := by
  obtain ⟨filter, hfilter⟩ := filterFor_ok config.topic
  have hanswer : (subscribeTopic rpc filter w).1 = .error e := hrefused
  refine ⟨(subscribeTopic rpc filter w).2, ?_⟩
  rcases hsub : subscribeTopic rpc filter w with ⟨answer, v⟩
  rw [hsub] at hanswer
  obtain rfl : answer = .error e := hanswer
  simp [queryEndpoint, hfilter, hsub, failedReport]

/-- An endpoint makes one read of the subscription, and reports what it gives. -/
theorem queryEndpoint_opened {stream : EventStream}
    (hopen : (w.conns rpc).subscriptions.head.2 = .ok stream) :
    ∃ v : World, queryEndpoint crates fuel endpoint rpc config w =
      (collectInitialDump fuel (Duration.fromMillis config.drainTimeoutMs) stream).map fun dump =>
        (dumpReport crates endpoint dump.result, v.wait dump.spent) := by
  obtain ⟨filter, hfilter⟩ := filterFor_ok config.topic
  have hanswer : (subscribeTopic rpc filter w).1 = .ok stream := hopen
  refine ⟨(subscribeTopic rpc filter w).2, ?_⟩
  rcases hsub : subscribeTopic rpc filter w with ⟨answer, v⟩
  rw [hsub] at hanswer
  obtain rfl : answer = .ok stream := hanswer
  simp only [queryEndpoint, hfilter, hsub]
  refine congrArg (fun f => Option.map f _) (funext fun dump => ?_)
  cases dump.result with
  | error e => rfl
  | ok payloads => rfl

end Endpoint

/-- **All or nothing.**  A complete dump is reported as a whole, and the read
leaves everything after its boundary in the stream.  A subscription that fails,
or breaks off before the boundary, is reported as its error alone.  There is no
third way to be reported. -/
theorem query_reports_dump (crates : Crates) (endpoint : String) (rpc : Handle)
    (config : QueryConfig) (w : World) :
    (∀ e fuel, (w.conns rpc).subscriptions.head.2 = .error e →
      ∃ w', queryEndpoint crates fuel endpoint rpc config w =
        some (failedReport endpoint e, w')) ∧
    ∀ stream, (w.conns rpc).subscriptions.head.2 = .ok stream →
      (∀ b fuel, DumpEndsAt (Duration.fromMillis config.drainTimeoutMs) stream b → b < fuel →
        ∃ dump r w',
          collectInitialDump fuel (Duration.fromMillis config.drainTimeoutMs) stream = some dump ∧
          dump.rest = stream.drop (b + 1) ∧
          queryEndpoint crates fuel endpoint rpc config w = some (r, w') ∧
          r.endpoint = endpoint ∧ DumpReported crates (payloads stream (b + 1)) r) ∧
      (∀ n e fuel, DumpBreaksAt (Duration.fromMillis config.drainTimeoutMs) stream n e →
        n < fuel → ∃ w', queryEndpoint crates fuel endpoint rpc config w =
          some (failedReport endpoint e, w')) ∧
      ∀ fuel r w', queryEndpoint crates fuel endpoint rpc config w = some (r, w') →
        (∃ b, DumpEndsAt (Duration.fromMillis config.drainTimeoutMs) stream b) ∨
          ∃ n e, DumpBreaksAt (Duration.fromMillis config.drainTimeoutMs) stream n e := by
  refine ⟨fun e fuel hrefused => queryEndpoint_refused hrefused, fun stream hopen => ⟨?_, ?_, ?_⟩⟩
  · intro b fuel hend hfuel
    obtain ⟨t, hread⟩ := collectInitialDump_within hend hfuel
    obtain ⟨v, hquery⟩ := queryEndpoint_opened hopen
    rw [hread, Option.map_some] at hquery
    exact ⟨_, _, _, hread, rfl, hquery, rfl, dumpReport_reported ..⟩
  · intro n e fuel hbreak hfuel
    obtain ⟨out, hread, herror⟩ := collectInitialDump_broken hbreak hfuel
    obtain ⟨v, hquery⟩ := queryEndpoint_opened hopen
    rw [hread, Option.map_some, herror] at hquery
    exact ⟨_, hquery⟩
  · intro fuel r w' h
    obtain ⟨v, hquery⟩ := queryEndpoint_opened hopen
    rw [hquery] at h
    obtain ⟨dump, hread, -⟩ := Option.map_eq_some_iff.mp h
    cases hresult : dump.result with
    | error e =>
        obtain ⟨n, hbreak⟩ := collectInitialDump_error hread hresult
        exact Or.inr ⟨n, e, hbreak⟩
    | ok v =>
        obtain ⟨b, hend, -⟩ := collectInitialDump_ok hread hresult
        exact Or.inl ⟨b, hend⟩

/-- A statement is encoded by its expiry, in one byte. -/
def expiryByte : Crates :=
  { plainCrates with
    encode := fun s => [s.expiry.toUInt8]
    decode := fun encoded => encoded.head?.map fun b =>
      { Statement.new with expiry := b.toUInt64 } }

/-- A dump in two events, with something that does not decode, and a live event
after it. -/
def twoEventStream : EventStream :=
  Stream'.cons (.item 0 (.ok (.newStatements [[3], []] (some 1))))
    (Stream'.cons (.item 0 (.ok (.newStatements [[1], [3]] (some 0))))
      (Stream'.const (.item 0 (.ok (.newStatements [[2]] none)))))

/-- Half a dump, then silence. -/
def halfStream : EventStream :=
  Stream'.cons (.item 0 (.ok (.newStatements [[3]] (some 1)))) (Stream'.const .silent)

theorem query_reports_dump_examples :
    (∃ r w', queryEndpoint expiryByte 2 "ws://a" 0 ⟨none, 15000⟩
        (steadyWorld (.ok twoEventStream) (.ok .new)) = some (r, w') ∧
      DumpReported expiryByte [[3], [], [1], [3]] r) ∧
    (∃ w', queryEndpoint expiryByte 2 "ws://a" 0 ⟨none, 15000⟩
        (steadyWorld (.ok halfStream) (.ok .new)) =
      some (failedReport "ws://a" "Initial dump timed out after 15s", w')) ∧
    ∃ w', queryEndpoint expiryByte 0 "ws://a" 0 ⟨none, 15000⟩
        (steadyWorld (.error "refused") (.ok .new)) =
      some (failedReport "ws://a" "refused", w') := by
  have hends : DumpEndsAt 15000000000 twoEventStream 1 := by
    refine ⟨fun i hi => ?_, .newStatements [[1], [3]] (some 0), rfl, rfl⟩
    obtain rfl : i = 0 := by omega
    exact ⟨.newStatements [[3], []] (some 1), rfl, rfl⟩
  have hbreaks : DumpBreaksAt 15000000000 halfStream 1 "Initial dump timed out after 15s" := by
    refine ⟨fun i hi => ?_, Or.inl ⟨rfl, by decide⟩⟩
    obtain rfl : i = 0 := by omega
    exact ⟨.newStatements [[3]] (some 1), rfl, rfl⟩
  refine ⟨?_, ?_, ?_⟩
  · obtain ⟨dump, r, w', -, -, hquery, -, hreported⟩ :=
      ((query_reports_dump expiryByte "ws://a" 0 ⟨none, 15000⟩
        (steadyWorld (.ok twoEventStream) (.ok .new))).2 _ rfl).1 1 2 hends (by decide)
    exact ⟨r, w', hquery, hreported⟩
  · exact ((query_reports_dump expiryByte "ws://a" 0 ⟨none, 15000⟩
      (steadyWorld (.ok halfStream) (.ok .new))).2 _ rfl).2.1 1 _ 2 hbreaks (by decide)
  · exact (query_reports_dump expiryByte "ws://a" 0 ⟨none, 15000⟩
      (steadyWorld (.error "refused") (.ok .new))).1 "refused" 0 rfl

end StatementStore
