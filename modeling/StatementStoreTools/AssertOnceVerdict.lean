import StatementStoreTools.OpsCommands

/-!
# What `subscribe --assert-once` asserts

`ReadPasses` says in terms of the stream alone what the command is meant to
check: the initial dump completes, and up to the first silence or close after
it exactly one statement has been delivered.  The verdict goes through two
stream loops, the counters of an endpoint, its summary line and the list of
failed endpoints; they all agree:

* `runAssertOnceRead_spec` — one read;
* `runReads_judged` — the reads of an endpoint;
* `runSubscribe_judged` — all endpoints;
* `subscribeCmd_assertOnce` — the exit of the command;
* `assertOnce_late_copy` — a copy that comes with the deadline still counts.
-/

namespace StatementStore

open TimedStreams Loops

/-- The subscription opens, its dump ends at poll `b`, the events after it stop
at poll `last`, and exactly one statement has come. -/
def ReadPasses (window : Duration) (answer : Except String EventStream) : Prop :=
  ∃ stream b last, answer = .ok stream ∧ DumpEndsAt window stream b ∧
    WatchEndsAt window stream (b + 1) last ∧ (payloads stream last).length = 1

/-- A watch from poll `first` on is a watch of what is left there. -/
theorem watchEndsAt_drop {window : Duration} {s : EventStream} {first n : Nat} :
    WatchEndsAt window (s.drop first) 0 n ↔ WatchEndsAt window s first (first + n) := by
  constructor
  · intro hgiven
    obtain ⟨-, hall, hend⟩ := hgiven
    refine ⟨Nat.le_add_right _ _, fun i hi hlt => ?_, ?_⟩
    · obtain ⟨ev, hev⟩ := hall (i - first) (Nat.zero_le _) (by omega)
      refine ⟨ev, ?_⟩
      rw [DeliversAt, Stream'.get_drop] at hev
      rwa [show first + (i - first) = i by omega] at hev
    · rwa [Stream'.get_drop] at hend
  · intro hgiven
    obtain ⟨-, hall, hend⟩ := hgiven
    refine ⟨Nat.zero_le _, fun i _ hlt => ?_, ?_⟩
    · obtain ⟨ev, hev⟩ := hall (first + i) (Nat.le_add_right _ _) (by omega)
      refine ⟨ev, ?_⟩
      rw [DeliversAt, Stream'.get_drop]
      exact hev
    · rw [Stream'.get_drop]
      exact hend

/-- A dump that fails leaves nothing to pass. -/
theorem not_readPasses_of_dump {fuel : Nat} {window : Duration} {stream : EventStream}
    {dump : Reading (Except String StatementEvent) (Except String (List Bytes))} {e : String}
    (hdump : collectInitialDump fuel window stream = some dump)
    (herror : dump.result = .error e) : ¬ ReadPasses window (.ok stream) := by
  intro hgiven
  obtain ⟨stream', b, last, hopen, hend, -⟩ := hgiven
  obtain rfl := Except.ok.inj hopen
  obtain ⟨fuel', out, hrun, hok, -⟩ := collectInitialDump_of_boundary hend
  obtain rfl := Reader.read_unique hrun hdump
  rw [hok] at herror
  cases herror

/-- After the boundary the idle watch decides, together with the dump. -/
theorem readPasses_iff_of_watch {fuel b : Nat} {window : Duration} {stream : EventStream}
    {watch : Reading (Except String StatementEvent) (Except String (List Bytes))}
    (hend : DumpEndsAt window stream b)
    (hwatch : collectUntilIdle fuel window (stream.drop (b + 1)) = some watch) :
    ReadPasses window (.ok stream) ↔
      ∃ extra, watch.result = .ok extra ∧ (payloads stream (b + 1) ++ extra).length = 1 := by
  constructor
  · intro hgiven
    obtain ⟨stream', b', last, hopen, hend', hidle, hone⟩ := hgiven
    obtain rfl := Except.ok.inj hopen
    obtain rfl := hend.unique hend'
    obtain ⟨n, rfl⟩ := Nat.exists_eq_add_of_le hidle.1
    obtain ⟨fuel', out, hrun, hok⟩ := collectUntilIdle_of_watch (watchEndsAt_drop.mpr hidle)
    obtain rfl := Reader.read_unique hrun hwatch
    exact ⟨_, hok, by rwa [← payloads_drop]⟩
  · intro hgiven
    obtain ⟨extra, hok, hone⟩ := hgiven
    obtain ⟨n, hidle, rfl⟩ := collectUntilIdle_ok hwatch hok
    exact ⟨stream, b, b + 1 + n, rfl, hend, watchEndsAt_drop.mp hidle, by rwa [payloads_drop]⟩

section Read

variable {fuel : Nat} {rpc : Handle} {topic : Bytes32} {config : SubscribeConfig}
  {w w' : World}

/-- What a read does to the world: one subscription on its own connection. -/
structure ReadOnce (rpc : Handle) (before after : World) : Prop where
  submits : submitted after.calls = submitted before.calls
  log : after.log = before.log
  others : ∀ h, h ≠ rpc → after.conns h = before.conns h
  own : (after.conns rpc).subscriptions = (before.conns rpc).subscriptions.tail

theorem subscribeTopic_readOnce (rpc : Handle) (filter : TopicFilter) (w : World) :
    ReadOnce rpc w (subscribeTopic rpc filter w).2 where
  submits := by simp
  log := rfl
  others h hne := by simp [subscribeTopic, hne]
  own := by simp [subscribeTopic]

/-- **One read.**  It succeeds exactly on the streams that pass. -/
theorem runAssertOnceRead_spec {outcome : Except String Unit} {elapsed : Duration}
    (h : runAssertOnceRead fuel rpc topic config w = some ((outcome, elapsed), w')) :
    ReadOnce rpc w w' ∧
      (outcome = .ok () ↔ ReadPasses (Duration.fromMillis config.drainTimeoutMs)
        (w.conns rpc).subscriptions.head.2) := by
  simp only [runAssertOnceRead, singleTopicFilter_ok] at h
  have hread := subscribeTopic_readOnce rpc (.matchAll ⟨[topic], by simp⟩) w
  have hfirst : (w.conns rpc).subscriptions.head.2 =
      (subscribeTopic rpc (.matchAll ⟨[topic], by simp⟩) w).1 := rfl
  rcases hsub : subscribeTopic rpc (.matchAll ⟨[topic], by simp⟩) w with ⟨answer, w₁⟩
  rw [hsub] at hread hfirst
  rw [hfirst]
  simp only [hsub] at h
  cases answer with
  | error e =>
      obtain ⟨hout, rfl⟩ := Prod.mk.inj (Option.some.inj h)
      obtain ⟨rfl, -⟩ := Prod.mk.inj hout
      exact ⟨hread, by simp [ReadPasses]⟩
  | ok stream =>
      obtain ⟨dump, hdump, h⟩ := Option.bind_eq_some_iff.mp h
      cases hresult : dump.result with
      | error e =>
          simp only [hresult] at h
          obtain ⟨hout, rfl⟩ := Prod.mk.inj (Option.some.inj h)
          obtain ⟨rfl, -⟩ := Prod.mk.inj hout
          have hnot := not_readPasses_of_dump hdump hresult
          exact ⟨⟨hread.submits, hread.log, hread.others, hread.own⟩, by simp [hnot]⟩
      | ok received =>
          obtain ⟨b, hend, rfl, hrest⟩ := collectInitialDump_ok hdump hresult
          simp only [hresult, hrest] at h
          obtain ⟨watch, hwatch, h⟩ := Option.map_eq_some_iff.mp h
          have hiff := readPasses_iff_of_watch hend hwatch
          cases hseen : watch.result with
          | error e =>
              simp only [hseen] at h
              obtain ⟨hout, rfl⟩ := Prod.mk.inj h
              obtain ⟨rfl, -⟩ := Prod.mk.inj hout
              exact ⟨⟨hread.submits, hread.log, hread.others, hread.own⟩,
                by simp [hiff, hseen]⟩
          | ok extra =>
              simp only [hseen] at h
              obtain ⟨hout, rfl⟩ := Prod.mk.inj h
              obtain ⟨rfl, -⟩ := Prod.mk.inj hout
              refine ⟨⟨hread.submits, hread.log, hread.others, hread.own⟩, ?_⟩
              rw [assertExactlyOnce_ok, hiff, hseen]
              simp

/-- What the counters of an endpoint's reads say after `n` of them. -/
structure Tallied (window : Duration) (rpc : Handle) (before : World) (n : Nat)
    (tally : ReadTally) (after : World) : Prop where
  samples : tally.durationsSecs.length = n
  counted : tally.successes.toNat + tally.failures.toNat = n
  clean : tally.failures = 0 ↔
    ∀ k < n, ReadPasses window ((before.conns rpc).subscriptions.get k).2
  submits : submitted after.calls = submitted before.calls
  log : after.log = before.log
  others : ∀ h, h ≠ rpc → after.conns h = before.conns h
  own : (after.conns rpc).subscriptions = (before.conns rpc).subscriptions.drop n

/-- Counting one more read. -/
theorem Tallied.record {window : Duration} {n : Nat} {tally : ReadTally} {v v' : World}
    {outcome : Except String Unit} (h : Tallied window rpc w n tally v) (hn : n < 2 ^ 32 - 1)
    (hread : ReadOnce rpc v v')
    (hout : outcome = .ok () ↔ ReadPasses window (v.conns rpc).subscriptions.head.2)
    (elapsed : Duration) :
    Tallied window rpc w (n + 1) (tally.record outcome elapsed) v' := by
  have hhead : (v.conns rpc).subscriptions.head = (w.conns rpc).subscriptions.get n := by
    rw [h.own, Stream'.head_drop]
  rw [hhead] at hout
  have hcounted := h.counted
  have hsplit : (∀ k < n + 1, ReadPasses window ((w.conns rpc).subscriptions.get k).2) ↔
      tally.failures = 0 ∧ outcome = .ok () := by
    rw [h.clean, hout]
    constructor
    · exact fun hall => ⟨fun k hk => hall k (by omega), hall n (by omega)⟩
    · intro hgiven k hk
      obtain ⟨hall, hlast⟩ := hgiven
      rcases Nat.lt_succ_iff_lt_or_eq.mp hk with hk | rfl
      · exact hall k hk
      · exact hlast
  refine ⟨?_, ?_, ?_, hread.submits.trans h.submits, hread.log.trans h.log,
    fun c hc => (hread.others c hc).trans (h.others c hc), ?_⟩
  · cases outcome <;> simp [ReadTally.record, h.samples]
  · cases outcome with
    | ok u =>
        have hadd : (tally.successes + 1).toNat = tally.successes.toNat + 1 := toNat_add_one (by omega)
        simp only [ReadTally.record, hadd]
        omega
    | error e =>
        have hadd : (tally.failures + 1).toNat = tally.failures.toNat + 1 := toNat_add_one (by omega)
        simp only [ReadTally.record, hadd]
        omega
  · rw [hsplit]
    cases outcome with
    | ok u => simp [ReadTally.record]
    | error e =>
        have hne : tally.failures + 1 ≠ 0 := by
          intro hzero
          have hadd : (tally.failures + 1).toNat = tally.failures.toNat + 1 :=
            toNat_add_one (by omega)
          rw [hzero] at hadd
          cases hadd
        simp [ReadTally.record, hne]
  · rw [hread.own, h.own, Stream'.tail_drop']

/-- **The reads of an endpoint.** -/
theorem runReads_judged (hassert : config.assertOnce = true) {tally : ReadTally}
    (h : runReads fuel rpc topic config w = some (tally, w')) :
    Tallied (Duration.fromMillis config.drainTimeoutMs) rpc w config.readsPerNode.toNat
      tally w' := by
  have hmax := config.readsPerNode.toNat_lt
  have hrule := foldlM_rule
    (fun done (state : ReadTally × World) =>
      Tallied (Duration.fromMillis config.drainTimeoutMs) rpc w done.length state.1 state.2)
    ?turn ?start h
  · simpa using hrule
  case start =>
    exact ⟨rfl, rfl, by simp [ReadTally.zero], rfl, rfl, fun _ _ => rfl, rfl⟩
  case turn =>
    intro done x rest state state' hsplit hinv hturn
    obtain ⟨tally, v⟩ := state
    obtain ⟨tally', v'⟩ := state'
    have hlen := congrArg List.length hsplit
    simp only [List.length_range, List.length_append, List.length_cons] at hlen
    obtain ⟨⟨⟨outcome, elapsed⟩, v''⟩, hread, heq⟩ := Option.map_eq_some_iff.mp hturn
    obtain ⟨rfl, rfl⟩ := Prod.mk.inj heq
    rw [runRead, if_pos hassert] at hread
    obtain ⟨honce, hout⟩ := runAssertOnceRead_spec hread
    rw [List.length_append, List.length_singleton]
    exact hinv.record (by omega) honce hout elapsed

end Read

section Endpoints

variable {env : OpsEnv} {fuel : Nat} {config : SubscribeConfig} {w w' : World}

/-- The line says PASS: right after the counters, before any error text. -/
def SaysPass (r : SubscribeEndpointReport) : Prop :=
  ∃ s more, r.stats = some s ∧
    subscribeReportLine "" r =
      subscribeReportHead "" r s ++ (" assert_once=PASS" ++ more) ++ errSuffix r.firstError

/-- What the report of an endpoint says about the reads of its connection. -/
structure Judged (config : SubscribeConfig) (rpc : Handle) (before : World)
    (r : SubscribeEndpointReport) : Prop where
  sampled : ∃ s, r.stats = some s
  mode : r.assertOnce = true
  counted : r.successes.toNat + r.failures.toNat = config.readsPerNode.toNat
  clean : r.failures = 0 ↔ ∀ k < config.readsPerNode.toNat,
    ReadPasses (Duration.fromMillis config.drainTimeoutMs)
      ((before.conns rpc).subscriptions.get k).2

/-- With a failure the suffix is not one that says PASS. -/
theorem assertOnceSuffix_of_failed {r : SubscribeEndpointReport} (hmode : r.assertOnce = true)
    (hfail : r.failures ≠ 0) (more : String) :
    assertOnceSuffix r ≠ " assert_once=PASS" ++ more := by
  have htext : assertOnceSuffix r =
      " assert_once=FAIL: statement not received exactly once" := by
    simp [assertOnceSuffix, hmode, hfail]
  intro hsuffix
  rw [htext] at hsuffix
  have hlists := congrArg String.toList hsuffix
  rw [String.toList_append] at hlists
  simp at hlists

/-- Without one it is, however many reads there are. -/
theorem assertOnceSuffix_of_clean {r : SubscribeEndpointReport} (hmode : r.assertOnce = true)
    (hzero : r.failures = 0) (hpos : 0 < r.successes.toNat) :
    ∃ more, assertOnceSuffix r = " assert_once=PASS" ++ more := by
  by_cases hone : r.successes = 1
  · refine ⟨": received the statement exactly once", ?_⟩
    simp [assertOnceSuffix, hmode, hzero, hone]
  · have hne : r.successes.toNat ≠ 1 := fun heq => hone (UInt32.toNat_inj.mp (by simpa using heq))
    have hmore : 1 < r.successes := by
      rw [UInt32.lt_iff_toNat_lt]
      simp
      omega
    refine ⟨": received the statement exactly once on each of " ++
      s!"{r.successes.toNat} reads", ?_⟩
    rw [← String.append_assoc]
    simp only [assertOnceSuffix, hmode, hzero, hone, hmore, Bool.not_true,
      Bool.false_eq_true, and_false, and_self, if_false, if_true]
    rfl

/-- **The suffix follows the counters.** -/
theorem Judged.saysPass_iff {rpc : Handle} {r : SubscribeEndpointReport}
    (h : Judged config rpc w r) (hreads : 0 < config.readsPerNode) :
    SaysPass r ↔ r.failures = 0 := by
  obtain ⟨s, hs⟩ := h.sampled
  have hline : subscribeReportLine "" r =
      subscribeReportHead "" r s ++ assertOnceSuffix r ++ errSuffix r.firstError := by
    simp [subscribeReportLine, hs]
  constructor
  · intro hgiven
    obtain ⟨s', more, hs', hpass⟩ := hgiven
    obtain rfl := Option.some.inj (hs.symm.trans hs')
    have hsuffix : assertOnceSuffix r = " assert_once=PASS" ++ more := by
      rw [hline] at hpass
      exact (String.append_right_inj _).mp ((String.append_left_inj _).mp hpass)
    by_contra hfail
    exact assertOnceSuffix_of_failed h.mode hfail more hsuffix
  · intro hzero
    have hpos : 0 < r.successes.toNat := by
      have hcounted := h.counted
      have hsome := UInt32.lt_iff_toNat_lt.mp hreads
      rw [hzero] at hcounted
      simp at hcounted hsome
      omega
    obtain ⟨more, hsuffix⟩ := assertOnceSuffix_of_clean h.mode hzero hpos
    refine ⟨s, more, hs, ?_⟩
    rw [hline, hsuffix]

/-- Under a pinned topic nothing is seeded. -/
theorem ensureSeed_pinned (hpinned : config.topicOverride.isSome = true) (rpc : Handle)
    (topic channel : Bytes32) (expiryTs : UInt32) :
    ensureSeed env rpc topic channel expiryTs config w = (.ok .notSeeded, w) := by
  simp [ensureSeed, hpinned]

/-- **One endpoint.** -/
theorem runSubscribeOnEndpoint_judged (hvalid : config.validate = .ok ())
    (hassert : config.assertOnce = true) {endpoint : String} {rpc : Handle}
    {endpointIdx : UInt32} {r : SubscribeEndpointReport}
    (h : runSubscribeOnEndpoint env fuel endpoint rpc config endpointIdx w = some (r, w')) :
    r.endpoint = endpoint ∧ Judged config rpc w r ∧
      submitted w'.calls = submitted w.calls ∧ w.log <+: w'.log ∧
      ∀ c, c ≠ rpc → w'.conns c = w.conns c := by
  obtain ⟨hreads, -, -, -, htopic⟩ := SubscribeConfig.validate_ok.mp hvalid
  simp only [runSubscribeOnEndpoint, ensureSeed_pinned (htopic hassert)] at h
  obtain ⟨⟨tally, v⟩, hrun, heq⟩ := Option.map_eq_some_iff.mp h
  obtain ⟨rfl, rfl⟩ := Prod.mk.inj heq
  have htally := runReads_judged hassert hrun
  have hsampled : ∃ s, calcStats tally.durationsSecs = some s := by
    refine Option.isSome_iff_exists.mp (calcStats_isSome.mpr fun hnil => ?_)
    have hlen := htally.samples
    rw [hnil] at hlen
    have := UInt32.lt_iff_toNat_lt.mp hreads
    simp at hlen this
    omega
  refine ⟨rfl, ⟨hsampled, hassert, htally.counted, htally.clean⟩, htally.submits, ?_,
    htally.others⟩
  exact ⟨_, htally.log.symm⟩

/-- What the run over a list of endpoints has reported and done. -/
structure JudgedAll (config : SubscribeConfig) (before : World)
    (endpoints : List (String × Handle)) (reports : List SubscribeEndpointReport)
    (after : World) : Prop where
  names : reports.map (·.endpoint) = endpoints.map (·.1)
  judged : ∀ (i : Nat) (entry : String × Handle) (r : SubscribeEndpointReport),
    endpoints[i]? = some entry → reports[i]? = some r → Judged config entry.2 before r
  submits : submitted after.calls = submitted before.calls
  logged : ∀ r ∈ reports, subscribeReportLine "" r ∈ after.log
  others : ∀ c, c ∉ endpoints.map (·.2) → after.conns c = before.conns c

/-- The next endpoint is judged by what its own connection does. -/
theorem JudgedAll.snoc {endpoints : List (String × Handle)}
    {reports : List SubscribeEndpointReport} {v v' : World} {entry : String × Handle}
    {r : SubscribeEndpointReport} (h : JudgedAll config w endpoints reports v)
    (hfresh : entry.2 ∉ endpoints.map (·.2)) (hname : r.endpoint = entry.1)
    (hjudged : Judged config entry.2 v r) (hcalls : submitted v'.calls = submitted v.calls)
    (hlog : v.log <+: v'.log) (hline : subscribeReportLine "" r ∈ v'.log)
    (hothers : ∀ c, c ≠ entry.2 → v'.conns c = v.conns c) :
    JudgedAll config w (endpoints ++ [entry]) (reports ++ [r]) v' := by
  have hlen : reports.length = endpoints.length := by
    simpa using congrArg List.length h.names
  refine ⟨by simp [h.names, hname], ?_, hcalls.trans h.submits, ?_, ?_⟩
  · apply paired_snoc hlen h.judged
    refine ⟨hjudged.sampled, hjudged.mode, hjudged.counted, ?_⟩
    rw [hjudged.clean, h.others _ hfresh]
  · intro r' hr'
    rcases List.mem_append.mp hr' with hold | hnew
    · exact hlog.subset (h.logged r' hold)
    · rwa [List.mem_singleton.mp hnew]
  · intro c hc
    simp only [List.map_append, List.map_cons, List.map_nil, List.mem_append,
      List.mem_singleton, not_or] at hc
    exact (hothers c hc.2).trans (h.others c hc.1)

/-- **All endpoints.** -/
theorem runSubscribe_judged (hvalid : config.validate = .ok ())
    (hassert : config.assertOnce = true) {endpoints : List (String × Handle)}
    (hnodup : (endpoints.map (·.2)).Nodup)
    {out : Except String (List SubscribeEndpointReport)}
    (h : runSubscribe env fuel endpoints config "" w = some (out, w')) :
    ∃ reports, out = .ok reports ∧ JudgedAll config w endpoints reports w' := by
  simp only [runSubscribe, hvalid] at h
  obtain ⟨⟨reports, v⟩, hfold, heq⟩ := Option.map_eq_some_iff.mp h
  obtain ⟨rfl, rfl⟩ := Prod.mk.inj heq
  refine ⟨reports, rfl, ?_⟩
  have hrule := foldlM_rule
    (fun done (state : List SubscribeEndpointReport × World) =>
      JudgedAll config w (done.map (·.1)) state.1 state.2)
    ?turn ?start hfold
  · simpa using hrule
  case start =>
    exact ⟨rfl, by simp, rfl, by simp, fun _ _ => rfl⟩
  case turn =>
    intro done entry rest state state' hsplit hinv hturn
    obtain ⟨reports, v⟩ := state
    obtain ⟨reports', v'⟩ := state'
    obtain ⟨⟨r, v₁⟩, hone, heq⟩ := Option.map_eq_some_iff.mp hturn
    obtain ⟨rfl, rfl⟩ := Prod.mk.inj heq
    obtain ⟨hname, hjudged, hcalls, hlog, hothers⟩ :=
      runSubscribeOnEndpoint_judged hvalid hassert hone
    have hall : endpoints = done.map (·.1) ++ entry.1 :: rest.map (·.1) := by
      simpa using congrArg (List.map (·.1)) hsplit
    have hfresh : entry.1.2 ∉ (done.map (·.1)).map (·.2) := not_mem_visited hnodup hall
    rw [List.map_append]
    exact hinv.snoc hfresh hname hjudged hcalls (hlog.trans (List.prefix_append _ _))
      (by simp) hothers

end Endpoints

/-- The reads of endpoint `i` as its connection will answer them. -/
def EndpointPasses (config : SubscribeConfig) (w : World) (i : Nat) : Prop :=
  (w.dials.get i).2 = .ok () ∧ ∀ k < config.readsPerNode.toNat,
    ReadPasses (Duration.fromMillis config.drainTimeoutMs)
      ((w.conns (w.opened + i)).subscriptions.get k).2

/-- What the command reports when all its connections open. -/
structure VerdictAgrees (urls : List String) (config : SubscribeConfig) (w w' : World)
    (res : Except String Unit) (reports : List SubscribeEndpointReport) : Prop where
  names : reports.map (·.endpoint) = urls
  verdict : res = subscribeVerdict config reports
  logged : ∀ r ∈ reports, subscribeReportLine "" r ∈ w'.log
  listed : ∀ (i : Nat) (r : SubscribeEndpointReport), reports[i]? = some r →
    (r ∈ failedReports reports ↔ ¬ EndpointPasses config w i)
  summary : ∀ r ∈ reports, SaysPass r ↔ r ∉ failedReports reports

theorem subscribeVerdict_ok {config : SubscribeConfig} (hassert : config.assertOnce = true)
    {reports : List SubscribeEndpointReport} :
    subscribeVerdict config reports = .ok () ↔ failedReports reports = [] := by
  by_cases hnone : failedReports reports = []
  · simp [subscribeVerdict, hassert, hnone]
  · simp [subscribeVerdict, hassert, hnone]

theorem mem_failedReports {reports : List SubscribeEndpointReport} {r : SubscribeEndpointReport} :
    r ∈ failedReports reports ↔ r ∈ reports ∧ r.failures ≠ 0 := by
  simp [failedReports, UInt32.pos_iff_ne_zero]

section Command

variable {crates : Crates} {clock : Clock} {keypair : Keypair} {fuel : Nat} {urls : List String}
  {config : SubscribeConfig} {w w' : World} {res : Except String Unit}

/-- The report of endpoint `i` is about connection `opened + i`. -/
theorem JudgedAll.connected {endpoints : List (String × Handle)} {w₁ : World} {line : String}
    {reports : List SubscribeEndpointReport} (hconn : Connected urls w w₁ endpoints)
    (hall : JudgedAll config (w₁.logLine line) endpoints reports w') :
    reports.length = urls.length ∧ ∀ (i : Nat) (r : SubscribeEndpointReport),
      reports[i]? = some r → Judged config (w.opened + i) w r := by
  have hlen : reports.length = urls.length := by
    have := congrArg List.length hall.names
    rw [List.length_map, List.length_map, hconn.length] at this
    exact this
  refine ⟨hlen, fun i r hr => ?_⟩
  obtain ⟨entry, hentry, hhandle⟩ :=
    hconn.entry (hlen ▸ (List.getElem?_eq_some_iff.mp hr).1)
  have hj := hall.judged i entry r hentry hr
  rw [hhandle] at hj
  exact ⟨hj.sampled, hj.mode, hj.counted, by rw [hj.clean, logLine_conns, hconn.conns]⟩

/-- No report is listed as failed just if every endpoint passes. -/
theorem failedReports_eq_nil_iff {reports : List SubscribeEndpointReport}
    (hlen : reports.length = urls.length)
    (hpass : ∀ (i : Nat) (r : SubscribeEndpointReport), reports[i]? = some r →
      (r.failures = 0 ↔ EndpointPasses config w i)) :
    failedReports reports = [] ↔ ∀ i < urls.length, EndpointPasses config w i := by
  constructor
  · intro hnone i hi
    have hr : reports[i]? = some (reports.get ⟨i, hlen.symm ▸ hi⟩) := List.getElem?_eq_getElem _
    apply (hpass i _ hr).mp
    by_contra hne
    have hmem := mem_failedReports.mpr ⟨List.mem_of_getElem? hr, hne⟩
    rw [hnone] at hmem
    exact absurd hmem List.not_mem_nil
  · intro hevery
    refine List.eq_nil_iff_forall_not_mem.mpr fun r hr => ?_
    obtain ⟨hmem, hne⟩ := mem_failedReports.mp hr
    obtain ⟨i, hi⟩ := List.getElem?_of_mem hmem
    have hlt := (List.getElem?_eq_some_iff.mp hi).1
    exact hne ((hpass i r hi).mpr (hevery i (hlen ▸ hlt)))

/-- All connections open. -/
theorem subscribeCmd_opened (hne : urls ≠ []) (hvalid : config.validate = .ok ())
    (hassert : config.assertOnce = true) (hopen : ∀ i < urls.length, (w.dials.get i).2 = .ok ())
    (h : runSubscribeCmd crates clock (.ok keypair) fuel urls config w = some (res, w')) :
    (res = .ok () ↔ ∀ i < urls.length, EndpointPasses config w i) ∧
    submitted w'.calls = submitted w.calls ∧
    ∃ reports, VerdictAgrees urls config w w' res reports := by
  obtain ⟨endpoints, w₁, hconnect, hconn⟩ := connectAll_ok hne hopen
  simp only [runSubscribeCmd, hconnect] at h
  obtain ⟨⟨out, v⟩, hrun, heq⟩ := Option.map_eq_some_iff.mp h
  obtain ⟨reports, rfl, hall⟩ := runSubscribe_judged hvalid hassert hconn.nodup hrun
  obtain ⟨rfl, rfl⟩ := Prod.mk.inj heq
  obtain ⟨hlen, hjudged⟩ := JudgedAll.connected hconn hall
  have hreads := (SubscribeConfig.validate_ok.mp hvalid).1
  have hpass : ∀ (i : Nat) (r : SubscribeEndpointReport), reports[i]? = some r →
      (r.failures = 0 ↔ EndpointPasses config w i) := by
    intro i r hr
    have hi : i < urls.length := hlen ▸ (List.getElem?_eq_some_iff.mp hr).1
    rw [(hjudged i r hr).clean]
    exact ⟨fun hall => ⟨hopen i hi, hall⟩, fun hall => hall.2⟩
  refine ⟨?_, ?_, reports, ?_, rfl, hall.logged, ?_, ?_⟩
  · rw [subscribeVerdict_ok hassert]
    exact failedReports_eq_nil_iff hlen hpass
  · rw [hall.submits, logLine_calls, hconn.calls]
  · rw [hall.names, hconn.names]
  · intro i r hr
    rw [mem_failedReports, and_iff_right (List.mem_of_getElem? hr), Ne, hpass i r hr]
  · intro r hr
    obtain ⟨i, hi⟩ := List.getElem?_of_mem hr
    rw [(hjudged i r hi).saysPass_iff hreads, mem_failedReports, and_iff_right hr, not_not]

/-- A connection does not open. -/
theorem subscribeCmd_refused (hne : urls ≠ [])
    (hfails : ∃ i < urls.length, (w.dials.get i).2 ≠ .ok ())
    (h : runSubscribeCmd crates clock (.ok keypair) fuel urls config w = some (res, w')) :
    res ≠ .ok () ∧ submitted w'.calls = submitted w.calls := by
  obtain ⟨e, w₁, hconnect, -, hcalls⟩ := connectAll_error hne hfails
  simp only [runSubscribeCmd, hconnect] at h
  obtain ⟨rfl, rfl⟩ := Prod.mk.inj (Option.some.inj h)
  refine ⟨fun hok => ?_, congrArg submitted hcalls⟩
  cases hok

end Command

/-- **The verdict of `--assert-once`.**  The command succeeds exactly when every
connection opens and every read passes; nothing is submitted; and the summary
lines say PASS exactly for the endpoints that are not listed as failed. -/
theorem subscribeCmd_assertOnce {crates : Crates} {clock : Clock} {keypair : Keypair}
    {fuel : Nat} {urls : List String} {config : SubscribeConfig} {w w' : World}
    {res : Except String Unit} (hne : urls ≠ []) (hvalid : config.validate = .ok ())
    (hassert : config.assertOnce = true)
    (h : runSubscribeCmd crates clock (.ok keypair) fuel urls config w = some (res, w')) :
    (res = .ok () ↔ ∀ i < urls.length, EndpointPasses config w i) ∧
    submitted w'.calls = submitted w.calls ∧
    ((∀ i < urls.length, (w.dials.get i).2 = .ok ()) →
      ∃ reports, VerdictAgrees urls config w w' res reports) := by
  by_cases hopen : ∀ i < urls.length, (w.dials.get i).2 = .ok ()
  · obtain ⟨hok, hcalls, hreports⟩ := subscribeCmd_opened hne hvalid hassert hopen h
    exact ⟨hok, hcalls, fun _ => hreports⟩
  · have hfails : ∃ i < urls.length, (w.dials.get i).2 ≠ .ok () := by
      simpa using hopen
    obtain ⟨hres, hcalls⟩ := subscribeCmd_refused hne hfails h
    refine ⟨iff_of_false hres fun hevery => ?_, hcalls, fun hall => absurd hall hopen⟩
    exact hopen fun i hi => (hevery i hi).1

/-- Two reads for each endpoint, half a second of silence ends a watch. -/
def twoReads : SubscribeConfig where
  readsPerNode := 2
  messageSize := 512
  baseExpirySecs := 600
  runId := 7
  settleMs := 0
  drainTimeoutMs := 500
  topicOverride := some (Vector.replicate 32 1)
  assertOnce := true

/-- One statement in the initial dump, an empty live event, then nothing. -/
def deliveredOnce : EventStream :=
  Stream'.cons (.item 0 (.ok (.newStatements [[1, 2, 3]] (some 0))))
    (Stream'.cons (.item 499999999 (.ok (.newStatements [] none))) (Stream'.const .silent))

theorem subscribeCmd_assertOnce_twoReads :
    ∃ w', runSubscribeCmd ⟨fun _ => Vector.replicate 32 0, fun _ => [], fun _ => none,
          fun _ => Vector.replicate 32 0⟩ id (.ok ⟨Vector.replicate 32 0⟩) 3
        ["ws://a", "ws://b"] twoReads (steadyWorld (.ok deliveredOnce) (.ok .new)) =
          some (.ok (), w') ∧
      submitted w'.calls = [] ∧
      ∀ i < 2, EndpointPasses twoReads (steadyWorld (.ok deliveredOnce) (.ok .new)) i := by
  obtain ⟨w', hrun⟩ : ∃ w', runSubscribeCmd ⟨fun _ => Vector.replicate 32 0, fun _ => [],
        fun _ => none, fun _ => Vector.replicate 32 0⟩ id (.ok ⟨Vector.replicate 32 0⟩) 3
      ["ws://a", "ws://b"] twoReads (steadyWorld (.ok deliveredOnce) (.ok .new)) =
        some (.ok (), w') := ⟨_, rfl⟩
  obtain ⟨hres, hsubmits, -⟩ := subscribeCmd_assertOnce (by simp) rfl rfl hrun
  exact ⟨w', hrun, hsubmits, hres.mp rfl⟩

/-! ## A copy with the deadline -/

/-- The watch as it would be if a gap of a whole window ended it. -/
def PausesAt (window : Duration) (s : EventStream) (first last : Nat) : Prop :=
  first ≤ last ∧
    (∀ i, first ≤ i → i < last → ∃ gap ev, s.get i = .item gap (.ok ev) ∧ gap < window) ∧
    ∀ gap x, s.get last = .item gap x → window ≤ gap

/-- A read that passes if such a watch decides. -/
def PassesBeforePause (window : Duration) (answer : Except String EventStream) : Prop :=
  ∃ stream b last, answer = .ok stream ∧ DumpEndsAt window stream b ∧
    PausesAt window stream (b + 1) last ∧ (payloads stream last).length = 1

/-- One statement in the initial dump, and the same again half a second later. -/
def lateCopy : EventStream :=
  Stream'.cons (.item 0 (.ok (.newStatements [[1, 2, 3]] (some 0))))
    (Stream'.cons (.item 500000000 (.ok (.newStatements [[1, 2, 3]] none)))
      (Stream'.const .silent))

theorem lateCopy_passesBeforePause : PassesBeforePause (Duration.fromMillis 500) (.ok lateCopy) := by
  refine ⟨lateCopy, 0, 1, rfl, ?_, ⟨Nat.le_refl 1, ?_, ?_⟩, rfl⟩
  · exact ⟨fun i hi => absurd hi (Nat.not_lt_zero i), .newStatements [[1, 2, 3]] (some 0), rfl, rfl⟩
  · exact fun i hfirst hlast => absurd hfirst (Nat.not_le.mpr hlast)
  · intro gap x hitem
    obtain ⟨rfl, -⟩ := Poll.item.inj hitem
    decide

/-- **A gap of exactly the window does not end the watch.**  The copy comes with
the deadline, it is counted, and the command fails. -/
theorem assertOnce_late_copy :
    twoReads.validate = .ok () ∧
    (∃ e w', runSubscribeCmd plainCrates id (.ok ⟨Vector.replicate 32 0⟩) 3 ["ws://a"] twoReads
        (steadyWorld (.ok lateCopy) (.ok .new)) = some (.error e, w')) ∧
    ((steadyWorld (.ok lateCopy) (.ok .new)).dials.get 0).2 = .ok () ∧
    ∀ k, PassesBeforePause (Duration.fromMillis twoReads.drainTimeoutMs)
      (((steadyWorld (.ok lateCopy) (.ok .new)).conns 0).subscriptions.get k).2 :=
  ⟨rfl, ⟨_, _, rfl⟩, rfl, fun _ => lateCopy_passesBeforePause⟩

end StatementStore
