import StatementStoreTools.OpsCommands

/-!
# One failing endpoint among many

The `query` command is meant to log an endpoint that fails and to go on with
the others; only when all of them fail it exits with an error.  This holds as
soon as every connection opens (`runQuery_reported`).  Opening the connections
comes first, for all endpoints, and is not isolated: one connection that does
not open ends the command.  `query_isolated_iff` makes this exact.
-/

namespace StatementStore

open TimedStreams Loops

/-- Endpoint `i` fails: its connection does not open, or the dump of its
subscription does not complete.  The connections that open are numbered in
order. -/
def EndpointFails (config : QueryConfig) (w : World) (i : Nat) : Prop :=
  (w.dials.get i).2 ≠ .ok () ∨
    ¬ ∃ stream b, DumpCompletes (Duration.fromMillis config.drainTimeoutMs) w
      (w.opened + (List.range i).countP fun j => (w.dials.get j).2.isOk) stream b

/-- What the command should leave behind: a report for every endpoint, in
order, with its lines in the log; an endpoint that fails is reported with its
error, any other one with its statements; and the exit is an error exactly when
all endpoints fail. -/
def QueryIsolated (urls : List String) (config : QueryConfig) (w w' : World)
    (res : Except String Unit) : Prop :=
  ∃ reports : List (QueryEndpointReport × UInt64),
    reports.map (·.1.endpoint) = urls ∧
    w'.log = w.log ++ queryRunningLine urls config ::
      reports.flatMap (fun p => queryReportLines p.2 config p.1) ∧
    (∀ (i : Nat) (p : QueryEndpointReport × UInt64), reports[i]? = some p →
      (p.1.error ≠ none ↔ EndpointFails config w i)) ∧
    (res ≠ .ok () ↔ ∀ i < urls.length, EndpointFails config w i)

section Reports

variable {crates : Crates} {clock : Clock} {fuel : Nat} {config : QueryConfig} {w w' : World}

/-- What the loop over the endpoints has reported and done; the second
component of a report is the time at which it was logged. -/
structure ReportedAll (config : QueryConfig) (before : World)
    (endpoints : List (String × Handle)) (reports : List (QueryEndpointReport × UInt64))
    (after : World) : Prop where
  names : reports.map (·.1.endpoint) = endpoints.map (·.1)
  errors : ∀ (i : Nat) (entry : String × Handle) (p : QueryEndpointReport × UInt64),
    endpoints[i]? = some entry → reports[i]? = some p →
      (p.1.error = none ↔ ∃ stream b, DumpCompletes
        (Duration.fromMillis config.drainTimeoutMs) before entry.2 stream b)
  log : after.log = before.log ++ reports.flatMap fun p => queryReportLines p.2 config p.1
  others : ∀ c, c ∉ endpoints.map (·.2) → after.conns c = before.conns c

theorem DumpCompletes.congr {window : Duration} {v : World} {rpc : Handle}
    {stream : EventStream} {b : Nat} (hconn : v.conns rpc = w.conns rpc) :
    DumpCompletes window v rpc stream b ↔ DumpCompletes window w rpc stream b := by
  simp [DumpCompletes, hconn]

/-- **The next endpoint is reported by what its own connection does.** -/
theorem ReportedAll.snoc {endpoints : List (String × Handle)}
    {reports : List (QueryEndpointReport × UInt64)} {v v' : World} {entry : String × Handle}
    {r : QueryEndpointReport} (h : ReportedAll config w endpoints reports v)
    (hfresh : entry.2 ∉ endpoints.map (·.2))
    (hone : queryEndpoint crates fuel entry.1 entry.2 config v = some (r, v')) (now : UInt64) :
    ReportedAll config w (endpoints ++ [entry]) (reports ++ [(r, now)])
      (v'.logLines (queryReportLines now config r)) := by
  obtain ⟨hname, hqueried, herror, -⟩ := queryEndpoint_spec hone
  have hlen : reports.length = endpoints.length := by
    simpa using congrArg List.length h.names
  refine ⟨by simp [h.names, hname], ?_, ?_, ?_⟩
  · apply paired_snoc hlen h.errors
    rw [herror]
    exact exists_congr fun stream => exists_congr fun b => DumpCompletes.congr (h.others _ hfresh)
  · rw [logLines_log, hqueried.log, h.log, List.flatMap_append, List.append_assoc]
    simp
  · intro c hc
    simp only [List.map_append, List.map_cons, List.map_nil, List.mem_append,
      List.mem_singleton, not_or] at hc
    exact (hqueried.conns c hc.2).trans (h.others c hc.1)

/-- **All endpoints are reported.** -/
theorem runQuery_reported (hvalid : config.validate = .ok ())
    {endpoints : List (String × Handle)} (hnodup : (endpoints.map (·.2)).Nodup)
    {out : Except String (List QueryEndpointReport)}
    (h : runQuery crates clock fuel endpoints config w = some (out, w')) :
    ∃ reports : List (QueryEndpointReport × UInt64),
      out = .ok (reports.map (·.1)) ∧ ReportedAll config w endpoints reports w' := by
  simp only [runQuery, hvalid] at h
  obtain ⟨⟨perEndpoint, v⟩, hfold, heq⟩ := Option.map_eq_some_iff.mp h
  obtain ⟨rfl, rfl⟩ := Prod.mk.inj heq
  have hrule := foldlM_rule
    (fun done (state : List QueryEndpointReport × World) =>
      ∃ reports : List (QueryEndpointReport × UInt64),
        state.1 = reports.map (·.1) ∧ ReportedAll config w done reports state.2)
    ?turn ?start hfold
  · obtain ⟨reports, hreports, hall⟩ := hrule
    exact ⟨reports, congrArg Except.ok hreports, hall⟩
  case start =>
    exact ⟨[], rfl, rfl, by simp, by simp, fun _ _ => rfl⟩
  case turn =>
    intro done entry rest state state' hsplit hgiven hturn
    obtain ⟨perEndpoint, v⟩ := state
    obtain ⟨perEndpoint', v'⟩ := state'
    obtain ⟨reports, hreports, hinv⟩ := hgiven
    obtain ⟨⟨r, v₁⟩, hone, heq⟩ := Option.map_eq_some_iff.mp hturn
    obtain ⟨rfl, rfl⟩ := Prod.mk.inj heq
    have hfresh : entry.2 ∉ done.map (·.2) := not_mem_visited hnodup hsplit
    exact ⟨_, by rw [List.map_append, ← hreports]; rfl, hinv.snoc hfresh hone _⟩

/-- When every connection opens, endpoint `i` has connection `opened + i`. -/
theorem endpointFails_of_open {k i : Nat} (hopen : ∀ j < k, (w.dials.get j).2 = .ok ())
    (hi : i < k) : EndpointFails config w i ↔
      ¬ ∃ stream b, DumpCompletes (Duration.fromMillis config.drainTimeoutMs) w
        (w.opened + i) stream b := by
  have hcount : ((List.range i).countP fun j => (w.dials.get j).2.isOk) = i := by
    rw [List.countP_eq_length.mpr, List.length_range]
    intro j hj
    have hlt := List.mem_range.mp hj
    rw [hopen j (by omega)]
    rfl
  rw [EndpointFails, hcount, hopen i hi]
  simp

/-- The exit is an error when all the endpoints that are reported fail. -/
theorem allFailed_iff_forall_fails {reports : List (QueryEndpointReport × UInt64)}
    (hne : reports ≠ []) (herror : ∀ (i : Nat) (p : QueryEndpointReport × UInt64),
      reports[i]? = some p → (p.1.error ≠ none ↔ EndpointFails config w i)) :
    allFailed (reports.map (·.1)) = true ↔ ∀ i < reports.length, EndpointFails config w i := by
  rw [allFailed_iff]
  constructor
  · intro hgiven i hi
    obtain ⟨-, hevery⟩ := hgiven
    have hp : reports[i]? = some reports[i] := List.getElem?_eq_getElem hi
    exact (herror i _ hp).mp (hevery _ (List.mem_map_of_mem (List.mem_of_getElem? hp)))
  · intro hevery
    refine ⟨fun hnil => hne (List.map_eq_nil_iff.mp hnil), ?_⟩
    intro r hr
    obtain ⟨p, hp, rfl⟩ := List.mem_map.mp hr
    obtain ⟨i, hi⟩ := List.getElem?_of_mem hp
    have hlt := (List.getElem?_eq_some_iff.mp hi).1
    exact (herror i p hi).mpr (hevery i hlt)

/-- When every connection opens, no endpoint stands in the way of another. -/
theorem queryCmd_isolated {urls : List String} (hne : urls ≠ [])
    (hvalid : config.validate = .ok ()) (hopen : ∀ i < urls.length, (w.dials.get i).2 = .ok ())
    {res : Except String Unit}
    (h : runQueryCmd crates clock fuel urls config w = some (res, w')) :
    QueryIsolated urls config w w' res := by
  obtain ⟨endpoints, w₁, hconnect, hconn⟩ := connectAll_ok hne hopen
  simp only [runQueryCmd, hconnect] at h
  obtain ⟨⟨out, v⟩, hrun, heq⟩ := Option.map_eq_some_iff.mp h
  obtain ⟨reports, rfl, hall⟩ := runQuery_reported hvalid hconn.nodup hrun
  obtain ⟨rfl, rfl⟩ := Prod.mk.inj heq
  have hlen : reports.length = urls.length := by
    have hnames := congrArg List.length hall.names
    rw [List.length_map, List.length_map, hconn.length] at hnames
    exact hnames
  have herror : ∀ (i : Nat) (p : QueryEndpointReport × UInt64), reports[i]? = some p →
      (p.1.error ≠ none ↔ EndpointFails config w i) := by
    intro i p hp
    have hi : i < urls.length := by
      rw [← hlen]
      exact (List.getElem?_eq_some_iff.mp hp).1
    obtain ⟨entry, hentry, hhandle⟩ := hconn.entry hi
    have hrep := hall.errors i _ p hentry hp
    rw [hhandle] at hrep
    rw [Ne, hrep, endpointFails_of_open hopen hi]
    exact not_congr (exists_congr fun stream => exists_congr fun b =>
      DumpCompletes.congr (by rw [logLine_conns, hconn.conns]))
  refine ⟨reports, ?_, ?_, herror, ?_⟩
  · rw [hall.names, hconn.names]
  · rw [hall.log, logLine_log, hconn.log, List.append_assoc]
    rfl
  · have hsome : reports ≠ [] := by
      rw [← List.length_pos_iff, hlen]
      exact List.length_pos_iff.mpr hne
    rw [Ne, ensure_ok, Bool.not_eq_true', Bool.not_eq_false,
      allFailed_iff_forall_fails hsome herror, hlen]

end Reports

/-- **When the command isolates failures.**  Exactly when every connection
opens: the attempts to connect are the one stage without isolation. -/
theorem query_isolated_iff (crates : Crates) (clock : Clock) {urls : List String}
    {config : QueryConfig} (w : World) (hne : urls ≠ []) (hvalid : config.validate = .ok ()) :
    (∀ fuel res w', runQueryCmd crates clock fuel urls config w = some (res, w') →
      QueryIsolated urls config w w' res) ↔
    ∀ i < urls.length, (w.dials.get i).2 = .ok () := by
  constructor
  · intro h
    by_contra hnot
    have hfails : ∃ i < urls.length, (w.dials.get i).2 ≠ .ok () := by
      simpa using hnot
    obtain ⟨e, w', hconnect, hlog, -⟩ := connectAll_error hne hfails
    obtain ⟨reports, -, hwritten, -⟩ := h 0 (.error e) w' (by simp [runQueryCmd, hconnect])
    -- the command has ended before its first line
    rw [hlog] at hwritten
    have hlen := congrArg List.length hwritten
    simp at hlen
  · exact fun hopen fuel res w' h => queryCmd_isolated hne hvalid hopen h

/-- Every subscription has an empty dump. -/
def emptyDump : EventStream :=
  Stream'.cons (.item 0 (.ok (.newStatements [] none))) (Stream'.const .silent)

/-- The first connection opens, the second one does not. -/
def secondRefused : World :=
  { steadyWorld (.ok emptyDump) (.ok .new) with
    dials := Stream'.cons (0, .ok ()) (Stream'.const (0, .error "connection refused")) }

/-- The dump of a store with one statement. -/
def singleDump : EventStream :=
  Stream'.cons (.item 0 (.ok (.newStatements [[4, 2]] none))) (Stream'.const .silent)

/-- Both connections open, but the second node refuses the subscription. -/
def secondUnsubscribed : World :=
  { steadyWorld (.ok singleDump) (.ok .new) with
    conns := fun rpc => ⟨Stream'.const (0, .ok .new),
      Stream'.const (0, if rpc = 0 then .ok singleDump else .error "refused")⟩ }

theorem query_isolated_iff_twoEndpoints :
    EndpointFails ⟨none, 15000⟩ secondUnsubscribed 1 ∧
      ∃ w', runQueryCmd plainCrates id 1 ["ws://a", "ws://b"] ⟨none, 15000⟩ secondUnsubscribed =
          some (.ok (), w') ∧
        QueryIsolated ["ws://a", "ws://b"] ⟨none, 15000⟩ secondUnsubscribed w' (.ok ()) := by
  refine ⟨Or.inr fun hdump => ?_, _, rfl, ?_⟩
  · obtain ⟨stream, b, hopen, -⟩ := hdump
    cases hopen
  · exact (query_isolated_iff plainCrates id secondUnsubscribed (by simp) rfl).mpr
      (fun i _ => rfl) 1 _ _ rfl

/-- The node at `ws://a` would list its store, but it is never asked: the
command ends with the failure of the other connection. -/
theorem query_not_isolated :
    (∃ w', runQueryCmd plainCrates id 1 ["ws://a", "ws://b"] ⟨none, 15000⟩ secondRefused =
        some (.error "Failed to connect to ws://b", w') ∧ w'.log = [] ∧
          (subscribed w'.calls).length = 0) ∧
    ¬ EndpointFails ⟨none, 15000⟩ secondRefused 0 ∧
      EndpointFails ⟨none, 15000⟩ secondRefused 1 := by
  refine ⟨⟨_, rfl, rfl, rfl⟩, ?_, ?_⟩
  · intro hfails
    rcases hfails with hdial | hdump
    · exact hdial rfl
    · refine hdump ⟨emptyDump, 0, rfl, ?_, .newStatements [] none, rfl, rfl⟩
      exact fun i hi => absurd hi (Nat.not_lt_zero i)
  · exact Or.inl fun hok => by cases hok

end StatementStore
