import StatementStoreTools.QueryPhase
import StatementStoreTools.SubscribePhase

/-!
# The commands of `statement-ops-bench`

What the binary makes of a report: `connect_all` opens one connection for each
endpoint, in order; the `subscribe` command turns failed `--assert-once` reads
into an error, and the `query` command fails when every endpoint does.
-/

namespace StatementStore

/-- The loop of `connect_all`: the first failure ends it. -/
def connectEach : List String → World → Except String (List (String × Handle)) × World
  | [], w => (.ok [], w)
  | ep :: eps, w =>
      match connect ep w with
      | (.error e, w) => (.error e, w)
      | (.ok rpc, w) =>
          match connectEach eps w with
          | (.error e, w) => (.error e, w)
          | (.ok out, w) => (.ok ((ep, rpc) :: out), w)

def connectAll (endpoints : List String) (w : World) :
    Except String (List (String × Handle)) × World :=
  if endpoints = [] then (.error "At least one endpoint must be provided", w)
  else connectEach endpoints w

/-- The reports that the `subscribe` command lists as failed. -/
def failedReports (perEndpoint : List SubscribeEndpointReport) : List SubscribeEndpointReport :=
  perEndpoint.filter fun r => 0 < r.failures

/-- What the `subscribe` command makes of its report. -/
def subscribeVerdict (config : SubscribeConfig) (perEndpoint : List SubscribeEndpointReport) :
    Except String Unit :=
  if config.assertOnce then
    let failed := failedReports perEndpoint
    if failed = [] then .ok ()
    else
      let detail := "; ".intercalate
        (failed.map fun r =>
          let why := r.firstError.getD "read failed"
          s!"{r.endpoint}: {why}")
      .error (s!"--assert-once failed on {failed.length}/{perEndpoint.length} " ++
        s!"endpoint(s): {detail}")
  else .ok ()

def subscribeRunningLine (endpoints : List String) (config : SubscribeConfig) : String :=
  s!"Running subscribe benchmark: endpoints={endpoints.length} " ++
    s!"reads_per_node={config.readsPerNode.toNat} msg_size={config.messageSize.toNat}B " ++
    s!"assert_once={config.assertOnce}"

/-- `run_subscribe_cmd`, with the parsed seed and the configuration that the
arguments give. -/
def runSubscribeCmd (crates : Crates) (clock : Clock) (seed : Except String Keypair)
    (fuel : Nat) (rpcEndpoints : List String) (config : SubscribeConfig) (w : World) :
    Option (Except String Unit × World) :=
  match seed with
  | .error e => some (.error e, w)
  | .ok keypair =>
      match connectAll rpcEndpoints w with
      | (.error e, w) => some (.error e, w)
      | (.ok endpoints, w) =>
          let w := w.logLine (subscribeRunningLine rpcEndpoints config)
          (runSubscribe ⟨crates, clock, keypair⟩ fuel endpoints config "" w).map fun out =>
            match out.1 with
            | .error e => (.error e, out.2)
            | .ok perEndpoint => (subscribeVerdict config perEndpoint, out.2)

def queryRunningLine (endpoints : List String) (config : QueryConfig) : String :=
  s!"Running query: endpoints={endpoints.length} filter={filterLabel config.topic} " ++
    s!"drain_timeout_ms={config.drainTimeoutMs.toNat}"

/-- `run_query_cmd`. -/
def runQueryCmd (crates : Crates) (clock : Clock) (fuel : Nat) (rpcEndpoints : List String)
    (config : QueryConfig) (w : World) : Option (Except String Unit × World) :=
  match connectAll rpcEndpoints w with
  | (.error e, w) => some (.error e, w)
  | (.ok endpoints, w) =>
      let w := w.logLine (queryRunningLine rpcEndpoints config)
      (runQuery crates clock fuel endpoints config w).map fun out =>
        match out.1 with
        | .error e => (.error e, out.2)
        | .ok perEndpoint =>
            (ensure (!allFailed perEndpoint)
              s!"query failed on all {perEndpoint.length} endpoint(s)", out.2)

/-! ## Connecting -/

/-- What connecting leaves behind when every connection opens: fresh handles,
and nothing else has changed. -/
structure Connected (eps : List String) (before after : World)
    (endpoints : List (String × Handle)) : Prop where
  names : endpoints.map (·.1) = eps
  handles : endpoints.map (·.2) = List.range' before.opened eps.length
  conns : after.conns = before.conns
  log : after.log = before.log
  calls : after.calls = before.calls

section Connecting

variable {eps : List String} {w : World}

/-- The next attempt to connect opens a connection. -/
theorem connect_ok (h : w.dials.head.2 = .ok ()) (ep : String) :
    connect ep w = (.ok w.opened,
      { w with
        now := w.now + w.dials.head.1
        dials := w.dials.tail
        opened := w.opened + 1 }) := by
  simp [connect, h]

/-- It fails, and only time has passed. -/
theorem connect_error {e : String} (h : w.dials.head.2 = .error e) (ep : String) :
    connect ep w = (.error s!"Failed to connect to {ep}",
      { w with now := w.now + w.dials.head.1, dials := w.dials.tail }) := by
  simp [connect, h]

theorem connectEach_ok (h : ∀ i < eps.length, (w.dials.get i).2 = .ok ()) :
    ∃ endpoints w', connectEach eps w = (.ok endpoints, w') ∧ Connected eps w w' endpoints := by
  induction eps generalizing w with
  | nil => exact ⟨[], w, rfl, ⟨rfl, rfl, rfl, rfl, rfl⟩⟩
  | cons ep eps ih =>
      have hconnect := connect_ok (h 0 (by simp)) ep
      obtain ⟨endpoints, w', hrun, hconn⟩ := ih
        (w := { w with
          now := w.now + w.dials.head.1
          dials := w.dials.tail
          opened := w.opened + 1 })
        (fun i hi => h (i + 1) (by simpa using hi))
      refine ⟨(ep, w.opened) :: endpoints, w', ?_, ?_, ?_, hconn.conns, hconn.log, hconn.calls⟩
      · simp only [connectEach, hconnect, hrun]
      · simp [hconn.names]
      · rw [List.map_cons, hconn.handles, List.length_cons, List.range'_succ]

/-- The first connection that does not open ends the command: nothing has been
logged or asked. -/
theorem connectEach_error (h : ∃ i < eps.length, (w.dials.get i).2 ≠ .ok ()) :
    ∃ e w', connectEach eps w = (.error e, w') ∧ w'.log = w.log ∧ w'.calls = w.calls := by
  induction eps generalizing w with
  | nil =>
      obtain ⟨i, hi, -⟩ := h
      exact absurd hi (Nat.not_lt_zero i)
  | cons ep eps ih =>
      obtain ⟨i, hi, hdial⟩ := h
      cases hfirst : w.dials.head.2 with
      | error e =>
          have hconnect := connect_error hfirst ep
          refine ⟨s!"Failed to connect to {ep}",
            { w with now := w.now + w.dials.head.1, dials := w.dials.tail }, ?_, rfl, rfl⟩
          simp only [connectEach, hconnect]
      | ok u =>
          have hconnect := connect_ok hfirst ep
          cases i with
          | zero => exact absurd hfirst hdial
          | succ i =>
              obtain ⟨e, w', hrun, hlog, hcalls⟩ := ih
                (w := { w with
                  now := w.now + w.dials.head.1
                  dials := w.dials.tail
                  opened := w.opened + 1 })
                ⟨i, by simpa using hi, hdial⟩
              refine ⟨e, w', ?_, hlog, hcalls⟩
              simp only [connectEach, hconnect, hrun]

theorem connectAll_ok (hne : eps ≠ []) (h : ∀ i < eps.length, (w.dials.get i).2 = .ok ()) :
    ∃ endpoints w', connectAll eps w = (.ok endpoints, w') ∧ Connected eps w w' endpoints := by
  rw [connectAll, if_neg hne]
  exact connectEach_ok h

theorem connectAll_error (hne : eps ≠ []) (h : ∃ i < eps.length, (w.dials.get i).2 ≠ .ok ()) :
    ∃ e w', connectAll eps w = (.error e, w') ∧ w'.log = w.log ∧ w'.calls = w.calls := by
  rw [connectAll, if_neg hne]
  exact connectEach_error h

/-- An accepted list has an entry for every endpoint, in order. -/
theorem connectEach_names {endpoints : List (String × Handle)} {w' : World}
    (h : connectEach eps w = (.ok endpoints, w')) : endpoints.map (·.1) = eps := by
  induction eps generalizing w endpoints with
  | nil =>
      obtain ⟨heq, -⟩ := Prod.mk.inj h
      obtain rfl := Except.ok.inj heq
      rfl
  | cons ep eps ih =>
      rcases hconnect : connect ep w with ⟨(e | rpc), v⟩ <;>
        simp only [connectEach, hconnect] at h
      · cases (Prod.mk.inj h).1
      · rcases hrest : connectEach eps v with ⟨(e | out), v'⟩ <;> simp only [hrest] at h
        · cases (Prod.mk.inj h).1
        · obtain ⟨heq, rfl⟩ := Prod.mk.inj h
          obtain rfl := Except.ok.inj heq
          rw [List.map_cons, ih hrest]

theorem connectAll_names {endpoints : List (String × Handle)} {w' : World}
    (h : connectAll eps w = (.ok endpoints, w')) :
    eps ≠ [] ∧ endpoints.map (·.1) = eps := by
  unfold connectAll at h
  split at h
  · cases (Prod.mk.inj h).1
  · next hne => exact ⟨hne, connectEach_names h⟩

/-- Endpoint `i` gets the handle of the `i`-th connection. -/
theorem Connected.get {w' : World} {endpoints : List (String × Handle)}
    (h : Connected eps w w' endpoints) {i : Nat} {entry : String × Handle}
    (hi : endpoints[i]? = some entry) :
    eps[i]? = some entry.1 ∧ entry.2 = w.opened + i := by
  have hname := congrArg (·[i]?) h.names
  have hhandle := congrArg (·[i]?) h.handles
  have hlen : i < eps.length := by
    rw [← h.names, List.length_map]
    exact (List.getElem?_eq_some_iff.mp hi).1
  simp only [List.getElem?_map, hi, Option.map_some] at hname hhandle
  rw [List.getElem?_range' hlen] at hhandle
  exact ⟨hname.symm, by simpa using hhandle⟩

theorem Connected.length {w' : World} {endpoints : List (String × Handle)}
    (h : Connected eps w w' endpoints) : endpoints.length = eps.length := by
  rw [← h.names, List.length_map]

/-- Endpoint `i` has connection `opened + i`. -/
theorem Connected.entry {w' : World} {endpoints : List (String × Handle)}
    (h : Connected eps w w' endpoints) {i : Nat} (hi : i < eps.length) :
    ∃ entry, endpoints[i]? = some entry ∧ entry.2 = w.opened + i := by
  have hentry : endpoints[i]? = some (endpoints.get ⟨i, h.length.symm ▸ hi⟩) :=
    List.getElem?_eq_getElem _
  exact ⟨_, hentry, (h.get hentry).2⟩

/-- Different endpoints have different connections, also for equal names. -/
theorem Connected.nodup {w' : World} {endpoints : List (String × Handle)}
    (h : Connected eps w w' endpoints) : (endpoints.map (·.2)).Nodup := by
  rw [h.handles]
  exact List.nodup_range'

theorem connect_now_le (ep : String) (w : World) : w.now ≤ (connect ep w).2.now := by
  cases hdial : w.dials.head.2 <;> simp [connect, hdial]

theorem connectEach_now_le (eps : List String) (w : World) :
    w.now ≤ (connectEach eps w).2.now := by
  induction eps generalizing w with
  | nil => exact Nat.le_refl _
  | cons ep eps ih =>
      have hfirst := connect_now_le ep w
      rcases hconnect : connect ep w with ⟨(e | rpc), v⟩
      · rw [hconnect] at hfirst
        simpa only [connectEach, hconnect] using hfirst
      · rw [hconnect] at hfirst
        have hrest := hfirst.trans (ih v)
        rcases heach : connectEach eps v with ⟨(e | out), v'⟩ <;> rw [heach] at hrest <;>
          simpa only [connectEach, hconnect, heach] using hrest

theorem connectAll_now_le (eps : List String) (w : World) :
    w.now ≤ (connectAll eps w).2.now := by
  unfold connectAll
  split
  · exact Nat.le_refl _
  · exact connectEach_now_le eps w

/-- Connecting makes no call, whether it succeeds or not. -/
theorem connectAll_calls (eps : List String) (w : World) :
    (connectAll eps w).2.calls = w.calls := by
  by_cases hne : eps = []
  · rw [connectAll, if_pos hne]
  · by_cases hdials : ∀ i < eps.length, (w.dials.get i).2 = .ok ()
    · obtain ⟨endpoints, v, hconnect, hconn⟩ := connectAll_ok hne hdials
      rw [hconnect]
      exact hconn.calls
    · push Not at hdials
      obtain ⟨e, v, hconnect, -, hcalls⟩ := connectAll_error hne hdials
      rw [hconnect]
      exact hcalls

end Connecting

end StatementStore
