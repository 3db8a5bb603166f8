import StatementStoreTools.PhaseAccounts

/-!
# When the phases return, and what their reports depend on

`submit` always returns.  The other two phases read dumps, and a dump whose
boundary never comes, with events that never stop, keeps them waiting; apart
from that they return, as `runPropagation_returns` and `runSubscribe_returns`
say.

A report depends on nothing but the answers of the connections that its own
endpoint or pair uses: not on the clock, and not on how the other endpoints
fare.  Both follow from what a read or an iteration is once its subscription is
open: `runRead_eq` and `runSingleIteration_eq`.
-/

namespace StatementStore

open TimedStreams Loops AttemptChains

/-! ## Worlds that answer alike -/

/-- The subscriptions that `after` has in store are those of `before`, less
some that have been opened. -/
def Consumed (before after : World) : Prop :=
  ∀ c, ∃ m, (after.conns c).subscriptions = (before.conns c).subscriptions.drop m

/-- Every subscription that the connection has in store is as `P` says. -/
def Streams (P : EventStream → Prop) (w : World) (c : Handle) : Prop :=
  ∀ k stream, ((w.conns c).subscriptions.get k).2 = .ok stream → P stream

/-- The connections `cs` answer alike in `v` and `v'`, and since the times `t`
and `t'` the same time has passed in both. -/
structure Alike (cs : Handle → Prop) (t t' : Instant) (v v' : World) : Prop where
  conns : ∀ c, cs c → v.conns c = v'.conns c
  now : v.now + t' = v'.now + t

section Worlds

variable {u v v' w : World} {rpc : Handle} {cs : Handle → Prop} {t t' : Instant}

theorem consumed_of_conns (h : v.conns = w.conns) : Consumed w v :=
  fun c => ⟨0, by rw [h]; rfl⟩

theorem Consumed.trans (h : Consumed u v) (h' : Consumed v w) : Consumed u w := by
  intro c
  obtain ⟨m, hm⟩ := h c
  obtain ⟨n, hn⟩ := h' c
  exact ⟨m + n, by rw [hn, hm, Stream'.drop_drop]⟩

theorem subscribeTopic_consumed (filter : TopicFilter) :
    Consumed w (subscribeTopic rpc filter w).2 := by
  intro c
  by_cases hc : c = rpc
  · subst hc
    exact ⟨1, by simp [subscribeTopic, Stream'.tail_eq_drop]⟩
  · exact ⟨0, by simp [subscribeTopic, hc]⟩

theorem submitStatement_consumed (s : Statement) : Consumed w (submitStatement rpc s w).2 := by
  intro c
  by_cases hc : c = rpc
  · subst hc
    exact ⟨0, by simp [submitStatement]⟩
  · exact ⟨0, by simp [submitStatement, hc]⟩

theorem Streams.consumed {P : EventStream → Prop} (h : Streams P w rpc) (hc : Consumed w v) :
    Streams P v rpc := by
  intro k stream hopen
  obtain ⟨m, hm⟩ := hc rpc
  rw [hm, Stream'.get_drop] at hopen
  exact h _ _ hopen

theorem alike_start (h : ∀ c, cs c → v.conns c = v'.conns c) : Alike cs v.now v'.now v v' :=
  ⟨h, Nat.add_comm ..⟩

theorem Alike.wait (h : Alike cs t t' v v') (d : Duration) :
    Alike cs t t' (v.wait d) (v'.wait d) := by
  refine ⟨h.conns, ?_⟩
  rw [wait_now, wait_now, Nat.add_right_comm, h.now, Nat.add_right_comm]

/-- The time between two such moments is the same in both worlds. -/
theorem Alike.elapsed {u u' : World} (h : Alike cs t t' v v') (h' : Alike cs t t' u u') :
    u.now - v.now = u'.now - v'.now := by
  have hshift : ∀ a b c d e f : Nat, a + e = b + f → c + e = d + f → c - a = d - b := by omega
  exact hshift _ _ _ _ _ _ h.now h'.now

theorem Alike.subscribe (h : Alike cs t t' v v') (hrpc : cs rpc) (filter filter' : TopicFilter) :
    (subscribeTopic rpc filter v).1 = (subscribeTopic rpc filter' v').1 ∧
      Alike cs t t' (subscribeTopic rpc filter v).2 (subscribeTopic rpc filter' v').2 := by
  have hconn := h.conns rpc hrpc
  refine ⟨by simp [subscribeTopic, hconn], fun c hc => ?_, ?_⟩
  · simp only [subscribeTopic, hconn, Function.update_apply, h.conns c hc]
  · exact (h.wait (v.conns rpc).subscriptions.head.1).now.trans (by rw [hconn]; rfl)

theorem Alike.submit (h : Alike cs t t' v v') (hrpc : cs rpc) (s s' : Statement) :
    (submitStatement rpc s v).1 = (submitStatement rpc s' v').1 ∧
      Alike cs t t' (submitStatement rpc s v).2 (submitStatement rpc s' v').2 := by
  have hconn := h.conns rpc hrpc
  refine ⟨by simp [submitStatement, hconn], fun c hc => ?_, ?_⟩
  · simp only [submitStatement, hconn, Function.update_apply, h.conns c hc]
  · exact (h.wait (v.conns rpc).submits.head.1).now.trans (by rw [hconn]; rfl)

theorem Alike.submitAll (h : Alike cs t t' v v') (hrpc : cs rpc) {xs xs' : List Statement}
    (hlen : xs.length = xs'.length) :
    (StatementStore.submitAll rpc xs v).1 = (StatementStore.submitAll rpc xs' v').1 ∧
      Alike cs t t' (StatementStore.submitAll rpc xs v).2
        (StatementStore.submitAll rpc xs' v').2 := by
  have hconn := h.conns rpc hrpc
  refine ⟨by simp [StatementStore.submitAll, hconn, hlen], fun c hc => ?_, ?_⟩
  · simp only [StatementStore.submitAll, hconn, hlen, Function.update_apply, h.conns c hc]
  · exact (h.wait ((((v.conns rpc).submits.take xs.length).map (·.1)).foldl max 0)).now.trans
      (by rw [hconn, hlen])

end Worlds

/-! ## `submit` -/

section Submit

variable {env : OpsEnv} {endpoint : String} {rpc : Handle} {config : SubmitConfig}
  {cs : Handle → Prop} {t t' : Instant} {v v' : World}

theorem runBatch_alike {baseExpiry baseExpiry' batchIdx : UInt32} {tally : SubmitTally}
    (h : Alike cs t t' v v') (hrpc : cs rpc) :
    (runBatch env endpoint rpc config baseExpiry (tally, v) batchIdx).1 =
        (runBatch env endpoint rpc config baseExpiry' (tally, v') batchIdx).1 ∧
      Alike cs t t' (runBatch env endpoint rpc config baseExpiry (tally, v) batchIdx).2
        (runBatch env endpoint rpc config baseExpiry' (tally, v') batchIdx).2 := by
  have hlen : (batchStatements env config endpoint baseExpiry batchIdx).length =
      (batchStatements env config endpoint baseExpiry' batchIdx).length := by
    simp [batchStatements]
  obtain ⟨hresults, hafter⟩ := h.submitAll hrpc hlen
  have helapsed := h.elapsed hafter
  refine ⟨?_, hafter⟩
  simp only [runBatch, hresults, helapsed]

theorem afterBatches_alike (h : Alike cs v.now v'.now v v') (hrpc : cs rpc) (b : Nat) :
    (afterBatches env endpoint rpc config v b).1 = (afterBatches env endpoint rpc config v' b).1 ∧
      Alike cs v.now v'.now (afterBatches env endpoint rpc config v b).2
        (afterBatches env endpoint rpc config v' b).2 := by
  induction b with
  | zero =>
      have hzero : ∀ u, afterBatches env endpoint rpc config u 0 = (SubmitTally.zero, u) :=
        fun _ => rfl
      rw [hzero, hzero]
      exact ⟨rfl, h⟩
  | succ b ih =>
      rw [afterBatches_succ, afterBatches_succ]
      rcases hleft : afterBatches env endpoint rpc config v b with ⟨tally, u⟩
      rcases hright : afterBatches env endpoint rpc config v' b with ⟨tally', u'⟩
      rw [hleft, hright] at ih
      obtain ⟨rfl, halike⟩ := ih
      exact runBatch_alike halike hrpc

/-- An endpoint is reported by the answers of its connection alone. -/
theorem runSubmitOnEndpoint_determined (h : v.conns rpc = v'.conns rpc) :
    (runSubmitOnEndpoint env endpoint rpc config v).1 =
      (runSubmitOnEndpoint env endpoint rpc config v').1 := by
  have hstart : Alike (· = rpc) v.now v'.now v v' := alike_start fun c hc => by rw [hc, h]
  have htally : (afterBatches env endpoint rpc config v config.iterations.toNat).1 =
      (afterBatches env endpoint rpc config v' config.iterations.toNat).1 :=
    (afterBatches_alike hstart rfl config.iterations.toNat).1
  rw [afterBatches, afterBatches] at htally
  rw [runSubmitOnEndpoint, runSubmitOnEndpoint, htally]

end Submit

/-! ## `propagation` -/

section Propagation

variable {env : OpsEnv} {fuel fuel' : Nat} {submitRpc subscribeRpc : Handle}
  {topic channel : Bytes32} {expiryTs seq : UInt32} {data : Bytes} {config : PropagationConfig}
  {cs : Handle → Prop} {t t' : Instant} {v v' w w' : World}

theorem submitAndReceive_alike (h : Alike cs t t' v v') (hrpc : cs submitRpc) (s s' : Statement)
    (window : Duration) (stream : EventStream) :
    (submitAndReceive submitRpc s window stream v).1 =
        (submitAndReceive submitRpc s' window stream v').1 ∧
      Alike cs t t' (submitAndReceive submitRpc s window stream v).2
        (submitAndReceive submitRpc s' window stream v').2 := by
  obtain ⟨hanswer, hafter⟩ := h.submit hrpc s s'
  have helapsed := h.elapsed hafter
  have hwaited := hafter.wait (nextStatementBatch window stream).spent
  have hreceived := h.elapsed hwaited
  simp only [submitAndReceive, hanswer, helapsed]
  cases accepted (submitStatement submitRpc s' v').1 with
  | error e => exact ⟨rfl, hafter⟩
  | ok u =>
      cases (nextStatementBatch window stream).result with
      | error e => exact ⟨rfl, hwaited⟩
      | ok received =>
          by_cases hzero : received = 0
          · simp only [if_pos hzero]
            exact ⟨trivial, hwaited⟩
          · simp only [if_neg hzero, hreceived]
            exact ⟨trivial, hwaited⟩

theorem afterDrain_alike (config : PropagationConfig) (h : Alike cs t t' v v')
    (hrpc : cs submitRpc) (s s' : Statement)
    (drain : Reading (Except String StatementEvent) (Except String Nat)) :
    (afterDrain config submitRpc s drain v).1 = (afterDrain config submitRpc s' drain v').1 ∧
      Alike cs t t' (afterDrain config submitRpc s drain v).2
        (afterDrain config submitRpc s' drain v').2 := by
  have hwaited := h.wait drain.spent
  simp only [afterDrain]
  cases drain.result with
  | error e => exact ⟨rfl, hwaited⟩
  | ok drained =>
      by_cases hdump : config.topicOverride.isNone ∧ drained ≠ 0
      · simp only [if_pos hdump]
        exact ⟨trivial, hwaited⟩
      · simp only [if_neg hdump]
        exact submitAndReceive_alike hwaited hrpc ..

theorem afterDrain_consumed (s : Statement)
    (drain : Reading (Except String StatementEvent) (Except String Nat)) :
    Consumed w (afterDrain config submitRpc s drain w).2 := by
  have hwaited : Consumed w (w.wait drain.spent) := consumed_of_conns rfl
  have hsubmitted : Consumed w (submitStatement submitRpc s (w.wait drain.spent)).2 :=
    hwaited.trans (submitStatement_consumed s)
  simp only [afterDrain]
  split
  · exact hwaited
  · split
    · exact hwaited
    · simp only [submitAndReceive]
      split
      · exact hsubmitted
      · split
        · exact hsubmitted.trans (consumed_of_conns rfl)
        · split <;> exact hsubmitted.trans (consumed_of_conns rfl)

/-- A larger bound never changes an iteration. -/
theorem runSingleIteration_mono {out : IterationTiming × World} (hle : fuel ≤ fuel')
    (h : runSingleIteration env fuel submitRpc subscribeRpc topic channel expiryTs seq data config
      w = some out) :
    runSingleIteration env fuel' submitRpc subscribeRpc topic channel expiryTs seq data config w =
      some out := by
  rw [runSingleIteration_eq] at h ⊢
  cases hopen : (subscribeTopic subscribeRpc (matchAnyOf topic) w).1 with
  | error e =>
      rw [hopen] at h
      exact h
  | ok stream =>
      rw [hopen] at h
      obtain ⟨drain, hdrain, rfl⟩ := Option.map_eq_some_iff.mp h
      exact Option.map_eq_some_iff.mpr ⟨drain, run_mono hle hdrain, rfl⟩

theorem runSingleIteration_returns
    (h : Streams (DumpOver (Duration.fromMillis config.drainTimeoutMs)) w subscribeRpc) :
    ∃ fuel timing w', runSingleIteration env fuel submitRpc subscribeRpc topic channel expiryTs
      seq data config w = some (timing, w') ∧ Consumed w w' := by
  have hsubscribed : Consumed w (subscribeTopic subscribeRpc (matchAnyOf topic) w).2 :=
    subscribeTopic_consumed _
  simp only [runSingleIteration_eq]
  cases hopen : (subscribeTopic subscribeRpc (matchAnyOf topic) w).1 with
  | error e => exact ⟨0, _, _, rfl, hsubscribed⟩
  | ok stream =>
      obtain ⟨fuel, drain, hdrain⟩ := drainInitialBatch_returns (h 0 stream hopen)
      exact ⟨fuel, _, _, Option.map_eq_some_iff.mpr ⟨drain, hdrain, rfl⟩,
        hsubscribed.trans (afterDrain_consumed _ _)⟩

/-- An iteration goes by the answers of its two connections alone. -/
theorem runSingleIteration_alike {expiryTs' : UInt32} {timing timing' : IterationTiming}
    (halike : Alike cs t t' v v') (hsubmit : cs submitRpc) (hsubscribe : cs subscribeRpc)
    (h : runSingleIteration env fuel submitRpc subscribeRpc topic channel expiryTs seq data config
      v = some (timing, w))
    (h' : runSingleIteration env fuel submitRpc subscribeRpc topic channel expiryTs' seq data
      config v' = some (timing', w')) :
    timing = timing' ∧ Alike cs t t' w w' := by
  obtain ⟨hanswer, hopened⟩ := halike.subscribe hsubscribe (matchAnyOf topic) (matchAnyOf topic)
  rw [runSingleIteration_eq] at h h'
  rw [hanswer] at h
  cases hopen : (subscribeTopic subscribeRpc (matchAnyOf topic) v').1 with
  | error e =>
      rw [hopen] at h h'
      obtain ⟨rfl, rfl⟩ := Prod.mk.inj (Option.some.inj h)
      obtain ⟨rfl, rfl⟩ := Prod.mk.inj (Option.some.inj h')
      exact ⟨rfl, hopened⟩
  | ok stream =>
      rw [hopen] at h h'
      obtain ⟨drain, hdrain, heq⟩ := Option.map_eq_some_iff.mp h
      obtain ⟨drain', hdrain', heq'⟩ := Option.map_eq_some_iff.mp h'
      obtain rfl := Option.some.inj (hdrain.symm.trans hdrain')
      have hrest := afterDrain_alike config hopened hsubmit
        (buildStatement env.keypair topic channel expiryTs seq data)
        (buildStatement env.keypair topic channel expiryTs' seq data) drain
      rw [heq, heq'] at hrest
      exact hrest

end Propagation

section Pairs

variable {env : OpsEnv} {fuel fuel' : Nat} {submitEndpoint subscribeEndpoint : String}
  {submitRpc subscribeRpc : Handle} {config : PropagationConfig} {scopeIdx : UInt32}
  {v v' w w' : World}

theorem runPair_mono {out : PropagationPairReport × World} (hle : fuel ≤ fuel')
    (h : runPair env fuel submitEndpoint submitRpc subscribeEndpoint subscribeRpc config scopeIdx
      w = some out) :
    runPair env fuel' submitEndpoint submitRpc subscribeEndpoint subscribeRpc config scopeIdx w =
      some out := by
  obtain ⟨⟨tally, u⟩, hruns, rfl⟩ := Option.map_eq_some_iff.mp h
  obtain ⟨timings, hchain, htally⟩ := runIterations_eq_some.mp hruns
  have hruns' := runIterations_eq_some.mpr
    ⟨timings, hchain.imp fun i v timing v' hone => runSingleIteration_mono hle hone, htally⟩
  exact Option.map_eq_some_iff.mpr ⟨_, hruns', rfl⟩

theorem runPair_returns
    (h : Streams (DumpOver (Duration.fromMillis config.drainTimeoutMs)) w subscribeRpc) :
    ∃ fuel r w', runPair env fuel submitEndpoint submitRpc subscribeEndpoint subscribeRpc config
      scopeIdx w = some (r, w') ∧ Consumed w w' := by
  obtain ⟨fuel, timings, u, hchain, hconsumed⟩ := chain_returns
    (fun fuel i v timing v' => runIteration env fuel submitRpc subscribeRpc config scopeIdx
      (expirySecondsFromNow env.clock w.now config.baseExpirySecs) (UInt32.ofNat i) v =
        some (timing, v'))
    (List.range config.iterations.toNat) (Consumed w)
    (fun _ _ _ _ _ _ hle hone => runSingleIteration_mono hle hone)
    (fun i _ v hv => by
      obtain ⟨fuel, timing, v', hone, hnext⟩ := runSingleIteration_returns (h.consumed hv)
      exact ⟨fuel, timing, v', hone, hv.trans hnext⟩)
    (consumed_of_conns rfl)
  exact ⟨fuel, _, u, Option.map_eq_some_iff.mpr
    ⟨_, runIterations_eq_some.mpr ⟨timings, hchain, rfl⟩, rfl⟩, hconsumed⟩

/-- A pair is reported by the answers of its two connections alone. -/
theorem runPair_determined {r r' : PropagationPairReport}
    (hsubmit : v.conns submitRpc = v'.conns submitRpc)
    (hsubscribe : v.conns subscribeRpc = v'.conns subscribeRpc)
    (h : runPair env fuel submitEndpoint submitRpc subscribeEndpoint subscribeRpc config scopeIdx
      v = some (r, w))
    (h' : runPair env fuel' submitEndpoint submitRpc subscribeEndpoint subscribeRpc config scopeIdx
      v' = some (r', w')) : r = r' := by
  have hstart : Alike (fun c => c = submitRpc ∨ c = subscribeRpc) v.now v'.now v v' := by
    refine alike_start fun c hc => ?_
    rcases hc with rfl | rfl
    · exact hsubmit
    · exact hsubscribe
  have hleft := runPair_mono (Nat.le_max_left fuel fuel') h
  have hright := runPair_mono (Nat.le_max_right fuel fuel') h'
  obtain ⟨⟨tally, u⟩, hruns, heq⟩ := Option.map_eq_some_iff.mp hleft
  obtain ⟨⟨tally', u'⟩, hruns', heq'⟩ := Option.map_eq_some_iff.mp hright
  obtain ⟨timings, hchain, rfl⟩ := runIterations_eq_some.mp hruns
  obtain ⟨timings', hchain', rfl⟩ := runIterations_eq_some.mp hruns'
  have hsame := hchain.determined _ hchain' hstart
    fun i s timing t s' timing' t' halike hone hone' =>
    runSingleIteration_alike halike (Or.inl rfl) (Or.inr rfl) hone hone'
  rw [hsame.1] at heq
  exact (Prod.mk.inj heq).1.symm.trans (Prod.mk.inj heq').1

theorem mem_of_endpointPairs {submitEndpoints subscribeEndpoints : List (String × Handle)}
    {pair : Pair} (h : pair ∈ endpointPairs submitEndpoints subscribeEndpoints) :
    pair.1.2 ∈ subscribeEndpoints := by
  rw [endpointPairs, List.mem_flatMap] at h
  obtain ⟨s, -, hrow⟩ := h
  obtain ⟨b, hb, rfl⟩ := List.mem_map.mp hrow
  exact List.fst_mem_of_mem_zipIdx hb

/-- **`propagation` returns**, unless a dump goes on for ever. -/
theorem runPropagation_returns (env : OpsEnv)
    (submitEndpoints subscribeEndpoints : List (String × Handle)) (config : PropagationConfig)
    (tag : String) (w : World)
    (h : ∀ b ∈ subscribeEndpoints,
      Streams (DumpOver (Duration.fromMillis config.drainTimeoutMs)) w b.2) :
    ∃ fuel out w', runPropagation env fuel submitEndpoints subscribeEndpoints config tag w =
      some (out, w') := by
  obtain ⟨fuel, reports, w', hchain, -⟩ := chain_returns
    (fun fuel (pair : Pair) v r v' => ∃ reached,
      runPair env fuel pair.1.1.1 pair.1.1.2 pair.1.2.1 pair.1.2.2 config (UInt32.ofNat pair.2) v =
          some (r, reached) ∧
        v' = reached.logLine (pairReportLine tag r))
    (endpointPairs submitEndpoints subscribeEndpoints) (Consumed w)
    (fun _ _ _ _ _ _ hle hone => by
      obtain ⟨reached, hrun, hlogged⟩ := hone
      exact ⟨reached, runPair_mono hle hrun, hlogged⟩)
    (fun pair hpair v hv => by
      obtain ⟨fuel, r, reached, hrun, hnext⟩ :=
        runPair_returns ((h _ (mem_of_endpointPairs hpair)).consumed hv)
      exact ⟨fuel, r, _, ⟨reached, hrun, rfl⟩,
        (hv.trans hnext).trans (consumed_of_conns (logLine_conns ..))⟩)
    (consumed_of_conns rfl)
  have hloop := (pairLoop_eq_some ..).mpr hchain
  refine ⟨fuel, ?_⟩
  simp only [runPropagation]
  cases config.validate with
  | error e => exact ⟨_, _, rfl⟩
  | ok u =>
      by_cases hsubmit : submitEndpoints = []
      · exact ⟨_, _, if_pos hsubmit⟩
      · by_cases hsubscribe : subscribeEndpoints = []
        · exact ⟨_, _, (if_neg hsubmit).trans (if_pos hsubscribe)⟩
        · refine ⟨.ok reports, w', (if_neg hsubmit).trans ((if_neg hsubscribe).trans ?_)⟩
          exact Option.map_eq_some_iff.mpr ⟨_, hloop, rfl⟩

end Pairs

/-! ## `subscribe` -/

section Reads

variable {env : OpsEnv} {fuel fuel' : Nat} {rpc : Handle} {topic : Bytes32} {idx : Nat}
  {config : SubscribeConfig} {cs : Handle → Prop} {t t' : Instant} {v v' w w' : World}
  {stream : EventStream}

theorem readStream_mono {out : Except String Unit × Duration × Duration} (hle : fuel ≤ fuel')
    (h : readStream fuel topic config stream = some out) :
    readStream fuel' topic config stream = some out := by
  simp only [readStream] at h ⊢
  by_cases hassert : config.assertOnce
  · rw [if_pos hassert] at h ⊢
    obtain ⟨dump, hdump, h⟩ := Option.bind_eq_some_iff.mp h
    refine Option.bind_eq_some_iff.mpr ⟨dump, run_mono hle hdump, ?_⟩
    cases hresult : dump.result with
    | error e =>
        rw [hresult] at h
        exact h
    | ok received =>
        rw [hresult] at h
        obtain ⟨watch, hwatch, heq⟩ := Option.map_eq_some_iff.mp h
        exact Option.map_eq_some_iff.mpr ⟨watch, run_mono hle hwatch, heq⟩
  · rw [if_neg hassert] at h ⊢
    obtain ⟨drain, hdrain, heq⟩ := Option.map_eq_some_iff.mp h
    exact Option.map_eq_some_iff.mpr ⟨drain, run_mono hle hdrain, heq⟩

/-- What a subscription must be for a read of it to end. -/
def ReadEnds (config : SubscribeConfig) (stream : EventStream) : Prop :=
  DumpOver (Duration.fromMillis config.drainTimeoutMs) stream ∧
    (config.assertOnce = true → EventsPause (Duration.fromMillis config.drainTimeoutMs) stream)

theorem readStream_returns (topic : Bytes32) (h : ReadEnds config stream) :
    ∃ fuel out, readStream fuel topic config stream = some out := by
  by_cases hassert : config.assertOnce
  · obtain ⟨fuel, dump, hdump⟩ := collectInitialDump_returns h.1
    cases hresult : dump.result with
    | error e =>
        exact ⟨fuel, _, by
          simp only [readStream, if_pos hassert, hdump, Option.bind_some, hresult]; rfl⟩
    | ok received =>
        obtain ⟨b, -, -, hrest⟩ := collectInitialDump_ok hdump hresult
        obtain ⟨fuel', watch, hwatch⟩ := collectUntilIdle_returns (h.2 hassert) (b + 1)
        rw [← hrest] at hwatch
        have hdump' : collectInitialDump (max fuel fuel') _ stream = some dump :=
          run_mono (Nat.le_max_left ..) hdump
        have hwatch' : collectUntilIdle (max fuel fuel') _ dump.rest = some watch :=
          run_mono (Nat.le_max_right ..) hwatch
        exact ⟨max fuel fuel', _, by
          simp only [readStream, if_pos hassert, hdump', Option.bind_some, hresult, hwatch',
            Option.map_some]; rfl⟩
  · obtain ⟨fuel, drain, hdrain⟩ := drainInitialBatch_returns h.1
    exact ⟨fuel, _, by simp only [readStream, if_neg hassert, hdrain, Option.map_some]; rfl⟩

theorem runRead_mono {out : Read × World} (hle : fuel ≤ fuel')
    (h : runRead fuel rpc topic config w = some out) :
    runRead fuel' rpc topic config w = some out := by
  rw [runRead_eq] at h ⊢
  cases hopen : (subscribeTopic rpc (readFilter topic) w).1 with
  | error e =>
      rw [hopen] at h
      exact h
  | ok stream =>
      rw [hopen] at h
      obtain ⟨read, hread, heq⟩ := Option.map_eq_some_iff.mp h
      exact Option.map_eq_some_iff.mpr ⟨read, readStream_mono hle hread, heq⟩

theorem runRead_returns (h : Streams (ReadEnds config) w rpc) :
    ∃ fuel read w', runRead fuel rpc topic config w = some (read, w') ∧ Consumed w w' := by
  have hsubscribed : Consumed w (subscribeTopic rpc (readFilter topic) w).2 :=
    subscribeTopic_consumed _
  simp only [runRead_eq]
  cases hopen : (subscribeTopic rpc (readFilter topic) w).1 with
  | error e => exact ⟨0, _, _, rfl, hsubscribed⟩
  | ok stream =>
      obtain ⟨fuel, out, hread⟩ := readStream_returns topic (h 0 stream hopen)
      exact ⟨fuel, _, _, Option.map_eq_some_iff.mpr ⟨out, hread, rfl⟩,
        hsubscribed.trans (consumed_of_conns rfl)⟩

theorem runRead_alike {read read' : Read} (halike : Alike cs t t' v v') (hrpc : cs rpc)
    (h : runRead fuel rpc topic config v = some (read, w))
    (h' : runRead fuel rpc topic config v' = some (read', w')) :
    read = read' ∧ Alike cs t t' w w' := by
  obtain ⟨hanswer, hopened⟩ := halike.subscribe hrpc (readFilter topic) (readFilter topic)
  rw [runRead_eq] at h h'
  rw [hanswer] at h
  cases hopen : (subscribeTopic rpc (readFilter topic) v').1 with
  | error e =>
      rw [hopen] at h h'
      obtain ⟨rfl, rfl⟩ := Prod.mk.inj (Option.some.inj h)
      obtain ⟨rfl, rfl⟩ := Prod.mk.inj (Option.some.inj h')
      exact ⟨congrArg _ (halike.elapsed hopened), hopened⟩
  | ok stream =>
      rw [hopen] at h h'
      obtain ⟨out, hout, heq⟩ := Option.map_eq_some_iff.mp h
      obtain ⟨out', hout', heq'⟩ := Option.map_eq_some_iff.mp h'
      obtain rfl := Option.some.inj (hout.symm.trans hout')
      obtain ⟨rfl, rfl⟩ := Prod.mk.inj heq
      obtain ⟨rfl, rfl⟩ := Prod.mk.inj heq'
      exact ⟨congrArg _ (halike.elapsed (hopened.wait _)), hopened.wait _⟩

theorem seedEndpoint_consumed : Consumed w (seedEndpoint env config rpc idx w).2 := by
  rw [seedEndpoint_eq]
  split
  · exact consumed_of_conns rfl
  · exact submitStatement_consumed _

theorem seedEndpoint_alike (env : OpsEnv) (config : SubscribeConfig) (idx : Nat)
    (h : Alike cs t t' v v') (hrpc : cs rpc) :
    (seedEndpoint env config rpc idx v).1 = (seedEndpoint env config rpc idx v').1 ∧
      Alike cs t t' (seedEndpoint env config rpc idx v).2
        (seedEndpoint env config rpc idx v').2 := by
  rw [seedEndpoint_eq, seedEndpoint_eq]
  by_cases hpinned : config.topicOverride.isSome
  · rw [if_pos hpinned, if_pos hpinned]
    exact ⟨rfl, h⟩
  · rw [if_neg hpinned, if_neg hpinned]
    obtain ⟨hanswer, hafter⟩ := h.submit hrpc (seedStatement env config idx v.now)
      (seedStatement env config idx v'.now)
    exact ⟨congrArg seedOutcome hanswer, hafter⟩

end Reads

/-! ### Endpoints -/

section Endpoints

variable {env : OpsEnv} {fuel fuel' : Nat} {endpoint : String} {rpc : Handle} {idx : Nat}
  {config : SubscribeConfig} {cs : Handle → Prop} {t t' : Instant} {v v' w w' : World}

theorem logSeed_now (topic : Bytes32) (status : SeedStatus) :
    (w.logSeed endpoint topic status).now = w.now := by
  unfold World.logSeed
  split <;> rfl

theorem Alike.settle (h : Alike cs t t' v v') (status : SeedStatus) :
    Alike cs t t' (settle env endpoint config idx status v)
      (StatementStore.settle env endpoint config idx status v') := by
  have hlogged : Alike cs t t' (v.logSeed endpoint (readTopic env config idx) status)
      (v'.logSeed endpoint (readTopic env config idx) status) := by
    refine ⟨fun c hc => ?_, ?_⟩
    · rw [logSeed_conns, logSeed_conns, h.conns c hc]
    · rw [logSeed_now, logSeed_now, h.now]
  unfold StatementStore.settle
  split
  · exact hlogged.wait _
  · exact hlogged

theorem runReads_mono {topic : Bytes32} {out : ReadTally × World} (hle : fuel ≤ fuel')
    (h : runReads fuel rpc topic config w = some out) :
    runReads fuel' rpc topic config w = some out := by
  obtain ⟨reads, hchain, htally⟩ := runReads_eq_some.mp h
  exact runReads_eq_some.mpr
    ⟨reads, hchain.imp fun _ v read v' hone => runRead_mono hle hone, htally⟩

theorem runReads_returns {topic : Bytes32} (h : Streams (ReadEnds config) w rpc) :
    ∃ fuel tally w', runReads fuel rpc topic config w = some (tally, w') ∧ Consumed w w' := by
  obtain ⟨fuel, reads, u, hchain, hconsumed⟩ := chain_returns
    (fun fuel (_ : Nat) v read v' => runRead fuel rpc topic config v = some (read, v'))
    (List.range config.readsPerNode.toNat) (Consumed w)
    (fun _ _ _ _ _ _ hle hone => runRead_mono hle hone)
    (fun _ _ v hv => by
      obtain ⟨fuel, read, v', hone, hnext⟩ := runRead_returns (h.consumed hv)
      exact ⟨fuel, read, v', hone, hv.trans hnext⟩)
    (consumed_of_conns rfl)
  exact ⟨fuel, _, u, runReads_eq_some.mpr ⟨reads, hchain, rfl⟩, hconsumed⟩

theorem runSubscribeOnEndpoint_mono {out : SubscribeEndpointReport × World} (hle : fuel ≤ fuel')
    (h : runSubscribeOnEndpoint env fuel endpoint rpc config (UInt32.ofNat idx) w = some out) :
    runSubscribeOnEndpoint env fuel' endpoint rpc config (UInt32.ofNat idx) w = some out := by
  rw [runSubscribeOnEndpoint_eq] at h ⊢
  cases hseed : (seedEndpoint env config rpc idx w).1 with
  | error e =>
      rw [hseed] at h
      exact h
  | ok status =>
      rw [hseed] at h
      obtain ⟨read, hreads, heq⟩ := Option.map_eq_some_iff.mp h
      exact Option.map_eq_some_iff.mpr ⟨read, runReads_mono hle hreads, heq⟩

theorem runSubscribeOnEndpoint_returns (h : Streams (ReadEnds config) w rpc) :
    ∃ fuel r w', runSubscribeOnEndpoint env fuel endpoint rpc config (UInt32.ofNat idx) w =
      some (r, w') ∧ Consumed w w' := by
  have hseeded : Consumed w (seedEndpoint env config rpc idx w).2 := seedEndpoint_consumed
  simp only [runSubscribeOnEndpoint_eq]
  cases hseed : (seedEndpoint env config rpc idx w).1 with
  | error e => exact ⟨0, _, _, rfl, hseeded⟩
  | ok status =>
      have hsettled : Consumed w (settle env endpoint config idx status
          (seedEndpoint env config rpc idx w).2) :=
        hseeded.trans (consumed_of_conns (settle_conns status))
      obtain ⟨fuel, tally, w', hreads, hconsumed⟩ := runReads_returns (h.consumed hsettled)
      exact ⟨fuel, _, _, Option.map_eq_some_iff.mpr ⟨_, hreads, rfl⟩, hsettled.trans hconsumed⟩

/-- An endpoint is reported by the answers of its connection alone. -/
theorem runSubscribeOnEndpoint_determined {r r' : SubscribeEndpointReport}
    (hconn : v.conns rpc = v'.conns rpc)
    (h : runSubscribeOnEndpoint env fuel endpoint rpc config (UInt32.ofNat idx) v = some (r, w))
    (h' : runSubscribeOnEndpoint env fuel' endpoint rpc config (UInt32.ofNat idx) v' =
      some (r', w')) : r = r' := by
  have hstart : Alike (· = rpc) v.now v'.now v v' := alike_start fun c hc => by rw [hc, hconn]
  obtain ⟨hanswer, hseeded⟩ := seedEndpoint_alike env config idx hstart rfl
  have hleft := runSubscribeOnEndpoint_mono (Nat.le_max_left fuel fuel') h
  have hright := runSubscribeOnEndpoint_mono (Nat.le_max_right fuel fuel') h'
  rw [runSubscribeOnEndpoint_eq] at hleft hright
  rw [hanswer] at hleft
  cases hseed : (seedEndpoint env config rpc idx v').1 with
  | error e =>
      rw [hseed] at hleft hright
      obtain ⟨rfl, -⟩ := Prod.mk.inj (Option.some.inj hleft)
      exact (Prod.mk.inj (Option.some.inj hright)).1
  | ok status =>
      rw [hseed] at hleft hright
      obtain ⟨⟨tally, u⟩, hreads, heq⟩ := Option.map_eq_some_iff.mp hleft
      obtain ⟨⟨tally', u'⟩, hreads', heq'⟩ := Option.map_eq_some_iff.mp hright
      obtain ⟨reads, hchain, rfl⟩ := runReads_eq_some.mp hreads
      obtain ⟨reads', hchain', rfl⟩ := runReads_eq_some.mp hreads'
      have hsame := hchain.determined _ hchain' (hseeded.settle status)
        fun _ s read t s' read' t' halike hone hone' => runRead_alike halike rfl hone hone'
      rw [hsame.1] at heq
      exact (Prod.mk.inj heq).1.symm.trans (Prod.mk.inj heq').1

/-- **`subscribe` returns**, unless a dump or a watch goes on for ever. -/
theorem runSubscribe_returns (env : OpsEnv) (endpoints : List (String × Handle))
    (config : SubscribeConfig) (tag : String) (w : World)
    (h : ∀ entry ∈ endpoints, Streams (ReadEnds config) w entry.2) :
    ∃ fuel out w', runSubscribe env fuel endpoints config tag w = some (out, w') := by
  obtain ⟨fuel, reports, w', hchain, -⟩ := chain_returns
    (fun fuel (entry : (String × Handle) × Nat) v r v' => ∃ reached,
      runSubscribeOnEndpoint env fuel entry.1.1 entry.1.2 config (UInt32.ofNat entry.2) v =
          some (r, reached) ∧
        v' = reached.logLine (subscribeReportLine tag r))
    endpoints.zipIdx (Consumed w)
    (fun _ _ _ _ _ _ hle hone => by
      obtain ⟨reached, hrun, hlogged⟩ := hone
      exact ⟨reached, runSubscribeOnEndpoint_mono hle hrun, hlogged⟩)
    (fun entry hentry v hv => by
      obtain ⟨fuel, r, reached, hrun, hnext⟩ :=
        runSubscribeOnEndpoint_returns ((h _ (List.fst_mem_of_mem_zipIdx hentry)).consumed hv)
      exact ⟨fuel, r, _, ⟨reached, hrun, rfl⟩,
        (hv.trans hnext).trans (consumed_of_conns (logLine_conns ..))⟩)
    (consumed_of_conns rfl)
  refine ⟨fuel, ?_⟩
  simp only [runSubscribe]
  cases config.validate with
  | error e => exact ⟨_, _, rfl⟩
  | ok u =>
      exact ⟨.ok reports, w',
        Option.map_eq_some_iff.mpr ⟨_, (readLoop_eq_some ..).mpr hchain, rfl⟩⟩

end Endpoints

/-! ## The three phases -/

/-- A report depends on nothing but the answers of its own connections. -/
structure ReportsDetermined (env : OpsEnv) : Prop where
  submit : ∀ endpoint rpc config v v', v.conns rpc = v'.conns rpc →
    (runSubmitOnEndpoint env endpoint rpc config v).1 =
      (runSubmitOnEndpoint env endpoint rpc config v').1
  propagation : ∀ fuel fuel' submitEndpoint submitRpc subscribeEndpoint subscribeRpc config
    scopeIdx v v' r r' w w', v.conns submitRpc = v'.conns submitRpc →
    v.conns subscribeRpc = v'.conns subscribeRpc →
    runPair env fuel submitEndpoint submitRpc subscribeEndpoint subscribeRpc config scopeIdx v =
      some (r, w) →
    runPair env fuel' submitEndpoint submitRpc subscribeEndpoint subscribeRpc config scopeIdx v' =
      some (r', w') → r = r'
  subscribe : ∀ fuel fuel' endpoint rpc config idx v v' r r' w w', v.conns rpc = v'.conns rpc →
    runSubscribeOnEndpoint env fuel endpoint rpc config (UInt32.ofNat idx) v = some (r, w) →
    runSubscribeOnEndpoint env fuel' endpoint rpc config (UInt32.ofNat idx) v' = some (r', w') →
    r = r'

/-- **The accounts of the three phases.**  Every endpoint of `submit`, every
pair of `propagation` and every endpoint of `subscribe` is reported, in order,
and its report accounts for every attempt.  The phases return unless a dump, or
the watch of `--assert-once`, goes on for ever. -/
theorem phase_reports_account (env : OpsEnv) (tag : String) (w : World) :
    (∀ endpoints (config : SubmitConfig), config.validate = .ok () →
      config.iterations.toNat * config.iterationBatch.toNat < 2 ^ 32 →
      ∃ reports w', runSubmit env endpoints config tag w = (.ok reports, w') ∧
        reports.map (·.endpoint) = endpoints.map (·.1) ∧
        Chain (SubmitAccounted config) endpoints w reports w') ∧
    (∀ submitEndpoints subscribeEndpoints (config : PropagationConfig),
      config.validate = .ok () →
      (∀ fuel out w',
        runPropagation env fuel submitEndpoints subscribeEndpoints config tag w = some (out, w') →
        ∃ reports,
          (submitEndpoints ≠ [] → subscribeEndpoints ≠ [] → out = .ok reports) ∧
          (submitEndpoints = [] ∨ subscribeEndpoints = [] → ∃ e, out = .error e) ∧
          reports.length = submitEndpoints.length * subscribeEndpoints.length ∧
          reports.map (fun r => (r.submitEndpoint, r.subscribeEndpoint)) =
            (submitEndpoints.flatMap fun s => subscribeEndpoints.map fun b => (s.1, b.1)) ∧
          Chain (PairReported env fuel config tag)
            (endpointPairs submitEndpoints subscribeEndpoints) w reports w') ∧
      ((∀ b ∈ subscribeEndpoints,
          Streams (DumpOver (Duration.fromMillis config.drainTimeoutMs)) w b.2) →
        ∃ fuel out w', runPropagation env fuel submitEndpoints subscribeEndpoints config tag w =
          some (out, w'))) ∧
    (∀ endpoints (config : SubscribeConfig), config.validate = .ok () →
      (∀ fuel out w', runSubscribe env fuel endpoints config tag w = some (out, w') →
        ∃ reports, out = .ok reports ∧ reports.map (·.endpoint) = endpoints.map (·.1) ∧
          Chain (SubscribeReported env fuel config tag) endpoints.zipIdx w reports w') ∧
      ((∀ entry ∈ endpoints, Streams (ReadEnds config) w entry.2) →
        ∃ fuel out w', runSubscribe env fuel endpoints config tag w = some (out, w'))) ∧
    ReportsDetermined env := by
  refine ⟨?_, ?_, ?_, ?_⟩
  · exact fun endpoints config hvalid hfit => runSubmit_accounted hvalid hfit endpoints tag w
  · exact fun submitEndpoints subscribeEndpoints config hvalid =>
      ⟨fun fuel out w' h => runPropagation_accounted hvalid h,
        runPropagation_returns env submitEndpoints subscribeEndpoints config tag w⟩
  · exact fun endpoints config hvalid =>
      ⟨fun fuel out w' h => runSubscribe_accounted hvalid h,
        runSubscribe_returns env endpoints config tag w⟩
  · exact ⟨fun _ _ _ _ _ h => runSubmitOnEndpoint_determined h,
      fun _ _ _ _ _ _ _ _ _ _ _ _ _ _ hsubmit hsubscribe h h' =>
        runPair_determined hsubmit hsubscribe h h',
      fun _ _ _ _ _ _ _ _ _ _ _ _ hconn h h' => runSubscribeOnEndpoint_determined hconn h h'⟩

theorem phase_reports_account_cycle :
    (∃ reports w', runSubmit cycleEnv [("ws://a", 0)] ⟨2, 1, 1, 600, 7, none⟩ "" cycleWorld =
        (.ok reports, w') ∧ reports.map (·.endpoint) = ["ws://a"]) ∧
    (∃ fuel out w' reports, runPropagation cycleEnv fuel [("ws://a", 0)] [("ws://b", 1)]
        ⟨2, 1, 600, 7, 500, 500, none⟩ "" cycleWorld = some (out, w') ∧ out = .ok reports ∧
      reports.length = 1) ∧
    ∃ fuel out w' reports, runSubscribe cycleEnv fuel [("ws://a", 0), ("ws://b", 1)]
        ⟨2, 1, 600, 7, 0, 500, none, false⟩ "" cycleWorld = some (out, w') ∧ out = .ok reports ∧
      reports.map (·.endpoint) = ["ws://a", "ws://b"] := by
  have hover : ∀ window c, Streams (DumpOver window) cycleWorld c := by
    intro window c k stream hopen
    obtain rfl := Except.ok.inj hopen
    refine ⟨0, fun hgiven => ?_⟩
    obtain ⟨ev, hev, hgo⟩ := hgiven
    obtain rfl : StatementEvent.newStatements [] none = ev := Except.ok.inj (Next.item.inj hev)
    cases hgo
  obtain ⟨hsubmit, hpropagation, hsubscribe, -⟩ := phase_reports_account cycleEnv "" cycleWorld
  refine ⟨?_, ?_, ?_⟩
  · obtain ⟨reports, w', hrun, hnames, -⟩ :=
      hsubmit [("ws://a", 0)] ⟨2, 1, 1, 600, 7, none⟩ rfl (by decide)
    exact ⟨reports, w', hrun, hnames⟩
  · obtain ⟨haccounts, hreturns⟩ := hpropagation [("ws://a", 0)] [("ws://b", 1)]
      ⟨2, 1, 600, 7, 500, 500, none⟩ rfl
    obtain ⟨fuel, out, w', hrun⟩ := hreturns fun b _ => hover _ b.2
    obtain ⟨reports, hok, -, hlength, -⟩ := haccounts fuel out w' hrun
    exact ⟨fuel, out, w', reports, hrun, hok (by simp) (by simp), hlength⟩
  · obtain ⟨haccounts, hreturns⟩ := hsubscribe [("ws://a", 0), ("ws://b", 1)]
      ⟨2, 1, 600, 7, 0, 500, none, false⟩ rfl
    obtain ⟨fuel, out, w', hrun⟩ := hreturns fun entry _ k stream hopen =>
      ⟨hover _ entry.2 k stream hopen, fun hassert => by cases hassert⟩
    obtain ⟨reports, hok, hnames, -⟩ := haccounts fuel out w' hrun
    exact ⟨fuel, out, w', reports, hrun, hok, hnames⟩

end StatementStore
