import StatementStoreTools.PropagationMatching
import StatementStoreTools.SubmitExpiry

/-!
# Whether a statement is fresh when it is submitted

`submit` and `propagation` read the clock once, when an endpoint or a pair
begins; statement `i` expires `base_expiry_secs + i` seconds after that
reading.  Meanwhile every iteration takes its time, so a long run falls behind
its own expiries.

`submissions_fresh_iff`: the statements of an endpoint or a pair are fresh
exactly as long as the clock has advanced by less than that when their turn
comes.
-/

namespace StatementStore

open SplitWords TimedStreams

/-- A statement submitted at `now` expires later. -/
def FreshAt (clock : Clock) (now : Instant) (s : Statement) : Prop :=
  secondsAt clock now < s.expirationTimestampSecs.toNat

/-- Every statement is fresh when it is submitted. -/
def AllFresh (clock : Clock) (calls : List Call) : Prop :=
  ∀ conn now s, .submit conn now s ∈ calls → FreshAt clock now s

section Phases

variable {env : OpsEnv} {fuel : Nat} {w w' : World} {new : List Call}

/-- The timestamp of a statement with the running index `idx`, when nothing
overflows. -/
theorem phaseTimestamp_toNat {offset : UInt64} {idx : UInt32}
    (h : secondsAt env.clock w.now + offset.toNat + idx.toNat < 2 ^ 32) :
    (saturatingAdd32 (expirySecondsFromNow env.clock w.now offset) idx).toNat =
      secondsAt env.clock w.now + offset.toNat + idx.toNat := by
  rw [saturatingAdd32_toNat, expirySecondsFromNow_of_lt (by omega)]
  omega

/-! ## `submit` -/

section Submit

variable {endpoint : String} {rpc : Handle} {config : SubmitConfig}

theorem mem_batchCalls {b : Nat} {conn : Handle} {now : Instant} {s : Statement} :
    .submit conn now s ∈ batchCalls env endpoint rpc config w b ↔
      conn = rpc ∧ now = (afterBatches env endpoint rpc config w b).2.now ∧
        ∃ sub < config.iterationBatch.toNat, s = submitStatementAt env config endpoint
          (expirySecondsFromNow env.clock w.now config.baseExpirySecs)
          (UInt32.ofNat b * config.iterationBatch + UInt32.ofNat sub) := by
  simp only [batchCalls, batchStatements, List.mem_map, List.mem_range]
  constructor
  · intro hgiven
    obtain ⟨_, ⟨sub, hsub, rfl⟩, heq⟩ := hgiven
    cases heq
    exact ⟨rfl, rfl, sub, hsub, rfl⟩
  · intro hgiven
    obtain ⟨rfl, rfl, sub, hsub, rfl⟩ := hgiven
    exact ⟨_, ⟨sub, hsub, rfl⟩, rfl⟩

/-- The running index, as a number. -/
theorem submitIdx_toNat {iterations batch : UInt32} {b sub : Nat} (hb : b < iterations.toNat)
    (hsub : sub < batch.toNat) (hfit : iterations.toNat * batch.toNat ≤ 2 ^ 32) :
    (UInt32.ofNat b * batch + UInt32.ofNat sub).toNat = b * batch.toNat + sub ∧
      b * batch.toNat + sub < iterations.toNat * batch.toNat := by
  have hnext : (b + 1) * batch.toNat ≤ iterations.toNat * batch.toNat := Nat.mul_le_mul_right _ hb
  rw [Nat.succ_mul] at hnext
  have hidx : UInt32.ofNat b * batch + UInt32.ofNat sub =
      UInt32.ofNat (b * batch.toNat + sub) := by
    simp [UInt32.ofNat_add, UInt32.ofNat_mul]
  rw [hidx, UInt32.toNat_ofNat_of_lt' (show b * batch.toNat + sub < 2 ^ 32 by omega)]
  exact ⟨rfl, by omega⟩

/-- **One endpoint.**  Its statements are fresh exactly when each batch starts
soon enough. -/
theorem submit_fresh_iff (hvalid : config.validate = .ok ())
    (hfit : secondsAt env.clock w.now + config.baseExpirySecs.toNat +
      config.iterations.toNat * config.iterationBatch.toNat ≤ 2 ^ 32)
    (hnew : (runSubmitOnEndpoint env endpoint rpc config w).2.calls = w.calls ++ new) :
    AllFresh env.clock new ↔ ∀ b < config.iterations.toNat,
      secondsAt env.clock (afterBatches env endpoint rpc config w b).2.now <
        secondsAt env.clock w.now + config.baseExpirySecs.toNat +
          b * config.iterationBatch.toNat := by
  have hextends : Extends w (runSubmitOnEndpoint env endpoint rpc config w).2
      ((List.range config.iterations.toNat).flatMap (batchCalls env endpoint rpc config w)) :=
    afterBatches_extends config.iterations.toNat
  obtain rfl := List.append_cancel_left (hnew.symm.trans hextends.calls)
  have hstamp : ∀ b < config.iterations.toNat, ∀ sub < config.iterationBatch.toNat,
      (submitStatementAt env config endpoint
        (expirySecondsFromNow env.clock w.now config.baseExpirySecs)
        (UInt32.ofNat b * config.iterationBatch + UInt32.ofNat sub)).expirationTimestampSecs.toNat =
      secondsAt env.clock w.now + config.baseExpirySecs.toNat +
        (b * config.iterationBatch.toNat + sub) := by
    intro b hb sub hsub
    obtain ⟨hidx, hlt⟩ := submitIdx_toNat hb hsub (by omega)
    rw [expirationTimestampSecs_of_expiry (submitStatementAt_expiry ..),
      phaseTimestamp_toNat (by omega), hidx]
  have hbatch := UInt32.lt_iff_toNat_lt.mp (SubmitConfig.validate_ok.mp hvalid).2.1
  constructor
  · intro hfresh b hb
    have hfirst := hfresh rpc _ _ (List.mem_flatMap.mpr ⟨b, List.mem_range.mpr hb,
      mem_batchCalls.mpr ⟨rfl, rfl, 0, hbatch, rfl⟩⟩)
    rw [FreshAt, hstamp b hb 0 hbatch] at hfirst
    omega
  · intro hsoon conn now s hmem
    obtain ⟨b, hb, hcall⟩ := List.mem_flatMap.mp hmem
    have hb' := List.mem_range.mp hb
    obtain ⟨-, rfl, sub, hsub, rfl⟩ := mem_batchCalls.mp hcall
    rw [FreshAt, hstamp b hb' sub hsub]
    have := hsoon b hb'
    omega

end Submit

/-! ## `propagation` -/

section Propagation

variable {submitRpc subscribeRpc : Handle} {config : PropagationConfig} {scopeIdx : UInt32}

/-- The iteration that starts in `v` comes to its submission at `now`: the
subscription opens, and its initial dump ends and does not stand in the way. -/
def SubmitsAt (fuel : Nat) (config : PropagationConfig) (subscribeRpc : Handle) (v : World)
    (now : Instant) : Prop :=
  ∃ stream drain drained, (v.conns subscribeRpc).subscriptions.head.2 = .ok stream ∧
    drainInitialBatch fuel (Duration.fromMillis config.drainTimeoutMs) stream = some drain ∧
    drain.result = .ok drained ∧ (config.topicOverride = none → drained = 0) ∧
    now = v.now + (v.conns subscribeRpc).subscriptions.head.1 + drain.spent

/-- There is one stream to open, and one drain of it. -/
theorem SubmitsAt.drained {stream : EventStream} {now : Instant}
    {drain : Reading (Except String StatementEvent) (Except String Nat)}
    (h : SubmitsAt fuel config subscribeRpc w now)
    (hopen : (w.conns subscribeRpc).subscriptions.head.2 = .ok stream)
    (hdrain : drainInitialBatch fuel (Duration.fromMillis config.drainTimeoutMs) stream =
      some drain) :
    ∃ drained, drain.result = .ok drained ∧ (config.topicOverride = none → drained = 0) ∧
      now = w.now + (w.conns subscribeRpc).subscriptions.head.1 + drain.spent := by
  obtain ⟨stream', drain', drained, hopen', hdrain', hresult, hempty, hnow⟩ := h
  obtain rfl := Except.ok.inj (hopen.symm.trans hopen')
  obtain rfl := Option.some.inj (hdrain.symm.trans hdrain')
  exact ⟨drained, hresult, hempty, hnow⟩

/-- What one iteration submits, and when. -/
theorem runSingleIteration_submits {topic channel : Bytes32} {expiryTs seq : UInt32}
    {data : Bytes} {timing : IterationTiming}
    (h : runSingleIteration env fuel submitRpc subscribeRpc topic channel expiryTs seq data config
      w = some (timing, w')) :
    ∃ new, Extends w w' new ∧ ∀ conn now s, .submit conn now s ∈ new ↔
      SubmitsAt fuel config subscribeRpc w now ∧ conn = submitRpc ∧
        s = buildStatement env.keypair topic channel expiryTs seq data := by
  have hextends := subscribeTopic_extends subscribeRpc (matchAnyOf topic) w
  have hnone : ∀ conn now s,
      .submit conn now s ∉ [Call.subscribe subscribeRpc w.now (matchAnyOf topic)] := by simp
  cases runSingleIteration_cases h with
  | refused hopen =>
      refine ⟨_, hextends, fun conn now s => iff_of_false (hnone conn now s) ?_⟩
      intro hgiven
      obtain ⟨⟨stream, drain, drained, hstream, -⟩, -⟩ := hgiven
      cases hopen.symm.trans hstream
  | @stopped stream drain e hopen hdrain hwhy =>
      refine ⟨_, hextends.wait drain.spent, fun conn now s => iff_of_false (hnone conn now s) ?_⟩
      intro hgiven
      obtain ⟨hat, -⟩ := hgiven
      obtain ⟨drained, hresult, hempty, -⟩ := hat.drained hopen hdrain
      obtain ⟨hplain, hne⟩ := hwhy drained hresult
      exact hne (hempty hplain)
  | @submits stream drain drained hopen hdrain hresult hempty _ _ hrun =>
      have hmeasured := submitAndReceive_measured submitRpc
        (buildStatement env.keypair topic channel expiryTs seq data)
        (Duration.fromMillis config.receiveTimeoutMs) drain.rest
        ((subscribeTopic subscribeRpc (matchAnyOf topic) w).2.wait drain.spent)
      rw [hrun] at hmeasured
      refine ⟨_, (hextends.wait drain.spent).trans ⟨hmeasured.calls, hmeasured.now_le⟩,
        fun conn now s => ?_⟩
      rw [List.mem_append, or_iff_right (hnone conn now s), List.mem_singleton]
      constructor
      · intro heq
        cases heq
        exact ⟨⟨stream, drain, drained, hopen, hdrain, hresult, hempty, rfl⟩, rfl, rfl⟩
      · intro hgiven
        obtain ⟨hat, rfl, rfl⟩ := hgiven
        obtain ⟨-, -, -, rfl⟩ := hat.drained hopen hdrain
        rfl

/-- What the first `n` iterations of a pair submit, and when. -/
theorem runIterations_submits {state : PairState} {n : Nat} (hn : n ≤ config.iterations.toNat)
    (h : runIterations env fuel submitRpc subscribeRpc config scopeIdx
      (expirySecondsFromNow env.clock w.now config.baseExpirySecs) n w = some state) :
    ∃ new, Extends w state.2 new ∧ ∀ conn now s, .submit conn now s ∈ new ↔
      conn = submitRpc ∧ ∃ i < n, s = iterationStatement env config scopeIdx w i ∧
        ∃ before after,
          IterationAt env fuel submitRpc subscribeRpc config scopeIdx w i before after ∧
            SubmitsAt fuel config subscribeRpc before.2 now := by
  induction n generalizing state with
  | zero =>
      obtain rfl := Option.some.inj h
      exact ⟨[], Extends.refl w, fun conn now s => by simp⟩
  | succ n ih =>
      obtain ⟨before, timing, hbefore, hone, -⟩ := runIterations_snoc h
      obtain ⟨new, hnew, hcalls⟩ := ih (Nat.le_of_succ_le hn) hbefore
      obtain ⟨more, hmore, hlast⟩ := runSingleIteration_submits hone
      refine ⟨new ++ more, hnew.trans hmore, fun conn now s => ?_⟩
      rw [List.mem_append, hcalls, hlast]
      constructor
      · intro hgiven
        rcases hgiven with ⟨hconn, i, hi, hrest⟩ | ⟨hat, hconn, hs⟩
        · exact ⟨hconn, i, Nat.lt_succ_of_lt hi, hrest⟩
        · exact ⟨hconn, n, Nat.lt_succ_self n, hs, before, state, ⟨hn, hbefore, h⟩, hat⟩
      · intro hgiven
        obtain ⟨hconn, i, hi, hs, before', after, hiter, hat⟩ := hgiven
        rcases Nat.lt_succ_iff_lt_or_eq.mp hi with hlt | rfl
        · exact Or.inl ⟨hconn, i, hlt, hs, before', after, hiter, hat⟩
        · obtain rfl := Option.some.inj (hbefore.symm.trans hiter.2.1)
          exact Or.inr ⟨hat, hconn, hs⟩

/-- The timestamp of iteration `i`. -/
theorem iterationStatement_timestamp {i : Nat}
    (hfit : secondsAt env.clock w.now + config.baseExpirySecs.toNat + i < 2 ^ 32) :
    (iterationStatement env config scopeIdx w i).expirationTimestampSecs.toNat =
      secondsAt env.clock w.now + config.baseExpirySecs.toNat + i := by
  have hidx : (UInt32.ofNat i).toNat = i := UInt32.toNat_ofNat_of_lt' (show i < 2 ^ 32 by omega)
  have hexpiry : (iterationStatement env config scopeIdx w i).expiry =
      pack (saturatingAdd32 (expirySecondsFromNow env.clock w.now config.baseExpirySecs)
        (UInt32.ofNat i)) (UInt32.ofNat i) := buildStatement_expiry ..
  rw [expirationTimestampSecs_of_expiry hexpiry, phaseTimestamp_toNat (by omega), hidx]

/-- **One pair.**  Its statements are fresh exactly when each iteration comes to
its submission soon enough. -/
theorem pair_fresh_iff {submitEndpoint subscribeEndpoint : String} {report : PropagationPairReport}
    (hfit : secondsAt env.clock w.now + config.baseExpirySecs.toNat +
      config.iterations.toNat ≤ 2 ^ 32)
    (h : runPair env fuel submitEndpoint submitRpc subscribeEndpoint subscribeRpc config scopeIdx
      w = some (report, w'))
    (hnew : w'.calls = w.calls ++ new) :
    AllFresh env.clock new ↔ ∀ i before after now,
      IterationAt env fuel submitRpc subscribeRpc config scopeIdx w i before after →
      SubmitsAt fuel config subscribeRpc before.2 now →
      secondsAt env.clock now <
        secondsAt env.clock w.now + config.baseExpirySecs.toNat + i := by
  simp only [runPair] at h
  obtain ⟨state, hruns, heq⟩ := Option.map_eq_some_iff.mp h
  obtain ⟨-, rfl⟩ := Prod.mk.inj heq
  obtain ⟨calls, hextends, hcalls⟩ := runIterations_submits (Nat.le_refl _) hruns
  obtain rfl := List.append_cancel_left (hnew.symm.trans hextends.calls)
  constructor
  · intro hfresh i before after now hiter hat
    have hi := hiter.1
    have hone := hfresh _ _ _ ((hcalls submitRpc now _).mpr
      ⟨rfl, i, hi, rfl, before, after, hiter, hat⟩)
    rwa [FreshAt, iterationStatement_timestamp (by omega)] at hone
  · intro hsoon conn now s hmem
    obtain ⟨-, i, hi, rfl, before, after, hiter, hat⟩ := (hcalls conn now s).mp hmem
    rw [FreshAt, iterationStatement_timestamp (by omega)]
    exact hsoon i before after now hiter hat

end Propagation

end Phases

/-- **When all submissions are fresh.**  For an endpoint of `submit`: when the
clock, since the endpoint began, has advanced by less than the offset plus the
running index each time a batch starts.  For a pair of `propagation`: the same
each time an iteration comes to its submission. -/
theorem submissions_fresh_iff (env : OpsEnv) (w : World) :
    (∀ endpoint rpc (config : SubmitConfig) new, config.validate = .ok () →
      secondsAt env.clock w.now + config.baseExpirySecs.toNat +
        config.iterations.toNat * config.iterationBatch.toNat ≤ 2 ^ 32 →
      (runSubmitOnEndpoint env endpoint rpc config w).2.calls = w.calls ++ new →
      (AllFresh env.clock new ↔ ∀ b < config.iterations.toNat,
        secondsAt env.clock (afterBatches env endpoint rpc config w b).2.now <
          secondsAt env.clock w.now + config.baseExpirySecs.toNat +
            b * config.iterationBatch.toNat)) ∧
    ∀ fuel submitEndpoint submitRpc subscribeEndpoint subscribeRpc (config : PropagationConfig)
      scopeIdx report w' new, config.validate = .ok () →
      secondsAt env.clock w.now + config.baseExpirySecs.toNat + config.iterations.toNat ≤ 2 ^ 32 →
      runPair env fuel submitEndpoint submitRpc subscribeEndpoint subscribeRpc config scopeIdx
        w = some (report, w') →
      w'.calls = w.calls ++ new →
      (AllFresh env.clock new ↔ ∀ i before after now,
        IterationAt env fuel submitRpc subscribeRpc config scopeIdx w i before after →
        SubmitsAt fuel config subscribeRpc before.2 now →
        secondsAt env.clock now <
          secondsAt env.clock w.now + config.baseExpirySecs.toNat + i) :=
  ⟨fun _ _ _ _ hvalid hfit hnew => submit_fresh_iff hvalid hfit hnew,
    fun _ _ _ _ _ _ _ _ _ _ _ hfit hrun hnew => pair_fresh_iff hfit hrun hnew⟩

/-- A system clock that goes with the monotonic one. -/
def runningEnv : OpsEnv := { cycleEnv with clock := fun now => 1700000000000000000 + now }

/-- Every submission takes five seconds. -/
def slowWorld : World :=
  { cycleWorld with conns := fun rpc =>
    { cycleWorld.conns rpc with submits := Stream'.const (5000000000, .ok .new) } }

theorem submissions_fresh_iff_tenMinutes :
    AllFresh runningEnv.clock
      (runSubmitOnEndpoint runningEnv "ws://a" 0 ⟨3, 1, 1, 600, 7, none⟩ slowWorld).2.calls ∧
    ∃ report w', runPair { cycleEnv with clock := fixedClock } 1 "ws://a" 0 "ws://b" 1
        ⟨2, 1, 600, 7, 500, 500, none⟩ 0 slowWorld = some (report, w') ∧
      AllFresh fixedClock w'.calls := by
  refine ⟨((submissions_fresh_iff runningEnv slowWorld).1 "ws://a" 0
    ⟨3, 1, 1, 600, 7, none⟩ _ rfl (by decide) rfl).mpr ?_, ?_⟩
  · intro b hb
    have hb' : b < 3 := hb
    interval_cases b
    · decide
    · decide
    · decide
  · obtain ⟨report, w', hrun⟩ : ∃ report w',
        runPair { cycleEnv with clock := fixedClock } 1 "ws://a" 0 "ws://b" 1
          ⟨2, 1, 600, 7, 500, 500, none⟩ 0 slowWorld = some (report, w') := ⟨_, _, rfl⟩
    refine ⟨report, w', hrun,
      ((submissions_fresh_iff { cycleEnv with clock := fixedClock } slowWorld).2 _ _ _ _ _ _ _ _
        _ _ rfl (by decide) hrun rfl).mpr ?_⟩
    intro i before after now _ _
    -- the clock stands still, so the offset alone is enough
    have hstill : secondsAt fixedClock now = secondsAt fixedClock slowWorld.now := rfl
    have hoffset : (600 : UInt64).toNat = 600 := rfl
    change secondsAt fixedClock now <
      secondsAt fixedClock slowWorld.now + (600 : UInt64).toNat + i
    rw [hstill, hoffset]
    omega

/-- **Expired on arrival.**  With an offset of one second and submissions of
five seconds, the second statement has expired when it is submitted, to an
endpoint and in a pair. -/
theorem second_statement_expired :
    (SubmitConfig.mk 2 1 1 1 7 none).validate = .ok () ∧
    ¬ AllFresh runningEnv.clock
      (runSubmitOnEndpoint runningEnv "ws://a" 0 ⟨2, 1, 1, 1, 7, none⟩ slowWorld).2.calls ∧
    (PropagationConfig.mk 2 1 1 7 500 500 none).validate = .ok () ∧
    ∃ report w', runPair runningEnv 1 "ws://a" 0 "ws://b" 1 ⟨2, 1, 1, 7, 500, 500, none⟩ 0
        slowWorld = some (report, w') ∧ ¬ AllFresh runningEnv.clock w'.calls := by
  have hlate : ∀ s : Statement, s.expiry >>> 32 = 1700000002 →
      ¬ FreshAt runningEnv.clock 5000000000 s := by
    intro s hs hfresh
    rw [FreshAt, Statement.expirationTimestampSecs, hs] at hfresh
    revert hfresh
    decide
  refine ⟨rfl, fun hfresh => ?_, rfl, _, _, rfl, fun hfresh => ?_⟩
  · exact hlate _ rfl (hfresh 0 5000000000 _ (List.mem_cons_of_mem _ (List.mem_cons_self ..)))
  · exact hlate _ rfl (hfresh 0 5000000000 _
      (List.mem_cons_of_mem _ (List.mem_cons_of_mem _ (List.mem_cons_of_mem _
        (List.mem_cons_self ..)))))

end StatementStore
