import StatementStoreTools.CycleFreshness
import StatementStoreTools.ExpiryClock

/-!
# The statements of a `submit` endpoint, one by one

`run_submit_on_endpoint` reads the clock once, for the base of the expiries.
Statement `k` then has the running index `k`, in 32 bits: it is part of the
channel and topic names, it is added to the base, and it is the sequence number.

`afterBatches_extends` lists the calls with their times.  The index tells the
statements apart up to `2 ^ 32` of them, also where the sum with the base
saturates, and not one further: `submit_statements_apart`.
-/

namespace StatementStore

open SplitWords Loops

/-! ## Batch by batch -/

/-- The tally and the world after the first `b` batches of an endpoint. -/
def afterBatches (env : OpsEnv) (endpoint : String) (rpc : Handle) (config : SubmitConfig)
    (w : World) (b : Nat) : SubmitTally × World :=
  (List.range b).foldl
    (fun state batchIdx => runBatch env endpoint rpc config
      (expirySecondsFromNow env.clock w.now config.baseExpirySecs) state (UInt32.ofNat batchIdx))
    (SubmitTally.zero, w)

section Batches

variable {env : OpsEnv} {endpoint : String} {rpc : Handle} {config : SubmitConfig} {w : World}

theorem afterBatches_succ (b : Nat) : afterBatches env endpoint rpc config w (b + 1) =
    runBatch env endpoint rpc config (expirySecondsFromNow env.clock w.now config.baseExpirySecs)
      (afterBatches env endpoint rpc config w b) (UInt32.ofNat b) := by
  rw [afterBatches, List.range_succ, List.foldl_append]
  rfl

/-- The calls of batch `b`: all its statements, at the time it starts. -/
def batchCalls (env : OpsEnv) (endpoint : String) (rpc : Handle) (config : SubmitConfig)
    (w : World) (b : Nat) : List Call :=
  (batchStatements env config endpoint
    (expirySecondsFromNow env.clock w.now config.baseExpirySecs) (UInt32.ofNat b)).map
      (.submit rpc (afterBatches env endpoint rpc config w b).2.now)

/-- **What an endpoint is sent, and when.** -/
theorem afterBatches_extends (b : Nat) : Extends w (afterBatches env endpoint rpc config w b).2
    ((List.range b).flatMap (batchCalls env endpoint rpc config w)) := by
  induction b with
  | zero => exact Extends.refl w
  | succ b ih =>
      rw [afterBatches_succ, List.range_succ, List.flatMap_append, List.flatMap_singleton]
      exact ih.trans (submitAll_extends rpc _ _)

/-- The statements of an endpoint, in the order of submission. -/
def submitStatements (env : OpsEnv) (config : SubmitConfig) (endpoint : String)
    (baseExpiry : UInt32) : List Statement :=
  (indices (config.iterations.toNat * config.iterationBatch.toNat)).map
    (submitStatementAt env config endpoint baseExpiry)

/-- Batch by batch, they are sent in the order of the running index. -/
theorem submitted_batchCalls :
    submitted ((List.range config.iterations.toNat).flatMap
        (batchCalls env endpoint rpc config w)) =
      submitStatements env config endpoint
        (expirySecondsFromNow env.clock w.now config.baseExpirySecs) := by
  rw [submitted, List.filterMap_flatMap, submitStatements, ← submitIndices_eq, submitIndices,
    List.map_flatMap]
  refine List.flatMap_congr fun b _ => ?_
  rw [batchCalls, ← submitted, submitted_map_submit, batchStatements, List.map_map]
  rfl

end Batches

/-! ## Telling the statements apart -/

/-- The texts hashed for an endpoint: the channels, and the topics unless one is
pinned. -/
def submitTexts (config : SubmitConfig) (endpoint : String) : Set String :=
  { text | ∃ i ∈ submitIndices config,
    text = channelText config.runId (submitScope endpoint) i ∨
      (config.topicOverride = none ∧ text = topicText config.runId (submitScope endpoint) i) }

section Apart

variable {env : OpsEnv} {config : SubmitConfig} {endpoint : String} {baseExpiry i j : UInt32}

/-- The index is the sequence number, and with it the timestamp never falls. -/
theorem submitStatementAt_expiry_lt (h : i < j) :
    (submitStatementAt env config endpoint baseExpiry i).expiry <
      (submitStatementAt env config endpoint baseExpiry j).expiry := by
  have hij := UInt32.lt_iff_toNat_lt.mp h
  rw [submitStatementAt_expiry, submitStatementAt_expiry, pack_lt_pack, UInt32.lt_iff_toNat_lt,
    UInt32.lt_iff_toNat_lt, ← UInt32.toNat_inj, saturatingAdd32_toNat, saturatingAdd32_toNat]
  omega

theorem submitStatementAt_topics (hplain : config.topicOverride = none) :
    (submitStatementAt env config endpoint baseExpiry i).topics =
      [deriveTopic env.crates config.runId (submitScope endpoint) i] := by
  have hbuilt : (submitStatementAt env config endpoint baseExpiry i).topics =
      [config.topicOverride.getD
        (deriveTopic env.crates config.runId (submitScope endpoint) i)] := rfl
  rw [hbuilt, hplain]
  rfl

/-- Indices below `2 ^ 32` count up. -/
theorem indices_pairwise_lt {n : Nat} (h : n ≤ 2 ^ 32) : (indices n).Pairwise (· < ·) := by
  rw [indices, List.pairwise_map]
  refine List.Pairwise.imp_of_mem ?_ List.pairwise_lt_range
  intro a b ha hb hlt
  have ha' : a < 2 ^ 32 := Nat.lt_of_lt_of_le (List.mem_range.mp ha) h
  have hb' : b < 2 ^ 32 := Nat.lt_of_lt_of_le (List.mem_range.mp hb) h
  rwa [UInt32.lt_iff_toNat_lt, UInt32.toNat_ofNat_of_lt' ha', UInt32.toNat_ofNat_of_lt' hb']

/-- The statements of an endpoint do not get in each other's way. -/
structure StatementsApart (config : SubmitConfig) (sent : List Statement) : Prop where
  expiries : sent.Pairwise fun a b => a.expiry < b.expiry
  channels : (sent.map (·.channel)).Nodup
  topics : config.topicOverride = none → sent.Pairwise fun a b => a.topics.Disjoint b.topics

theorem submitStatements_apart
    (hfit : config.iterations.toNat * config.iterationBatch.toNat ≤ 2 ^ 32)
    (hfree : Set.InjOn env.crates.blake2_256 (submitTexts config endpoint)) :
    StatementsApart config (submitStatements env config endpoint baseExpiry) := by
  have hup := indices_pairwise_lt hfit
  have hmem : ∀ i ∈ indices (config.iterations.toNat * config.iterationBatch.toNat),
      i ∈ submitIndices config := by
    intro i hi
    rw [submitIndices_eq]
    exact hi
  refine ⟨?_, ?_, ?_⟩
  · rw [submitStatements, List.pairwise_map]
    exact hup.imp submitStatementAt_expiry_lt
  · rw [submitStatements, List.map_map]
    refine (indices_nodup hfit).map_on fun i hi j hj heq => ?_
    have htext := hfree ⟨i, hmem i hi, Or.inl rfl⟩ ⟨j, hmem j hj, Or.inl rfl⟩ (Option.some.inj heq)
    exact (channelText_inj htext).2.2
  · intro hplain
    rw [submitStatements, List.pairwise_map]
    refine List.Pairwise.imp_of_mem ?_ (indices_nodup hfit)
    intro i j hi hj hne t hti htj
    rw [submitStatementAt_topics hplain] at hti htj
    have heq := (List.mem_singleton.mp hti).symm.trans (List.mem_singleton.mp htj)
    have htext := hfree ⟨i, hmem i hi, Or.inr ⟨hplain, rfl⟩⟩
      ⟨j, hmem j hj, Or.inr ⟨hplain, rfl⟩⟩ heq
    exact hne (topicText_inj htext).2.2

/-- Statement `2 ^ 32` is statement `0` again. -/
theorem submitStatements_repeat (env : OpsEnv) (endpoint : String) (baseExpiry : UInt32)
    (hlarge : 2 ^ 32 < config.iterations.toNat * config.iterationBatch.toNat) :
    ∃ s, (submitStatements env config endpoint baseExpiry)[0]? = some s ∧
      (submitStatements env config endpoint baseExpiry)[2 ^ 32]? = some s := by
  have hget : ∀ k < config.iterations.toNat * config.iterationBatch.toNat,
      (submitStatements env config endpoint baseExpiry)[k]? =
        some (submitStatementAt env config endpoint baseExpiry (UInt32.ofNat k)) := by
    intro k hk
    rw [submitStatements, indices, List.getElem?_map, List.getElem?_map, List.getElem?_range hk]
    rfl
  have hwrap : UInt32.ofNat (2 ^ 32) = UInt32.ofNat 0 := by decide
  refine ⟨_, hget 0 (Nat.lt_trans (by decide) hlarge), ?_⟩
  rw [hget _ hlarge, hwrap]

end Apart

/-- **How many statements an endpoint can be sent.**  Up to `2 ^ 32`, their
expiries rise strictly and no channel or derived topic is used twice; with more
of them, two have the same channel and the same expiry. -/
theorem submit_statements_apart {env : OpsEnv} {endpoint : String} {rpc : Handle}
    {config : SubmitConfig} {w : World}
    (hfree : Set.InjOn env.crates.blake2_256 (submitTexts config endpoint)) :
    ∃ new, Extends w (runSubmitOnEndpoint env endpoint rpc config w).2 new ∧
      (submitted new).length = config.iterations.toNat * config.iterationBatch.toNat ∧
      (config.iterations.toNat * config.iterationBatch.toNat ≤ 2 ^ 32 →
        StatementsApart config (submitted new)) ∧
      (2 ^ 32 < config.iterations.toNat * config.iterationBatch.toNat →
        ∃ (i j : Nat) (s s' : Statement), i < j ∧
          (submitted new)[i]? = some s ∧ (submitted new)[j]? = some s' ∧
          s.channel = s'.channel ∧ s.expiry = s'.expiry) := by
  refine ⟨_, afterBatches_extends config.iterations.toNat, ?_⟩
  rw [submitted_batchCalls]
  refine ⟨by simp [submitStatements, indices], fun hfit => submitStatements_apart hfit hfree, ?_⟩
  intro hlarge
  obtain ⟨s, hfirst, hagain⟩ := submitStatements_repeat env endpoint
    (expirySecondsFromNow env.clock w.now config.baseExpirySecs) hlarge
  exact ⟨0, 2 ^ 32, s, s, by decide, hfirst, hagain, rfl, rfl⟩

/-- Two batches of two statements. -/
theorem submit_statements_apart_twoBatches : ∃ new,
    Extends cycleWorld (runSubmitOnEndpoint cycleEnv "ws://a" 0 ⟨2, 2, 1, 600, 7, none⟩
      cycleWorld).2 new ∧
    (submitted new).length = 4 ∧ StatementsApart ⟨2, 2, 1, 600, 7, none⟩ (submitted new) := by
  have hshort : ((submitIndices ⟨2, 2, 1, 600, 7, none⟩).flatMap fun i =>
      [channelText 7 (submitScope "ws://a") i, topicText 7 (submitScope "ws://a") i]).all
        (fun text => text.toList.take 10 = "ops-bench-".toList &&
          isShort (String.ofList (text.toList.drop 10))) = true := by decide +kernel
  simp only [List.all_eq_true, List.mem_flatMap, Bool.and_eq_true, decide_eq_true_eq] at hshort
  have hfree : Set.InjOn cycleEnv.crates.blake2_256
      (submitTexts ⟨2, 2, 1, 600, 7, none⟩ "ws://a") := by
    refine cycleHash_injOn.mono ?_
    intro text htext
    obtain ⟨i, hi, rfl | ⟨-, rfl⟩⟩ := htext
    · exact hshort _ ⟨i, hi, List.mem_cons_self ..⟩
    · exact hshort _ ⟨i, hi, List.mem_cons_of_mem _ (List.mem_singleton_self _)⟩
  obtain ⟨new, hextends, hlen, happart, -⟩ :=
    @submit_statements_apart cycleEnv "ws://a" 0 ⟨2, 2, 1, 600, 7, none⟩ cycleWorld hfree
  exact ⟨new, hextends, hlen, happart (by decide)⟩

end StatementStore
