import StatementStoreTools.CycleNames
import StatementStoreTools.RivalStore
import StatementStoreTools.RoundOutcome

/-!
# A cycle does not get in its own way

All statements of a cycle are signed by one key and carry one run id.  If
their channels and topics are pairwise different, then a store that has been
sent any of them, in any order, keeps them all, and a fresh topic is empty when
a propagation iteration asks for it: `CycleFresh`.

`cycle_fresh_iff`: a cycle that ends is fresh exactly when the URLs of its
endpoints are pairwise different.
-/

namespace StatementStore

open RivalStore

/-! ## Fresh calls -/

/-- A statement takes the place of another one in the same channel of the same
account, or is turned away because of it. -/
def sameChannel (a b : Statement) : Bool :=
  a.channel.isSome && a.signer = b.signer && a.channel = b.channel

/-- What a store that holds `held` sends first to a subscription. -/
def dump (topics : BoundedVec Topic 128) (held : List Statement) : List Statement :=
  held.filter fun s => s.topics.any fun t => t ∈ topics.elems

/-- The statements of the calls do not get in each other's way. -/
structure CycleFresh (calls : List Call) : Prop where
  single : ∀ s ∈ submitted calls, s.topics.length = 1
  channels : ((submitted calls).map (·.channel)).Nodup
  topics : (submitted calls).Pairwise fun a b => a.topics.Disjoint b.topics
  /-- whatever the store's policy, and whichever statements reach it in which order -/
  kept : ∀ wins arrivals, arrivals.Subperm (submitted calls) →
    hold sameChannel wins arrivals = arrivals
  /-- a probe is answered by an empty dump -/
  dumps : ∀ before rpc at_ topics after,
    calls = before ++ .subscribe rpc at_ (.matchAny topics) :: after →
    ∀ wins arrivals, arrivals.Subperm (submitted before) →
      dump topics (hold sameChannel wins arrivals) = []

theorem sameChannel_comm (a b : Statement) : sameChannel a b = sameChannel b a := by
  rw [Bool.eq_iff_iff]
  simp only [sameChannel, Bool.and_eq_true, decide_eq_true_eq]
  constructor
  · intro hgiven
    obtain ⟨⟨hsome, hsigner⟩, hchannel⟩ := hgiven
    exact ⟨⟨hchannel ▸ hsome, hsigner.symm⟩, hchannel.symm⟩
  · intro hgiven
    obtain ⟨⟨hsome, hsigner⟩, hchannel⟩ := hgiven
    exact ⟨⟨hchannel ▸ hsome, hsigner.symm⟩, hchannel.symm⟩

section Fresh

variable {ls : List Label} {calls : List Call}

theorem apart_of_channels (h : ((submitted calls).map (·.channel)).Nodup) :
    Apart sameChannel (submitted calls) := by
  refine (List.pairwise_map.mp h).imp fun {a b} hne => ?_
  simp [sameChannel, hne]

/-- Nothing that was submitted before a probe has one of its topics. -/
theorem dump_eq_nil {before after : List Call} {rpc : Handle} {at_ : Instant}
    {topics : BoundedVec Topic 128} {wins : Statement → Statement → Bool}
    {arrivals : List Statement}
    (h : (before ++ .subscribe rpc at_ (.matchAny topics) :: after).Pairwise Undisturbed)
    (hsub : arrivals.Subperm (submitted before)) :
    dump topics (hold sameChannel wins arrivals) = [] := by
  refine List.filter_eq_nil_iff.mpr fun s hs hany => ?_
  obtain ⟨t, ht, htopic⟩ := List.any_eq_true.mp hany
  obtain ⟨c, hc, hcs⟩ := mem_submitted.mp (hsub.subset (mem_of_mem_hold hs))
  have hapart := (List.pairwise_append.mp h).2.2 c hc _ (List.mem_cons_self ..)
  exact hapart s topics hcs rfl t ht (of_decide_eq_true htopic)

/-- **Different labels make fresh calls.** -/
theorem CallsForAll.fresh (h : CallsForAll ls calls)
    (hsingle : ∀ l ∈ ls, l.topics.length = 1) (hchannels : (ls.map (·.channel)).Nodup)
    (htopics : ls.Pairwise fun a b => a.topics.Disjoint b.topics) : CycleFresh calls := by
  have hnodup : ((submitted calls).map (·.channel)).Nodup := by
    have hsub := (h.sublist.map (·.channel)).nodup hchannels
    rwa [labels, List.map_map] at hsub
  refine ⟨?_, hnodup, ?_, ?_, ?_⟩
  · intro s hs
    exact hsingle s.label (h.sublist.subset (List.mem_map_of_mem hs))
  · have hpairwise := List.Pairwise.sublist h.sublist htopics
    rwa [labels, List.pairwise_map] at hpairwise
  · intro wins arrivals hsub
    exact hold_of_subperm sameChannel_comm (apart_of_channels hnodup) hsub
  · intro before rpc at_ topics after heq wins arrivals hsub
    obtain rfl := heq
    exact dump_eq_nil (h.undisturbed htopics) hsub

end Fresh

/-! ## The labels of a cycle -/

/-- The label of the statement with a given name. -/
def nameLabel (env : OpsEnv) (runId : UInt64) (name : Name) : Label where
  signer := some env.keypair.account
  channel := some (deriveChannel env.crates runId name.1 name.2)
  topics := [deriveTopic env.crates runId name.1 name.2]

/-- No phase has its topic pinned. -/
structure Unpinned (config : LoopConfig) : Prop where
  submit : config.submitConfig.topicOverride = none
  propagation : config.propagationConfig.topicOverride = none
  subscribe : config.subscribeConfig.topicOverride = none

/-- The texts hashed in a cycle. -/
def cycleTexts (config : LoopConfig) (runId : UInt64) (endpoints : Endpoints) : List String :=
  (cycleNames config endpoints).flatMap fun name =>
    [topicText runId name.1 name.2, channelText runId name.1 name.2]

/-- No two texts hashed in the cycle have the same hash. -/
def HashesApart (crates : Crates) (config : LoopConfig) (runId : UInt64)
    (endpoints : Endpoints) : Prop :=
  Set.InjOn crates.blake2_256 { text | text ∈ cycleTexts config runId endpoints }

section Cycle

variable {env : OpsEnv} {fuel : Nat} {config : LoopConfig} {iterRunId : UInt64} {tag : String}
  {endpoints : Endpoints} {w w' : World} {out : Except String CycleReport} {new : List Call}

theorem HashesApart.topic_inj (h : HashesApart env.crates config iterRunId endpoints)
    {a b : Name} (ha : a ∈ cycleNames config endpoints) (hb : b ∈ cycleNames config endpoints)
    (heq : deriveTopic env.crates iterRunId a.1 a.2 = deriveTopic env.crates iterRunId b.1 b.2) :
    a = b := by
  have htext := h (List.mem_flatMap.mpr ⟨a, ha, List.mem_cons_self ..⟩)
    (List.mem_flatMap.mpr ⟨b, hb, List.mem_cons_self ..⟩) heq
  obtain ⟨-, hscope, hi⟩ := topicText_inj htext
  exact Prod.ext hscope hi

theorem HashesApart.channel_inj (h : HashesApart env.crates config iterRunId endpoints)
    {a b : Name} (ha : a ∈ cycleNames config endpoints) (hb : b ∈ cycleNames config endpoints)
    (heq : deriveChannel env.crates iterRunId a.1 a.2 =
      deriveChannel env.crates iterRunId b.1 b.2) : a = b := by
  have htext := h (List.mem_flatMap.mpr ⟨a, ha, by simp⟩)
    (List.mem_flatMap.mpr ⟨b, hb, by simp⟩) heq
  obtain ⟨-, hscope, hi⟩ := channelText_inj htext
  exact Prod.ext hscope hi

/-- The labels of the first phase, by name. -/
theorem submitLabels_eq (config : SubmitConfig) (hplain : config.topicOverride = none) :
    (endpoints.flatMap fun entry => (submitIndices config).map (submitLabel env config entry.1)) =
      (submitNames config endpoints).map (nameLabel env config.runId) := by
  have hone : ∀ endpoint, submitLabel env config endpoint = fun i =>
      nameLabel env config.runId (submitScope endpoint, i) := by
    intro endpoint
    funext i
    simp [submitLabel, nameLabel, hplain]
  simp only [submitNames, SProd.sprod, List.product, List.flatMap_map, List.map_flatMap,
    List.map_map, Function.comp_def, hone]

theorem pairLabels_eq (config : PropagationConfig) (hplain : config.topicOverride = none) :
    ((endpointPairs endpoints endpoints).flatMap fun pair =>
        pairLabels env config (UInt32.ofNat pair.2)) =
      (pairNames config endpoints).map (nameLabel env config.runId) := by
  have hone : ∀ scopeIdx i, propagationLabel env config scopeIdx i =
      nameLabel env config.runId (propagationScope scopeIdx, i) := by
    intro scopeIdx i
    simp [propagationLabel, propagationChannel, propagationTopic, nameLabel, hplain]
  simp only [pairNames, SProd.sprod, List.product, List.flatMap_map, List.map_flatMap,
    List.map_map, Function.comp_def, pairLabels, indices, hone]

theorem seedLabels_eq (config : SubscribeConfig) (hplain : config.topicOverride = none) :
    (endpoints.zipIdx.map fun entry => seedLabel env config (UInt32.ofNat entry.2)) =
      (seedNames endpoints).map (nameLabel env config.runId) := by
  have hone : ∀ i, seedLabel env config i = nameLabel env config.runId (subscribeScope i, 0) := by
    intro i
    simp [seedLabel, nameLabel, hplain]
  simp only [seedNames, SProd.sprod, List.product, List.flatMap_map, List.map_cons, List.map_nil,
    ← List.map_eq_flatMap, List.map_map, Function.comp_def, hone]

/-- **What a cycle sends.**  The submissions of the first phase are complete;
the calls of all three follow the names. -/
theorem runCycle_calls (hvalid : config.validate = .ok ()) (hplain : Unpinned config)
    (hne : endpoints ≠ [])
    (h : runCycle env fuel config iterRunId tag endpoints w = some (out, w')) :
    ∃ first rest, Extends w w' (first ++ rest) ∧
      labels first = (submitNames config.submitConfig endpoints).map (nameLabel env iterRunId) ∧
      CallsForAll ((cycleNames config endpoints).map (nameLabel env iterRunId))
        (first ++ rest) := by
  obtain ⟨-, first, pairs, seeds, hextends, hnone, hlabels, hpairs, hseeds⟩ :=
    runCycle_extends hvalid hne h
  have hfirst : labels first =
      (submitNames config.submitConfig endpoints).map (nameLabel env iterRunId) :=
    hlabels.trans
      (submitLabels_eq { config.submitConfig with runId := iterRunId } hplain.submit)
  rw [pairLabels_eq { config.propagationConfig with runId := iterRunId } hplain.propagation]
    at hpairs
  rw [seedLabels_eq { config.subscribeConfig with runId := iterRunId } hplain.subscribe] at hseeds
  refine ⟨first, pairs ++ seeds, hextends, hfirst, ?_⟩
  rw [cycleNames, List.map_append, List.map_append, ← hfirst]
  exact (callsForAll_of_submissions hnone).append (hpairs.append hseeds)

/-- **A cycle is fresh exactly when its URLs are pairwise different.** -/
theorem cycle_fresh_iff (hvalid : config.validate = .ok ()) (hplain : Unpinned config)
    (hne : endpoints ≠ []) (hfit : IndicesFit config endpoints)
    (hhash : HashesApart env.crates config iterRunId endpoints)
    (h : runCycle env fuel config iterRunId tag endpoints w = some (out, w'))
    (hnew : w'.calls = w.calls ++ new) : CycleFresh new ↔ (endpoints.map (·.1)).Nodup := by
  have hsubmit := (LoopConfig.validate_ok.mp hvalid).2.1
  obtain ⟨first, rest, hextends, hfirst, hall⟩ := runCycle_calls hvalid hplain hne h
  obtain rfl := List.append_cancel_left (hnew.symm.trans hextends.calls)
  constructor
  · intro hfresh
    -- the first phase alone: its channels differ, so its names do
    rw [← submitNames_nodup hsubmit hfit]
    have hchannels := hfresh.channels
    rw [submitted_append, List.map_append] at hchannels
    have hsent : (submitted first).map (·.channel) =
        ((submitNames config.submitConfig endpoints).map (nameLabel env iterRunId)).map
          (·.channel) := by
      rw [← hfirst, labels, List.map_map]
      rfl
    have hnames := (List.nodup_append'.mp hchannels).1
    rw [hsent] at hnames
    exact (hnames.of_map _).of_map _
  · intro hurls
    have hnames := (cycleNames_nodup hsubmit hfit).mpr hurls
    refine hall.fresh ?_ ?_ ?_
    · intro l hl
      obtain ⟨name, -, rfl⟩ := List.mem_map.mp hl
      rfl
    · rw [List.map_map]
      refine hnames.map_on fun a ha b hb heq => hhash.channel_inj ha hb ?_
      exact Option.some.inj heq
    · rw [List.pairwise_map]
      refine List.Pairwise.imp_of_mem ?_ hnames
      intro a b ha hb hne t hta htb
      obtain rfl := List.mem_singleton.mp hta
      exact hne (hhash.topic_inj ha hb (List.mem_singleton.mp htb))

end Cycle

/-! ## Two endpoints -/

def smallCycle : LoopConfig where
  intervalSecs := 1
  maxIterations := none
  maxDurationSecs := none
  newConnectionPerIteration := false
  submitConfig := ⟨1, 1, 1, 600, 0, none⟩
  propagationConfig := ⟨1, 1, 600, 0, 500, 500, none⟩
  subscribeConfig := ⟨1, 1, 600, 0, 0, 500, none, false⟩

/-- The texts of a cycle all start with `ops-bench-`; what follows is short. -/
def cycleEnv : OpsEnv where
  crates := { plainCrates with
    blake2_256 := fun text => paddedText (String.ofList (text.toList.drop 10)) }
  clock := id
  keypair := ⟨Vector.replicate 32 1⟩

/-- Every dump is empty, and every subscription delivers one statement then. -/
def cycleWorld : World :=
  steadyWorld
    (.ok (Stream'.cons (.item 0 (.ok (.newStatements [] none)))
      (Stream'.const (.item 0 (.ok (.newStatements [[1]] none))))))
    (.ok .new)

/-- The hash of `cycleEnv` tells short texts of the phases apart. -/
theorem cycleHash_injOn : Set.InjOn cycleEnv.crates.blake2_256
    { text | text.toList.take 10 = "ops-bench-".toList ∧
      isShort (String.ofList (text.toList.drop 10)) = true } := by
  intro a ha b hb heq
  have hdrop := String.ofList_injective (paddedText_injOn ha.2 hb.2 heq)
  refine String.toList_inj.mp ?_
  rw [← List.take_append_drop 10 a.toList, ← List.take_append_drop 10 b.toList, hdrop, ha.1, hb.1]

theorem hashesApart_of_short {endpoints : Endpoints} {runId : UInt64}
    (h : (cycleTexts smallCycle runId endpoints).all fun text =>
      text.toList.take 10 = "ops-bench-".toList &&
        isShort (String.ofList (text.toList.drop 10))) :
    HashesApart cycleEnv.crates smallCycle runId endpoints := by
  have hall : ∀ text ∈ cycleTexts smallCycle runId endpoints,
      text.toList.take 10 = "ops-bench-".toList ∧
        isShort (String.ofList (text.toList.drop 10)) = true := by
    simpa only [List.all_eq_true, Bool.and_eq_true, decide_eq_true_eq] using h
  exact cycleHash_injOn.mono hall

/-- Two endpoints: eight statements, and none gets in the way of another. -/
theorem cycle_fresh_iff_twoUrls : ∃ r w',
    runCycle cycleEnv 1 smallCycle 7 "" [("ws://a", 0), ("ws://b", 1)] cycleWorld =
        some (.ok r, w') ∧
      (submitted w'.calls).length = 8 ∧ CycleFresh w'.calls := by
  obtain ⟨r, w', hrun, hlen⟩ : ∃ r w',
      runCycle cycleEnv 1 smallCycle 7 "" [("ws://a", 0), ("ws://b", 1)] cycleWorld =
          some (.ok r, w') ∧
        (submitted w'.calls).length = 8 := ⟨_, _, rfl, rfl⟩
  refine ⟨r, w', hrun, hlen, ?_⟩
  exact (cycle_fresh_iff (w := cycleWorld) rfl ⟨rfl, rfl, rfl⟩ (by decide)
    ⟨by decide, by decide⟩ (hashesApart_of_short (by decide +kernel)) hrun rfl).mpr (by decide)

/-- **The same URL twice.**  Both endpoints are sent a statement in the same
channel, so one of them is replaced or turned away. -/
theorem cycle_channels_collide : ∃ endpoints w₀ r w',
    connectAll ["ws://a", "ws://a"] cycleWorld = (.ok endpoints, w₀) ∧
      smallCycle.validate = .ok () ∧ Unpinned smallCycle ∧ IndicesFit smallCycle endpoints ∧
      HashesApart cycleEnv.crates smallCycle 7 endpoints ∧
      runCycle cycleEnv 1 smallCycle 7 "" endpoints w₀ = some (.ok r, w') ∧ w₀.calls = [] ∧
      ¬ ((submitted w'.calls).map (·.channel)).Nodup ∧
      ∀ wins, hold sameChannel wins (submitted w'.calls) ≠ submitted w'.calls := by
  obtain ⟨w₀, hconnect, hcalls, r, w', hrun, s, s', rest, hsent, hsame⟩ : ∃ w₀,
      connectAll ["ws://a", "ws://a"] cycleWorld = (.ok [("ws://a", 0), ("ws://a", 1)], w₀) ∧
        w₀.calls = [] ∧ ∃ r w',
          runCycle cycleEnv 1 smallCycle 7 "" [("ws://a", 0), ("ws://a", 1)] w₀ =
              some (.ok r, w') ∧
            ∃ s s' rest, submitted w'.calls = s :: s' :: rest ∧
              sameChannel s s' = true :=
    ⟨_, rfl, rfl, _, _, rfl, _, _, _, rfl, by decide⟩
  refine ⟨_, w₀, r, w', hconnect, rfl, ⟨rfl, rfl, rfl⟩, ⟨by decide, by decide⟩,
    hashesApart_of_short (by decide +kernel), hrun, hcalls, ?_, ?_⟩
  · intro hnodup
    have hchannel : s.channel = s'.channel := by
      simp only [sameChannel, Bool.and_eq_true, decide_eq_true_eq] at hsame
      exact hsame.2
    rw [hsent, List.map_cons, List.nodup_cons, hchannel] at hnodup
    exact hnodup.1 (List.mem_cons_self ..)
  · intro wins hkept
    have hapart := hold_eq_self_iff.mp hkept
    rw [hsent] at hapart
    have hrival := List.rel_of_pairwise_cons hapart (List.mem_cons_self ..)
    rw [hsame] at hrival
    cases hrival

end StatementStore
