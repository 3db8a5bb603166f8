import StatementStoreTools.CycleFreshness
import StatementStoreTools.LoopTurns
import StatementStoreTools.OpsMain

/-!
# The cycles of a loop do not get in each other's way

Every iteration draws a run id, so that the topics of a cycle do not collide
with the statements that earlier cycles have left behind.

`loop_fresh_iff`: at every loop head, and after the body of the last turn, all
calls made so far are fresh, those of one cycle towards those of another
included, exactly when the run ids of the completed cycles are pairwise
different and, after at least one cycle, the URLs are too.
Iterations lost to a failed reconnect draw a run id as well and send nothing.
The loop command meets the assumptions on the configuration:
`loopArgs_admissible`.
-/

namespace StatementStore

open Loops

/-- The run ids of the completed cycles; every iteration draws one. -/
def cycleIds (entropy : Stream' UInt64) (history : List Iteration) : List UInt64 :=
  history.zipIdx.filterMap fun p => p.1.reports.map fun _ => entropy.get p.2

theorem cycleIds_snoc (entropy : Stream' UInt64) (history : List Iteration) (it : Iteration) :
    cycleIds entropy (history ++ [it]) =
      cycleIds entropy history ++ (it.reports.map fun _ => entropy.get history.length).toList := by
  unfold cycleIds
  rw [List.zipIdx_append, List.filterMap_append]
  cases hreports : it.reports with
  | none => simp [hreports]
  | some r => simp [hreports]

theorem cycleIds_sublist (entropy : Stream' UInt64) (history : List Iteration) :
    (cycleIds entropy history).Sublist (entropy.take history.length) := by
  induction history using List.reverseRecOn with
  | nil => exact List.Sublist.refl _
  | append_singleton history it ih =>
      rw [cycleIds_snoc, List.length_append, List.length_singleton, Stream'.take_succ']
      refine ih.append ?_
      cases it.reports with
      | none => exact List.nil_sublist _
      | some r => exact List.Sublist.refl _

/-! ## The calls of several cycles -/

/-- Names go by the URLs, not by the connections. -/
theorem cycleNames_congr (config : LoopConfig) {eps endpoints : Endpoints}
    (h : eps.map (·.1) = endpoints.map (·.1)) :
    submitNames config.submitConfig eps = submitNames config.submitConfig endpoints ∧
      cycleNames config eps = cycleNames config endpoints := by
  have hlen : eps.length = endpoints.length := by
    simpa only [List.length_map] using congrArg List.length h
  have hsubmit : submitNames config.submitConfig eps =
      submitNames config.submitConfig endpoints := by
    have hscopes := congrArg (List.map submitScope) h
    simp only [List.map_map] at hscopes
    exact congrArg (· ×ˢ submitIndices config.submitConfig) hscopes
  have hpairs : pairNames config.propagationConfig eps =
      pairNames config.propagationConfig endpoints := by
    have hscopes := congrArg (List.map propagationScope)
      ((endpointPairs_indices eps eps).trans
        (hlen ▸ (endpointPairs_indices endpoints endpoints).symm))
    simp only [List.map_map] at hscopes
    exact congrArg (· ×ˢ _) hscopes
  have hseeds : seedNames eps = seedNames endpoints := by
    have hscopes := congrArg (List.map subscribeScope)
      ((zipIdx_indices eps).trans (hlen ▸ (zipIdx_indices endpoints).symm))
    simp only [List.map_map] at hscopes
    exact congrArg (· ×ˢ [0]) hscopes
  exact ⟨hsubmit, by rw [cycleNames, cycleNames, hsubmit, hpairs, hseeds]⟩

/-- The calls of cycles under the run ids `ids`, one after the other.  The
submissions of each first phase are complete. -/
inductive CyclesSent (env : OpsEnv) (config : LoopConfig) (endpoints : Endpoints) :
    List UInt64 → List Call → Prop
  | nil : CyclesSent env config endpoints [] []
  | snoc {ids : List UInt64} {calls first rest : List Call} {id : UInt64}
      (before : CyclesSent env config endpoints ids calls)
      (submits : labels first =
        (submitNames config.submitConfig endpoints).map (nameLabel env id))
      (follows : CallsForAll ((cycleNames config endpoints).map (nameLabel env id))
        (first ++ rest)) :
      CyclesSent env config endpoints (ids ++ [id]) (calls ++ (first ++ rest))

section Cycles

variable {env : OpsEnv} {config : LoopConfig} {endpoints : Endpoints} {ids : List UInt64}
  {calls : List Call}

/-- The label of the statement with a given name in the cycle with a given run
id. -/
def runLabel (env : OpsEnv) (p : UInt64 × Name) : Label := nameLabel env p.1 p.2

theorem runLabels_snoc (env : OpsEnv) (ids : List UInt64) (id : UInt64) (names : List Name) :
    ((ids ++ [id]) ×ˢ names).map (runLabel env) =
      (ids ×ˢ names).map (runLabel env) ++ names.map (nameLabel env id) := by
  simp only [SProd.sprod, List.product, List.flatMap_append, List.map_append,
    List.flatMap_singleton, List.map_map]
  rfl

theorem CyclesSent.follows (h : CyclesSent env config endpoints ids calls) :
    CallsForAll ((ids ×ˢ cycleNames config endpoints).map (runLabel env)) calls := by
  induction h with
  | nil => exact .nil
  | snoc before submits follows ih =>
      rw [runLabels_snoc]
      exact ih.append follows

theorem CyclesSent.submissions (h : CyclesSent env config endpoints ids calls) :
    ((ids ×ˢ submitNames config.submitConfig endpoints).map (runLabel env)).Sublist
      (labels calls) := by
  induction h with
  | nil => exact List.Sublist.refl _
  | snoc before submits follows ih =>
      rw [runLabels_snoc, ← submits, labels_append, labels_append]
      exact ih.append (List.sublist_append_left ..)

theorem submitNames_ne_nil (hsubmit : config.submitConfig.validate = .ok ())
    (hne : endpoints ≠ []) : submitNames config.submitConfig endpoints ≠ [] := by
  obtain ⟨hiterations, hbatch, -⟩ := SubmitConfig.validate_ok.mp hsubmit
  have hpos := Nat.mul_pos (UInt32.lt_iff_toNat_lt.mp hiterations)
    (UInt32.lt_iff_toNat_lt.mp hbatch)
  obtain ⟨entry, hentry⟩ := List.exists_mem_of_ne_nil endpoints hne
  obtain ⟨i, hi⟩ := List.exists_mem_of_ne_nil _ (indices_ne_nil hpos)
  rw [← submitIndices_eq] at hi
  exact List.ne_nil_of_mem (List.mem_product.mpr ⟨List.mem_map_of_mem hentry, hi⟩)

/-- No two texts hashed in the cycles have the same hash. -/
def CyclesApart (crates : Crates) (config : LoopConfig) (ids : List UInt64)
    (endpoints : Endpoints) : Prop :=
  Set.InjOn crates.blake2_256 { text | ∃ id ∈ ids, text ∈ cycleTexts config id endpoints }

theorem CyclesApart.mono {crates : Crates} {drawn : List UInt64}
    (h : CyclesApart crates config drawn endpoints) (hsub : ids ⊆ drawn) :
    CyclesApart crates config ids endpoints := by
  refine Set.InjOn.mono (fun text htext => ?_) h
  obtain ⟨id, hid, hmem⟩ := htext
  exact ⟨id, hsub hid, hmem⟩

section Apart

variable {a b : UInt64 × Name}

theorem CyclesApart.topic_inj (h : CyclesApart env.crates config ids endpoints)
    (ha : a ∈ ids ×ˢ cycleNames config endpoints) (hb : b ∈ ids ×ˢ cycleNames config endpoints)
    (heq : deriveTopic env.crates a.1 a.2.1 a.2.2 = deriveTopic env.crates b.1 b.2.1 b.2.2) :
    a = b := by
  obtain ⟨hida, hnamea⟩ := List.mem_product.mp ha
  obtain ⟨hidb, hnameb⟩ := List.mem_product.mp hb
  have htext := h ⟨a.1, hida, List.mem_flatMap.mpr ⟨a.2, hnamea, List.mem_cons_self ..⟩⟩
    ⟨b.1, hidb, List.mem_flatMap.mpr ⟨b.2, hnameb, List.mem_cons_self ..⟩⟩ heq
  obtain ⟨hid, hscope, hi⟩ := topicText_inj htext
  exact Prod.ext hid (Prod.ext hscope hi)

theorem CyclesApart.channel_inj (h : CyclesApart env.crates config ids endpoints)
    (ha : a ∈ ids ×ˢ cycleNames config endpoints) (hb : b ∈ ids ×ˢ cycleNames config endpoints)
    (heq : deriveChannel env.crates a.1 a.2.1 a.2.2 =
      deriveChannel env.crates b.1 b.2.1 b.2.2) : a = b := by
  obtain ⟨hida, hnamea⟩ := List.mem_product.mp ha
  obtain ⟨hidb, hnameb⟩ := List.mem_product.mp hb
  have htext := h ⟨a.1, hida, List.mem_flatMap.mpr ⟨a.2, hnamea, by simp⟩⟩
    ⟨b.1, hidb, List.mem_flatMap.mpr ⟨b.2, hnameb, by simp⟩⟩ heq
  obtain ⟨hid, hscope, hi⟩ := channelText_inj htext
  exact Prod.ext hid (Prod.ext hscope hi)

end Apart

/-- **Several cycles are fresh together** exactly when their run ids are
pairwise different and each of them is fresh. -/
theorem CyclesSent.fresh_iff (h : CyclesSent env config endpoints ids calls)
    (hsubmit : config.submitConfig.validate = .ok ()) (hne : endpoints ≠ [])
    (hfit : IndicesFit config endpoints) (hhash : CyclesApart env.crates config ids endpoints) :
    CycleFresh calls ↔ ids.Nodup ∧ (ids ≠ [] → (endpoints.map (·.1)).Nodup) := by
  constructor
  · intro hfresh
    -- the first phases alone: their channels differ
    have hchannels : ((labels calls).map (·.channel)).Nodup := by
      rw [labels, List.map_map]
      exact hfresh.channels
    have hsent := (h.submissions.map (·.channel)).nodup hchannels
    have hnames := (hsent.of_map _).of_map _
    refine ⟨left_nodup_of_product (submitNames_ne_nil hsubmit hne) hnames, fun hids => ?_⟩
    exact (submitNames_nodup hsubmit hfit).mp (right_nodup_of_product hids hnames)
  · intro hgiven
    obtain ⟨hids, hurls⟩ := hgiven
    have hnames : (ids ×ˢ cycleNames config endpoints).Nodup := by
      by_cases hnil : ids = []
      · rw [hnil]
        exact List.nodup_nil
      · exact hids.product ((cycleNames_nodup hsubmit hfit).mpr (hurls hnil))
    refine h.follows.fresh ?_ ?_ ?_
    · intro l hl
      obtain ⟨p, -, rfl⟩ := List.mem_map.mp hl
      rfl
    · rw [List.map_map]
      refine hnames.map_on fun a ha b hb heq => hhash.channel_inj ha hb ?_
      exact Option.some.inj heq
    · rw [List.pairwise_map]
      refine List.Pairwise.imp_of_mem ?_ hnames
      intro a b ha hb hdiffer t hta htb
      obtain rfl := List.mem_singleton.mp hta
      exact hdiffer (hhash.topic_inj ha hb (List.mem_singleton.mp htb))

end Cycles

/-! ## What a turn leaves behind -/

section Turns

variable {connector : Future Endpoints} {work : UInt64 → String → Endpoints → Future CycleReport}
  {config : LoopConfig} {cancel : Option Instant} {begun : Instant} {s s' : LoopState}

/-- The turn from `s` runs a body, with the endpoints `eps` and from the world
`v`. -/
inductive BodyRuns (connector : Future Endpoints) (config : LoopConfig)
    (cancel : Option Instant) (begun : Instant) (s : LoopState) : Endpoints → World → Prop
  | held (hgoes : stopCheck config begun s.world.now s.iterationsCompleted = none)
      (hnot : ¬ (config.newConnectionPerIteration = true ∧ 0 < s.iterationsCompleted)) :
      BodyRuns connector config cancel begun s s.endpoints s.startIteration.world
  | reconnected {at_ : Instant} {eps : Endpoints} {v : World}
      (hgoes : stopCheck config begun s.world.now s.iterationsCompleted = none)
      (hdue : config.newConnectionPerIteration = true ∧ 0 < s.iterationsCompleted)
      (hselect : select cancel connector s.startIteration.world = (.finished at_ (.ok eps), v)) :
      BodyRuns connector config cancel begun s eps v

/-- The body of the turn from `s` has run, with the result `out`; it has left
the world `v'`. -/
def BodyDone (connector : Future Endpoints)
    (work : UInt64 → String → Endpoints → Future CycleReport) (config : LoopConfig)
    (cancel : Option Instant) (begun : Instant) (s : LoopState) (eps : Endpoints)
    (out : Except String CycleReport) (v' : World) : Prop :=
  ∃ v, BodyRuns connector config cancel begun s eps v ∧
    (work s.entropy.head (iterationTag s.iterationsCompleted) eps).run v = some (out, v')

/-- What a turn that goes round again leaves behind. -/
structure Turned (s s' : LoopState) (endpoints : Endpoints) (calls : List Call)
    (reports : Option CycleReport) : Prop where
  endpoints : s'.endpoints = endpoints
  entropy : s'.entropy = s.entropy.tail
  history : ∃ it, s'.history = s.history ++ [it] ∧ it.reports = reports
  calls : s'.world.calls = calls

/-- The turn has drawn one run id, which counts if there are reports. -/
theorem Turned.drawn {entropy : Stream' UInt64} {endpoints : Endpoints} {calls : List Call}
    {reports : Option CycleReport} (h : Turned s s' endpoints calls reports)
    (hdrawn : s.entropy = entropy.drop s.history.length) :
    s'.entropy = entropy.drop s'.history.length ∧
      cycleIds entropy s'.history = cycleIds entropy s.history ++
        (reports.map fun _ => entropy.get s.history.length).toList := by
  obtain ⟨it, hhistory, rfl⟩ := h.history
  rw [h.entropy, hdrawn, hhistory, Stream'.tail_drop', List.length_append]
  exact ⟨rfl, cycleIds_snoc ..⟩

/-- The turns from `s`, by how far they come.  Only a turn whose body has run to
its end, or whose reconnect has failed, closes its iteration. -/
inductive TurnShape (connector : Future Endpoints)
    (work : UInt64 → String → Endpoints → Future CycleReport) (config : LoopConfig)
    (cancel : Option Instant) (begun : Instant) (s : LoopState) : LoopState ⊕ LoopEnd → Prop
  | stopped (reason : LoopStopReason) :
      TurnShape connector work config cancel begun s (.inr (s.stop begun reason))
  | cut {it : Iteration} {e : LoopEnd} (hhistory : e.history = s.history ++ [it])
      (hreports : it.reports = none) : TurnShape connector work config cancel begun s (.inr e)
  | lost {e : String} {v : World} {t : LoopState}
      (hrun : connector.run s.startIteration.world = some (.error e, v))
      (hturned : Turned s t [] v.calls none) :
      TurnShape connector work config cancel begun s
        (closeIteration config cancel begun s.world.now t)
  | ran {eps : Endpoints} {out : Except String CycleReport} {v' : World} {t : LoopState}
      (hbody : BodyDone connector work config cancel begun s eps out v')
      (hturned : Turned s t eps v'.calls out.toOption) :
      TurnShape connector work config cancel begun s
        (closeIteration config cancel begun s.world.now t)

theorem BodyRuns.shape {eps : Endpoints} {v : World}
    (h : BodyRuns connector config cancel begun s eps v)
    (reconnect : Option (Endpoints × Attempt Endpoints)) :
    TurnShape connector work config cancel begun s
      (bodyTurn work config cancel begun s.world.now reconnect s.entropy.head
        (iterationTag s.iterationsCompleted)
        { s.startIteration with endpoints := eps, world := v }) := by
  rcases hselect : select cancel
    (work s.entropy.head (iterationTag s.iterationsCompleted) eps) v with ⟨a, w⟩
  simp only [bodyTurn, hselect]
  cases select_cases hselect with
  | pending => exact .cut rfl rfl
  | cancelled hcancel hfired hnow => exact .cut rfl rfl
  | @finished out w hrun hlate =>
      cases out with
      | error e => exact .ran ⟨v, h, hrun⟩ ⟨rfl, rfl, ⟨_, rfl, rfl⟩, rfl⟩
      | ok r => exact .ran ⟨v, h, hrun⟩ ⟨rfl, rfl, ⟨_, rfl, rfl⟩, rfl⟩

theorem loopTurn_shape (connector : Future Endpoints)
    (work : UInt64 → String → Endpoints → Future CycleReport) (config : LoopConfig)
    (cancel : Option Instant) (begun : Instant) (s : LoopState) :
    TurnShape connector work config cancel begun s
      (loopTurn connector work config cancel begun s) := by
  cases hcheck : stopCheck config begun s.world.now s.iterationsCompleted with
  | some reason =>
      simp only [loopTurn, hcheck]
      exact .stopped reason
  | none =>
      simp only [loopTurn, hcheck]
      split_ifs with hwhen
      · rcases hselect : select cancel connector s.startIteration.world with ⟨a, w⟩
        cases select_cases hselect with
        | pending => exact .cut rfl rfl
        | cancelled hcancel hfired hnow => exact .cut rfl rfl
        | @finished out w hrun hlate =>
            cases out with
            | error e => exact .lost hrun ⟨rfl, rfl, ⟨_, rfl, rfl⟩, rfl⟩
            | ok eps => exact (BodyRuns.reconnected hcheck hwhen hselect).shape _
      · exact (BodyRuns.held hcheck hwhen).shape none

/-- An iteration that is closed has been counted; before the next one the loop
sleeps. -/
theorem closeIteration_inl {iterStart : Instant}
    (h : closeIteration config cancel begun iterStart s = .inl s') :
    ∃ wake, s' = s.count.sleepUntil wake := by
  simp only [closeIteration] at h
  split at h
  · cases h
  · split at h
    · split at h
      · cases h
      · exact ⟨_, (Sum.inl.inj h).symm⟩
    · exact ⟨s.count.world.now, (Sum.inl.inj h).symm⟩

theorem closeIteration_inr {iterStart : Instant} {e : LoopEnd}
    (h : closeIteration config cancel begun iterStart s = .inr e) : e.history = s.history := by
  simp only [closeIteration] at h
  split at h
  · obtain rfl := Sum.inr.inj h
    rfl
  · split at h
    · split at h
      · obtain rfl := Sum.inr.inj h
        rfl
      · cases h
    · cases h

/-- **A turn that goes round again** has lost its reconnect, or has run a
body. -/
theorem loopTurn_inl (h : loopTurn connector work config cancel begun s = .inl s') :
    (∃ e v, connector.run s.startIteration.world = some (.error e, v) ∧
      Turned s s' [] v.calls none) ∨
    ∃ eps out v', BodyDone connector work config cancel begun s eps out v' ∧
      Turned s s' eps v'.calls out.toOption := by
  have hshape := loopTurn_shape connector work config cancel begun s
  generalize loopTurn connector work config cancel begun s = turn at h hshape
  cases hshape with
  | stopped reason => cases h
  | cut hhistory hreports => cases h
  | lost hrun hturned =>
      obtain ⟨wake, rfl⟩ := closeIteration_inl h
      exact Or.inl ⟨_, _, hrun,
        hturned.endpoints, hturned.entropy, hturned.history, hturned.calls⟩
  | ran hbody hturned =>
      obtain ⟨wake, rfl⟩ := closeIteration_inl h
      exact Or.inr ⟨_, _, _, hbody,
        hturned.endpoints, hturned.entropy, hturned.history, hturned.calls⟩

/-- **A turn that ends the loop** completes no cycle, or it has run a body that
does. -/
theorem loopTurn_inr {e : LoopEnd}
    (h : loopTurn connector work config cancel begun s = .inr e) (entropy : Stream' UInt64) :
    cycleIds entropy e.history = cycleIds entropy s.history ∨
    ∃ eps r v', BodyDone connector work config cancel begun s eps (.ok r) v' ∧
      cycleIds entropy e.history =
        cycleIds entropy s.history ++ [entropy.get s.history.length] := by
  have hshape := loopTurn_shape connector work config cancel begun s
  generalize loopTurn connector work config cancel begun s = turn at h hshape
  cases hshape with
  | stopped reason =>
      obtain rfl := Sum.inr.inj h
      exact Or.inl rfl
  | cut hhistory hreports =>
      obtain rfl := Sum.inr.inj h
      refine Or.inl ?_
      rw [hhistory, cycleIds_snoc, hreports]
      exact List.append_nil _
  | lost hrun hturned =>
      obtain ⟨it, hhistory, hreports⟩ := hturned.history
      refine Or.inl ?_
      rw [closeIteration_inr h, hhistory, cycleIds_snoc, hreports]
      exact List.append_nil _
  | @ran eps out v' t hbody hturned =>
      obtain ⟨it, hhistory, hreports⟩ := hturned.history
      rw [closeIteration_inr h, hhistory, cycleIds_snoc, hreports]
      cases out with
      | error e => exact Or.inl (List.append_nil _)
      | ok r => exact Or.inr ⟨eps, r, v', hbody, rfl⟩

end Turns

/-! ## The loop of the binary -/

/-- The invariant of the loop head.  The endpoint variable is empty after a lost
reconnect. -/
structure LoopSent (env : OpsEnv) (config : LoopConfig) (endpoints : Endpoints)
    (entropy : Stream' UInt64) (w₀ : World) (s : LoopState) : Prop where
  held : s.endpoints = [] ∨ s.endpoints.map (·.1) = endpoints.map (·.1)
  drawn : s.entropy = entropy.drop s.history.length
  sent : ∃ new, s.world.calls = w₀.calls ++ new ∧
    CyclesSent env config endpoints (cycleIds entropy s.history) new

section Sent

variable {env : OpsEnv} {cycleFuel : Nat} {config : LoopConfig} {cancel : Option Instant}
  {begun : Instant} {urls : List String} {entropy : Stream' UInt64} {w w₀ v v' : World}
  {endpoints eps : Endpoints} {s s' : LoopState} {out : Except String CycleReport}

theorem connector_calls {connected : Except String Endpoints}
    (h : (connector urls).run w = some (connected, v)) : v.calls = w.calls := by
  have hcalls := connectAll_calls urls w
  rwa [Option.some.inj h] at hcalls

theorem loopSent_initial (env : OpsEnv) (config : LoopConfig) (endpoints : Endpoints)
    (entropy : Stream' UInt64) (w₀ : World) :
    LoopSent env config endpoints entropy w₀ (.initial endpoints entropy w₀) where
  held := Or.inr rfl
  drawn := rfl
  sent := ⟨[], (List.append_nil _).symm, .nil⟩

/-- A body starts where the loop is, with the URLs of the initial connect or with
nothing. -/
theorem BodyRuns.starts (h : BodyRuns (connector urls) config cancel begun s eps v)
    (hurls : endpoints.map (·.1) = urls)
    (hheld : s.endpoints = [] ∨ s.endpoints.map (·.1) = endpoints.map (·.1)) :
    v.calls = s.world.calls ∧ (eps = [] ∨ eps.map (·.1) = endpoints.map (·.1)) := by
  cases h with
  | held hgoes hnot => exact ⟨rfl, hheld⟩
  | reconnected hgoes hdue hselect =>
      cases select_cases hselect with
      | finished hrun hlate =>
          have hcalls : v.calls = s.startIteration.world.calls := connector_calls hrun
          refine ⟨hcalls, Or.inr ?_⟩
          exact (connectAll_names (Option.some.inj hrun)).2.trans hurls.symm

/-- Without endpoints a cycle fails before its first call. -/
theorem runCycle_nil {fuel : Nat} {iterRunId : UInt64} {tag : String}
    (hvalid : config.validate = .ok ())
    (h : runCycle env fuel config iterRunId tag [] w = some (out, v)) :
    (∃ e, out = .error e) ∧ v.calls = w.calls := by
  obtain ⟨-, hsubmit, hpropagation, -⟩ := LoopConfig.validate_ok.mp hvalid
  have hvalids : ({ config.submitConfig with runId := iterRunId } : SubmitConfig).validate =
    .ok () := hsubmit
  have hvalidp : ({ config.propagationConfig with runId := iterRunId } :
    PropagationConfig).validate = .ok () := hpropagation
  simp only [runCycle, runSubmit, hvalids, List.foldl_nil, runPropagation, hvalidp, if_true,
    Option.bind_some] at h
  obtain ⟨rfl, rfl⟩ := Prod.mk.inj (Option.some.inj h)
  exact ⟨⟨_, rfl⟩, rfl⟩

/-- **One body more.**  It completes a cycle under the run id of its iteration,
or it makes no call. -/
theorem LoopSent.body (h : LoopSent env config endpoints entropy w₀ s)
    (hvalid : config.validate = .ok ()) (hplain : Unpinned config)
    (hurls : endpoints.map (·.1) = urls) (hne : endpoints ≠ [])
    (hbody : BodyDone (connector urls) (cycle env cycleFuel config) config cancel begun s eps
      out v') :
    (eps = [] ∨ eps.map (·.1) = endpoints.map (·.1)) ∧
      ∃ new, v'.calls = w₀.calls ++ new ∧
        CyclesSent env config endpoints (cycleIds entropy s.history ++
          (out.toOption.map fun _ => entropy.get s.history.length).toList) new := by
  obtain ⟨v, hruns, hrun⟩ := hbody
  obtain ⟨hcalls, heps⟩ := hruns.starts hurls h.held
  obtain ⟨new, hnew, hsent⟩ := h.sent
  refine ⟨heps, ?_⟩
  rcases heps with rfl | hnames
  · obtain ⟨⟨e, rfl⟩, hsame⟩ := runCycle_nil hvalid hrun
    refine ⟨new, hsame.trans (hcalls.trans hnew), ?_⟩
    simpa [Except.toOption] using hsent
  · have hfilled : eps ≠ [] := by
      intro hnil
      rw [hnil] at hnames
      exact hne (List.map_eq_nil_iff.mp hnames.symm)
    obtain ⟨⟨r, rfl⟩, -⟩ := runCycle_extends hvalid hfilled hrun
    obtain ⟨first, rest, hextends, hfirst, hall⟩ := runCycle_calls hvalid hplain hfilled hrun
    have hid : s.entropy.head = entropy.get s.history.length := by
      rw [h.drawn, Stream'.head_drop]
    obtain ⟨hsubmits, hcycle⟩ := cycleNames_congr config hnames
    rw [hid, hsubmits] at hfirst
    rw [hid, hcycle] at hall
    refine ⟨new ++ (first ++ rest), ?_, hsent.snoc hfirst hall⟩
    rw [hextends.calls, hcalls, hnew, List.append_assoc]

/-- **One turn more.** -/
theorem LoopSent.next (h : LoopSent env config endpoints entropy w₀ s)
    (hvalid : config.validate = .ok ()) (hplain : Unpinned config)
    (hurls : endpoints.map (·.1) = urls) (hne : endpoints ≠ [])
    (hturn : loopTurn (connector urls) (cycle env cycleFuel config) config cancel begun s =
      .inl s') : LoopSent env config endpoints entropy w₀ s' := by
  rcases loopTurn_inl hturn with ⟨e, v, hrun, hturned⟩ | ⟨eps, out, v', hbody, hturned⟩
  · obtain ⟨hdrawn, hids⟩ := hturned.drawn h.drawn
    obtain ⟨new, hnew, hsent⟩ := h.sent
    refine ⟨Or.inl hturned.endpoints, hdrawn, new, ?_, ?_⟩
    · rw [hturned.calls, connector_calls hrun]
      exact hnew
    · rw [hids]
      simpa using hsent
  · obtain ⟨hdrawn, hids⟩ := hturned.drawn h.drawn
    obtain ⟨heps, new, hnew, hsent⟩ := h.body hvalid hplain hurls hne hbody
    refine ⟨?_, hdrawn, new, hturned.calls.trans hnew, ?_⟩
    · rw [hturned.endpoints]
      exact heps
    · rw [hids]
      exact hsent

/-- The invariant over a whole run. -/
theorem loopSent_reaches (hvalid : config.validate = .ok ()) (hplain : Unpinned config)
    (hconnect : (connector urls).run w = some (.ok endpoints, w₀))
    (hreach : Reaches (loopTurn (connector urls) (cycle env cycleFuel config) config cancel begun)
      (.initial endpoints entropy w₀) s) : LoopSent env config endpoints entropy w₀ s := by
  have hurls := (connectAll_names (Option.some.inj hconnect)).2
  have hne := connector_nonempty hconnect
  exact reaches_rule (LoopSent env config endpoints entropy w₀)
    (fun _ _ hinv hturn => hinv.next hvalid hplain hurls hne hturn)
    (loopSent_initial env config endpoints entropy w₀) hreach

/-- **All cycles of a run are fresh together** exactly when their run ids are
pairwise different and, once there is a cycle, the URLs are: at every loop head,
and after the body of the last turn, if it completes one more cycle. -/
theorem loop_fresh_iff (hvalid : config.validate = .ok ()) (hplain : Unpinned config)
    (hconnect : (connector urls).run w = some (.ok endpoints, w₀))
    (hfit : IndicesFit config endpoints)
    (hreach : Reaches (loopTurn (connector urls) (cycle env cycleFuel config) config cancel begun)
      (.initial endpoints entropy w₀) s)
    (hhash : CyclesApart env.crates config (entropy.take (s.history.length + 1)) endpoints) :
    (∃ new, s.world.calls = w₀.calls ++ new ∧
      (CycleFresh new ↔ (cycleIds entropy s.history).Nodup ∧
        (cycleIds entropy s.history ≠ [] → urls.Nodup))) ∧
    ∀ e, loopTurn (connector urls) (cycle env cycleFuel config) config cancel begun s = .inr e →
      cycleIds entropy e.history = cycleIds entropy s.history ∨
      ∃ eps r v' new, BodyDone (connector urls) (cycle env cycleFuel config) config cancel begun s
          eps (.ok r) v' ∧ v'.calls = w₀.calls ++ new ∧
        (CycleFresh new ↔ (cycleIds entropy e.history).Nodup ∧ urls.Nodup) := by
  have hsent := loopSent_reaches hvalid hplain hconnect hreach
  have hsubmit := (LoopConfig.validate_ok.mp hvalid).2.1
  have hurls := (connectAll_names (Option.some.inj hconnect)).2
  have hne := connector_nonempty hconnect
  have hdrawn := (cycleIds_sublist entropy s.history).subset
  rw [Stream'.take_succ'] at hhash
  constructor
  · obtain ⟨new, hnew, hcycles⟩ := hsent.sent
    refine ⟨new, hnew, ?_⟩
    rw [← hurls]
    refine hcycles.fresh_iff hsubmit hne hfit (hhash.mono fun id hid => ?_)
    exact List.mem_append_left _ (hdrawn hid)
  · intro e hend
    rcases loopTurn_inr hend entropy with hsame | ⟨eps, r, v', hbody, hids⟩
    · exact Or.inl hsame
    · obtain ⟨-, new, hnew, hcycles⟩ := hsent.body hvalid hplain hurls hne hbody
      refine Or.inr ⟨eps, r, v', new, hbody, hnew, ?_⟩
      have hsome : cycleIds entropy s.history ++ [entropy.get s.history.length] ≠ [] := by simp
      rw [← hurls, hids, ← imp_iff_right (b := (endpoints.map (·.1)).Nodup) hsome]
      refine hcycles.fresh_iff hsubmit hne hfit (hhash.mono fun id hid => ?_)
      rcases List.mem_append.mp hid with hid | hid
      · exact List.mem_append_left _ (hdrawn hid)
      · exact List.mem_append_right _ hid

end Sent

/-- The loop command pins no topic and submits in batches of one; only the pairs of
its endpoints could be too many. -/
theorem loopArgs_admissible (args : LoopArgs) (runId : UInt64) {endpoints : Endpoints}
    (hpairs : endpoints.length * endpoints.length ≤ 2 ^ 32) :
    Unpinned (args.config runId) ∧ IndicesFit (args.config runId) endpoints := by
  refine ⟨⟨rfl, rfl, rfl⟩, ?_, hpairs⟩
  have hlt := args.submitIterations.toNat_lt
  change args.submitIterations.toNat * 1 ≤ 2 ^ 32
  rw [Nat.mul_one]
  exact Nat.le_of_lt hlt

/-! ## Two cycles -/

def twoUrls : List String := ["ws://a", "ws://b"]

def twoEndpoints : Endpoints := [("ws://a", 0), ("ws://b", 1)]

/-- The world in which both connections have opened. -/
def twoStart : World := (connectAll twoUrls cycleWorld).2

/-- The first iteration draws `id`, all others draw `id'`. -/
def draws (id id' : UInt64) : Stream' UInt64 := Stream'.cons id (Stream'.const id')

def twoTurn : LoopState → LoopState ⊕ LoopEnd :=
  loopTurn (connector twoUrls) (cycle cycleEnv 1 smallCycle) smallCycle none 0

/-- Two turns, both of which go round again. -/
def twoTurns (id id' : UInt64) : Option LoopState :=
  match twoTurn (.initial twoEndpoints (draws id id') twoStart) with
  | .inr _ => none
  | .inl s => (twoTurn s).getLeft?

/-- Both iterations complete their cycles, of eight statements each. -/
def bothSent (id id' : UInt64) : Bool :=
  (twoTurns id id').any fun s => s.history.length = 2 ∧
    cycleIds (draws id id') s.history = [id, id'] ∧ (submitted s.world.calls).length = 16

theorem reaches_of_bothSent (id id' : UInt64) (h : bothSent id id' = true) : ∃ s,
    Reaches twoTurn (.initial twoEndpoints (draws id id') twoStart) s ∧ s.history.length = 2 ∧
      cycleIds (draws id id') s.history = [id, id'] ∧ (submitted s.world.calls).length = 16 := by
  obtain ⟨s, hs, hsent⟩ := (Option.any_eq_true ..).mp h
  refine ⟨s, ?_, of_decide_eq_true hsent⟩
  unfold twoTurns at hs
  split at hs
  · cases hs
  · next s₁ hfirst => exact .tail (.single hfirst) (Sum.getLeft?_eq_some_iff.mp hs)

theorem cyclesApart_of_short {endpoints : Endpoints} {ids : List UInt64}
    (h : ids.all fun id => (cycleTexts smallCycle id endpoints).all fun text =>
      text.toList.take 10 = "ops-bench-".toList &&
        isShort (String.ofList (text.toList.drop 10))) :
    CyclesApart cycleEnv.crates smallCycle ids endpoints := by
  have hall : ∀ id ∈ ids, ∀ text ∈ cycleTexts smallCycle id endpoints,
      text.toList.take 10 = "ops-bench-".toList ∧
        isShort (String.ofList (text.toList.drop 10)) = true := by
    simpa only [List.all_eq_true, Bool.and_eq_true, decide_eq_true_eq] using h
  refine cycleHash_injOn.mono fun text htext => ?_
  obtain ⟨id, hid, hmem⟩ := htext
  exact hall id hid text hmem

/-- Two cycles of two endpoints: sixteen statements.  None of them gets in the
way of another when the run ids differ, and some do when they are the same. -/
theorem loop_fresh_iff_twoCycles :
    (∃ s, Reaches twoTurn (.initial twoEndpoints (draws 7 8) twoStart) s ∧
      (submitted s.world.calls).length = 16 ∧ CycleFresh s.world.calls) ∧
    ∃ s, Reaches twoTurn (.initial twoEndpoints (draws 7 7) twoStart) s ∧
      (submitted s.world.calls).length = 16 ∧ ¬ CycleFresh s.world.calls := by
  have hconnect : (connector twoUrls).run cycleWorld = some (.ok twoEndpoints, twoStart) := rfl
  have hnone : twoStart.calls = [] := rfl
  have hfit : IndicesFit smallCycle twoEndpoints := ⟨by decide, by decide⟩
  have happart : CyclesApart cycleEnv.crates smallCycle [7, 8] twoEndpoints :=
    cyclesApart_of_short (by decide +kernel)
  obtain ⟨s, hreach, hlen, hids, hsent⟩ :=
    reaches_of_bothSent 7 8 (by decide +kernel)
  obtain ⟨t, hreach', hlen', hids', hsent'⟩ :=
    reaches_of_bothSent 7 7 (by decide +kernel)
  refine ⟨⟨s, hreach, hsent, ?_⟩, t, hreach', hsent', ?_⟩
  · obtain ⟨⟨new, hnew, hfresh⟩, -⟩ := loop_fresh_iff rfl ⟨rfl, rfl, rfl⟩ hconnect hfit hreach
      (happart.mono (by rw [hlen]; decide))
    rw [hnone, List.nil_append] at hnew
    rw [hnew, hfresh, hids]
    exact ⟨by decide, fun _ => by decide⟩
  · obtain ⟨⟨new, hnew, hfresh⟩, -⟩ := loop_fresh_iff rfl ⟨rfl, rfl, rfl⟩ hconnect hfit hreach'
      (happart.mono (by rw [hlen']; decide))
    rw [hnone, List.nil_append] at hnew
    rw [hnew, hfresh, hids']
    exact fun hboth => absurd hboth.1 (by decide)

end StatementStore
