import StatementStoreTools.AttemptChains
import StatementStoreTools.PropagationPhase
import StatementStoreTools.SubmitExpiry
import StatementStoreTools.SubscribePhase

/-!
# The accounts of the three phases

Each phase keeps its own tally: two counters, a first error and lists of
samples.  `Accounted` says what they should say of the attempts made, in the
order in which they were made: nothing is left out or counted twice, and the
error kept is that of the first attempt that failed.

The attempts are the submissions of an endpoint, the iterations of a pair and
the reads of an endpoint; a chain runs through them, and another one through
the endpoints.
-/

namespace StatementStore

open TimedStreams Loops AttemptChains

/-! ## Two counters and a first error -/

/-- What the tallies of the phases have in common. -/
structure Counters where
  successes : UInt32
  failures : UInt32
  firstError : Option String

def Counters.zero : Counters := ⟨0, 0, none⟩

def Counters.record (k : Counters) : Except String Unit → Counters
  | .ok () => { k with successes := k.successes + 1 }
  | .error e => { k with failures := k.failures + 1, firstError := k.firstError.or (some e) }

/-- The counters tell what has become of the attempts. -/
structure Accounted (outcomes : List (Except String Unit)) (k : Counters) : Prop where
  total : k.successes.toNat + k.failures.toNat = outcomes.length
  successes : k.successes.toNat = outcomes.countP (·.isOk)
  present : k.firstError ≠ none ↔ 0 < k.failures
  earliest : ∀ e, k.firstError = some e →
    ∃ i : Nat, outcomes[i]? = some (.error e) ∧ ∀ j < i, outcomes[j]? = some (.ok ())

section Counters

variable {outcomes : List (Except String Unit)} {k : Counters}

theorem accounted_zero : Accounted [] Counters.zero :=
  ⟨rfl, rfl, by simp [Counters.zero], fun e he => by cases he⟩

/-- Without a failure all attempts have succeeded. -/
theorem Accounted.all_ok (h : Accounted outcomes k) (hnone : k.firstError = none) (j : Nat)
    (hj : j < outcomes.length) : outcomes[j]? = some (.ok ()) := by
  have hzero : ¬ 0 < k.failures := fun hpos => h.present.mpr hpos hnone
  have hfailures : k.failures.toNat = 0 := by
    rw [UInt32.lt_iff_toNat_lt] at hzero
    exact Nat.eq_zero_of_not_pos hzero
  have hcount : outcomes.countP (·.isOk) = outcomes.length := by
    have htotal := h.total
    have hsuccesses := h.successes
    omega
  have hok := List.countP_eq_length.mp hcount _ (List.getElem_mem hj)
  rw [List.getElem?_eq_getElem hj]
  cases hcase : outcomes[j] with
  | ok u => rfl
  | error e =>
      rw [hcase] at hok
      cases hok

/-- Counting one more attempt. -/
theorem Accounted.snoc (h : Accounted outcomes k) (hfit : outcomes.length + 1 < 2 ^ 32)
    (outcome : Except String Unit) : Accounted (outcomes ++ [outcome]) (k.record outcome) := by
  have htotal := h.total
  have hearlier : ∀ e, k.firstError = some e → ∃ i : Nat,
      (outcomes ++ [outcome])[i]? = some (.error e) ∧
        ∀ j < i, (outcomes ++ [outcome])[j]? = some (.ok ()) := by
    intro e he
    obtain ⟨i, hi, hbefore⟩ := h.earliest e he
    have hlt : i < outcomes.length := (List.getElem?_eq_some_iff.mp hi).1
    refine ⟨i, ?_, fun j hj => ?_⟩
    · rw [List.getElem?_append_left hlt, hi]
    · rw [List.getElem?_append_left (by omega), hbefore j hj]
  cases outcome with
  | ok u =>
      have hsum : (k.successes + 1).toNat = k.successes.toNat + 1 := toNat_add_one (by omega)
      refine ⟨?_, ?_, h.present, hearlier⟩
      · simp only [Counters.record, hsum, List.length_append, List.length_singleton]
        omega
      · simp [Counters.record, hsum, h.successes, Except.isOk, Except.toBool]
  | error e =>
      have hsum : (k.failures + 1).toNat = k.failures.toNat + 1 := toNat_add_one (by omega)
      refine ⟨?_, ?_, ?_, ?_⟩
      · simp only [Counters.record, hsum, List.length_append, List.length_singleton]
        omega
      · simp [Counters.record, h.successes, Except.isOk, Except.toBool]
      · simp [Counters.record, UInt32.lt_iff_toNat_lt, hsum]
      · intro e' he'
        cases hfirst : k.firstError with
        | some e₁ =>
            simp only [Counters.record, hfirst, Option.or_some] at he'
            exact hearlier e' (hfirst.trans he')
        | none =>
            simp only [Counters.record, hfirst, Option.none_or, Option.some.injEq] at he'
            refine ⟨outcomes.length, ?_, fun j hj => ?_⟩
            · rw [List.getElem?_concat_length, he']
            · rw [List.getElem?_append_left hj, h.all_ok hfirst j hj]

/-- **Counting all attempts**, as long as the counters do not wrap around. -/
theorem Accounted.append (h : Accounted outcomes k) {more : List (Except String Unit)}
    (hfit : outcomes.length + more.length < 2 ^ 32) :
    Accounted (outcomes ++ more) (more.foldl Counters.record k) := by
  induction more generalizing outcomes k with
  | nil => simpa using h
  | cons outcome more ih =>
      rw [List.length_cons] at hfit
      have hnext := h.snoc (by omega) outcome
      have hrest := ih hnext (by rw [List.length_append, List.length_singleton]; omega)
      rwa [List.append_assoc, List.singleton_append] at hrest

end Counters

theorem isOk_iff {outcome : Except String Unit} : outcome.isOk = true ↔ outcome = .ok () := by
  cases outcome <;> simp [Except.isOk, Except.toBool]

theorem sum_map_ite_eq_countP {α : Type} (xs : List α) (p : α → Bool) :
    (xs.map fun x => if p x then 1 else 0).sum = xs.countP p := by
  induction xs with
  | nil => rfl
  | cons x xs ih => rw [List.map_cons, List.sum_cons, ih, List.countP_cons, Nat.add_comm]

/-- How many samples the statistics are taken of. -/
def sampleCount (stats : Option Stats) : Nat := (stats.map (·.count)).getD 0

theorem calcStats_sampleCount (values : List Rat) :
    sampleCount (calcStats values) = values.length := by
  cases values <;> rfl

theorem calcStats_count {values : List Rat} (h : values ≠ []) :
    (calcStats values).map (·.count) = some values.length := by
  cases values with
  | nil => exact absurd rfl h
  | cons v vs => rfl

/-! ## `submit` -/

section Submit

/-- What becomes of the next `n` submissions on a connection. -/
def submitOutcomes (conn : Conn) (n : Nat) : List (Except String Unit) :=
  (conn.submits.take n).map fun answer => accepted answer.2

def SubmitTally.counters (tally : SubmitTally) : Counters :=
  ⟨tally.successes, tally.failures, tally.firstError⟩

theorem SubmitTally.record_counters (tally : SubmitTally) (result : Except String SubmitResult) :
    (tally.record result).counters = tally.counters.record (accepted result) := by
  unfold SubmitTally.record
  cases accepted result <;> rfl

theorem SubmitTally.foldl_counters (results : List (Except String SubmitResult))
    (tally : SubmitTally) : (results.foldl SubmitTally.record tally).counters =
      (results.map accepted).foldl Counters.record tally.counters := by
  rw [List.foldl_map]
  exact (List.foldl_hom SubmitTally.counters fun t r => (t.record_counters r).symm).symm

/-- Counting the submissions of a batch adds no sample. -/
theorem SubmitTally.foldl_samples (results : List (Except String SubmitResult))
    (tally : SubmitTally) :
    (results.foldl SubmitTally.record tally).durationsSecs = tally.durationsSecs := by
  induction results generalizing tally with
  | nil => rfl
  | cons result results ih =>
      rw [List.foldl_cons, ih]
      unfold SubmitTally.record
      cases accepted result <;> rfl

variable {env : OpsEnv} {endpoint : String} {rpc : Handle} {config : SubmitConfig} {w : World}

/-- What `b` batches have counted, and which answers they have used up. -/
structure Batched (config : SubmitConfig) (rpc : Handle) (before : World) (b : Nat)
    (state : SubmitTally × World) : Prop where
  samples : state.1.durationsSecs.length = b
  accounts : Accounted (submitOutcomes (before.conns rpc) (b * config.iterationBatch.toNat))
    state.1.counters
  own : (state.2.conns rpc).submits =
    (before.conns rpc).submits.drop (b * config.iterationBatch.toNat)
  others : ∀ c, c ≠ rpc → state.2.conns c = before.conns c

/-- **One more batch.** -/
theorem Batched.succ {b : Nat} {state : SubmitTally × World}
    (h : Batched config rpc w b state)
    (hfit : (b + 1) * config.iterationBatch.toNat < 2 ^ 32) (baseExpiry batchIdx : UInt32) :
    Batched config rpc w (b + 1) (runBatch env endpoint rpc config baseExpiry state batchIdx) := by
  have hlen : (batchStatements env config endpoint baseExpiry batchIdx).length =
      config.iterationBatch.toNat := by
    rw [batchStatements, List.length_map, List.length_range]
  have hused : (state.2.conns rpc).submits.take config.iterationBatch.toNat =
      ((w.conns rpc).submits.drop (b * config.iterationBatch.toNat)).take
        config.iterationBatch.toNat := by
    rw [h.own]
  rw [Nat.succ_mul] at hfit
  refine ⟨?_, ?_, ?_, ?_⟩
  · rw [runBatch, SubmitTally.foldl_samples]
    simp [h.samples]
  · have hlength : (submitOutcomes (w.conns rpc) (b * config.iterationBatch.toNat)).length +
        (submitOutcomes (state.2.conns rpc) config.iterationBatch.toNat).length < 2 ^ 32 := by
      simpa [submitOutcomes, Stream'.length_take] using hfit
    have hmore := h.accounts.append hlength
    rw [runBatch, SubmitTally.foldl_counters, submitAll, hlen, List.map_map]
    rw [Nat.succ_mul, submitOutcomes, Stream'.take_add, List.map_append, ← hused]
    exact hmore
  · rw [Nat.succ_mul, ← Stream'.drop_drop, ← h.own, ← hlen]
    simp [runBatch, submitAll]
  · intro c hc
    rw [← h.others c hc]
    exact Function.update_of_ne hc _ _

/-- How the run on one endpoint, started in `before`, is reported. -/
structure SubmitAccounted (config : SubmitConfig) (entry : String × Handle) (before : World)
    (r : SubmitEndpointReport) (after : World) : Prop where
  endpoint : r.endpoint = entry.1
  total : r.successes.toNat + r.failures.toNat =
    config.iterations.toNat * config.iterationBatch.toNat
  samples : r.stats.map (·.count) = some config.iterations.toNat
  accounts : Accounted
    (submitOutcomes (before.conns entry.2) (config.iterations.toNat * config.iterationBatch.toNat))
    ⟨r.successes, r.failures, r.firstError⟩
  own : (after.conns entry.2).submits = (before.conns entry.2).submits.drop
    (config.iterations.toNat * config.iterationBatch.toNat)
  others : ∀ c, c ≠ entry.2 → after.conns c = before.conns c

theorem runSubmitOnEndpoint_accounted (hvalid : config.validate = .ok ())
    (hfit : config.iterations.toNat * config.iterationBatch.toNat < 2 ^ 32) :
    SubmitAccounted config (endpoint, rpc) w
      (runSubmitOnEndpoint env endpoint rpc config w).1
      (runSubmitOnEndpoint env endpoint rpc config w).2 := by
  have hbatched : ∀ b ≤ config.iterations.toNat,
      Batched config rpc w b (afterBatches env endpoint rpc config w b) := by
    intro b
    induction b with
    | zero =>
        intro _
        refine ⟨rfl, ?_, ?_, fun _ _ => rfl⟩
        · rw [Nat.zero_mul]
          exact accounted_zero
        · rw [Nat.zero_mul]
          rfl
    | succ b ih =>
        intro hb
        rw [afterBatches_succ]
        exact (ih (by omega)).succ
          (Nat.lt_of_le_of_lt (Nat.mul_le_mul_right _ hb) hfit) _ _
  have hall := hbatched config.iterations.toNat (Nat.le_refl _)
  have hpos : 0 < config.iterations.toNat :=
    UInt32.lt_iff_toNat_lt.mp (SubmitConfig.validate_ok.mp hvalid).1
  have hsamples : (afterBatches env endpoint rpc config w
      config.iterations.toNat).1.durationsSecs ≠ [] := by
    intro hnil
    have hlen := hall.samples
    rw [hnil] at hlen
    exact absurd hlen hpos.ne
  refine ⟨rfl, ?_, ?_, hall.accounts, hall.own, hall.others⟩
  · have htotal := hall.accounts.total
    rwa [submitOutcomes, List.length_map, Stream'.length_take] at htotal
  · rw [← hall.samples]
    exact calcStats_count hsamples

/-- **`submit`.**  One report for each endpoint, in order. -/
theorem runSubmit_accounted (hvalid : config.validate = .ok ())
    (hfit : config.iterations.toNat * config.iterationBatch.toNat < 2 ^ 32)
    (endpoints : List (String × Handle)) (tag : String) (w : World) :
    ∃ reports w', runSubmit env endpoints config tag w = (.ok reports, w') ∧
      reports.map (·.endpoint) = endpoints.map (·.1) ∧
      Chain (SubmitAccounted config) endpoints w reports w' := by
  obtain ⟨reports, w', hchain, hfold⟩ := foldl_eq
    (fun (entry : String × Handle) v =>
      let out := runSubmitOnEndpoint env entry.1 entry.2 config v
      (out.1, out.2.logLine (submitReportLine tag out.1)))
    (fun done r => done ++ [r]) endpoints [] w
  have haccounted : Chain (SubmitAccounted config) endpoints w reports w' := by
    refine hchain.imp fun entry v r v' hone => ?_
    obtain ⟨rfl, rfl⟩ := Prod.mk.inj hone
    have hrun : SubmitAccounted config entry v
        (runSubmitOnEndpoint env entry.1 entry.2 config v).1
        (runSubmitOnEndpoint env entry.1 entry.2 config v).2 :=
      runSubmitOnEndpoint_accounted hvalid hfit
    exact ⟨hrun.endpoint, hrun.total, hrun.samples, hrun.accounts, hrun.own, hrun.others⟩
  refine ⟨reports, w', ?_, haccounted.map_eq _ _ fun _ _ _ _ h => h.endpoint, haccounted⟩
  simp only [runSubmit, hvalid]
  rw [hfold, foldl_push, List.nil_append]

end Submit

/-! ## `propagation` -/

section Propagation

def PairTally.counters (tally : PairTally) : Counters :=
  ⟨tally.successes, tally.failures, tally.firstError⟩

theorem PairTally.foldl_counters (timings : List IterationTiming) (tally : PairTally) :
    (timings.foldl PairTally.record tally).counters =
      (timings.map (·.outcome)).foldl Counters.record tally.counters := by
  rw [List.foldl_map]
  refine (List.foldl_hom PairTally.counters fun t timing => ?_).symm
  unfold PairTally.record
  cases timing.outcome <;> rfl

/-- The samples are those that the iterations have produced. -/
theorem PairTally.foldl_samples (timings : List IterationTiming) (tally : PairTally) :
    (timings.foldl PairTally.record tally).propDurations.length =
        tally.propDurations.length + timings.countP (·.propagationDur.isSome) ∧
      (timings.foldl PairTally.record tally).submitDurations.length =
        tally.submitDurations.length + timings.countP (·.submitDur.isSome) := by
  induction timings generalizing tally with
  | nil => exact ⟨rfl, rfl⟩
  | cons timing timings ih =>
      have hone : (tally.record timing).propDurations.length =
            tally.propDurations.length + (if timing.propagationDur.isSome then 1 else 0) ∧
          (tally.record timing).submitDurations.length =
            tally.submitDurations.length + (if timing.submitDur.isSome then 1 else 0) := by
        rcases timing with ⟨_ | _, _ | _, _ | _⟩ <;> simp [PairTally.record]
      obtain ⟨hprop, hsubmit⟩ := ih (tally.record timing)
      rw [List.foldl_cons, List.countP_cons, List.countP_cons, hprop, hsubmit, hone.1, hone.2]
      omega

/-- A submit and a subscribe endpoint, with the index of the pair. -/
abbrev Pair := ((String × Handle) × (String × Handle)) × Nat

variable {env : OpsEnv} {fuel : Nat} {config : PropagationConfig} {pair : Pair} {w w' : World}

/-- `timings` are what the iterations of the pair give, one after the other. -/
def PairIterations (env : OpsEnv) (fuel : Nat) (config : PropagationConfig) (pair : Pair)
    (before : World) (timings : List IterationTiming) (after : World) : Prop :=
  Chain (fun i v timing v' => runIteration env fuel pair.1.1.2 pair.1.2.2 config
      (UInt32.ofNat pair.2) (expirySecondsFromNow env.clock before.now config.baseExpirySecs)
      (UInt32.ofNat i) v = some (timing, v'))
    (List.range config.iterations.toNat) before timings after

theorem runIterations_eq_some {submitRpc subscribeRpc : Handle} {scopeIdx baseExpiry : UInt32}
    {n : Nat} {tally : PairTally} :
    runIterations env fuel submitRpc subscribeRpc config scopeIdx baseExpiry n w =
        some (tally, w') ↔
      ∃ timings, Chain (fun i v timing v' => runIteration env fuel submitRpc subscribeRpc config
          scopeIdx baseExpiry (UInt32.ofNat i) v = some (timing, v')) (List.range n) w timings w' ∧
        tally = timings.foldl PairTally.record PairTally.zero :=
  foldlM_eq_some (fun i v => runIteration env fuel submitRpc subscribeRpc config scopeIdx
    baseExpiry (UInt32.ofNat i) v) PairTally.record

/-- How a pair is reported. -/
structure PairAccounted (config : PropagationConfig) (pair : Pair)
    (timings : List IterationTiming) (before : World) (r : PropagationPairReport)
    (after : World) : Prop where
  names : (r.submitEndpoint, r.subscribeEndpoint) = (pair.1.1.1, pair.1.2.1)
  total : r.successes.toNat + r.failures.toNat = config.iterations.toNat
  received : sampleCount r.propagationStats = r.successes.toNat
  reached : sampleCount r.submitStats = timings.countP (·.submitDur.isSome)
  calls : (submitted after.calls).length =
    (submitted before.calls).length + sampleCount r.submitStats
  between : r.successes.toNat ≤ sampleCount r.submitStats ∧
    sampleCount r.submitStats ≤ config.iterations.toNat
  accounts : Accounted (timings.map (·.outcome)) ⟨r.successes, r.failures, r.firstError⟩

/-- An iteration that gets that far submits one statement, and no other does. -/
theorem runIteration_submitted {submitRpc subscribeRpc : Handle}
    {scopeIdx baseExpiry i : UInt32} {timing : IterationTiming}
    (h : runIteration env fuel submitRpc subscribeRpc config scopeIdx baseExpiry i w =
      some (timing, w')) :
    (submitted w'.calls).length =
      (submitted w.calls).length + if timing.submitDur.isSome then 1 else 0 := by
  obtain ⟨hdone, -⟩ := runSingleIteration_spec h
  obtain ⟨t, hcalls⟩ := hdone.calls
  rw [hcalls, submitted_append, List.length_append]
  by_cases hsubmitted : timing.submitDur.isSome
  · simp only [if_pos hsubmitted]
    rfl
  · simp only [if_neg hsubmitted]
    rfl

/-- The received statements are the successes. -/
theorem countP_received {timings : List IterationTiming}
    (h : ∀ timing ∈ timings, (timing.propagationDur.isSome ↔ timing.outcome = .ok ())) :
    timings.countP (·.propagationDur.isSome) =
      (timings.map (·.outcome)).countP (·.isOk) := by
  rw [List.countP_map]
  refine List.countP_congr fun timing hmem => ?_
  rw [Function.comp_apply, isOk_iff]
  exact h timing hmem

/-- Only what has been submitted can succeed. -/
theorem countP_isOk_le_submitted {timings : List IterationTiming}
    (h : ∀ timing ∈ timings, timing.outcome = .ok () → timing.submitDur.isSome) :
    (timings.map (·.outcome)).countP (·.isOk) ≤ timings.countP (·.submitDur.isSome) := by
  rw [List.countP_map]
  refine List.countP_mono_left fun timing hmem hok => ?_
  exact h timing hmem (isOk_iff.mp hok)

theorem runPair_accounted {r : PropagationPairReport}
    (h : runPair env fuel pair.1.1.1 pair.1.1.2 pair.1.2.1 pair.1.2.2 config
      (UInt32.ofNat pair.2) w = some (r, w')) :
    ∃ timings, PairIterations env fuel config pair w timings w' ∧
      PairAccounted config pair timings w r w' := by
  simp only [runPair] at h
  obtain ⟨⟨tally, v⟩, hruns, heq⟩ := Option.map_eq_some_iff.mp h
  obtain ⟨rfl, rfl⟩ := Prod.mk.inj heq
  obtain ⟨timings, hchain, rfl⟩ := runIterations_eq_some.mp hruns
  have hlen : timings.length = config.iterations.toNat := by
    rw [hchain.length, List.length_range]
  have hdone : ∀ timing ∈ timings,
      (timing.propagationDur.isSome ↔ timing.outcome = .ok ()) ∧
        (timing.outcome = .ok () → timing.submitDur.isSome) :=
    hchain.forall_mem fun i v timing v' hone =>
      ⟨(runSingleIteration_spec hone).1.recorded, (runSingleIteration_spec hone).1.submitted⟩
  have haccounts : Accounted (timings.map (·.outcome))
      (timings.foldl PairTally.record PairTally.zero).counters := by
    rw [PairTally.foldl_counters]
    refine accounted_zero.append ?_
    rw [List.length_nil, List.length_map, hlen, Nat.zero_add]
    exact config.iterations.toNat_lt
  obtain ⟨hprop, hsubmit⟩ := PairTally.foldl_samples timings PairTally.zero
  have hreceived := countP_received fun timing hmem => (hdone timing hmem).1
  have hreached := countP_isOk_le_submitted fun timing hmem => (hdone timing hmem).2
  have hcalls := hchain.sum_eq (fun v => (submitted v.calls).length)
    (fun timing => if timing.submitDur.isSome then 1 else 0)
    fun i v timing v' hone => runIteration_submitted hone
  have hsuccesses := haccounts.successes
  have htotal := haccounts.total
  rw [List.length_map, hlen] at htotal
  refine ⟨timings, hchain, rfl, htotal, ?_, ?_, ?_, ⟨?_, ?_⟩, haccounts⟩
  · rw [calcStats_sampleCount, hprop, hreceived]
    exact (Nat.zero_add _).trans hsuccesses.symm
  · rw [calcStats_sampleCount, hsubmit]
    exact Nat.zero_add _
  · rw [calcStats_sampleCount, hsubmit, hcalls, sum_map_ite_eq_countP]
    exact congrArg _ (Nat.zero_add _).symm
  · rw [calcStats_sampleCount, hsubmit]
    exact (hsuccesses.trans_le hreached).trans_eq (Nat.zero_add _).symm
  · rw [calcStats_sampleCount, hsubmit, ← hlen]
    exact (Nat.zero_add _).trans_le List.countP_le_length

/-- The pairs are in row-major order. -/
theorem endpointPairs_names (submitEndpoints subscribeEndpoints : List (String × Handle)) :
    (endpointPairs submitEndpoints subscribeEndpoints).map
        (fun pair => (pair.1.1.1, pair.1.2.1)) =
      submitEndpoints.flatMap fun s => subscribeEndpoints.map fun b => (s.1, b.1) := by
  have hrow : ∀ s : String × Handle,
      (subscribeEndpoints.zipIdx.map fun b => (s.1, b.1.1)) =
        subscribeEndpoints.map fun b => (s.1, b.1) := by
    intro s
    have hfst := List.zipIdx_map_fst 0 subscribeEndpoints
    calc subscribeEndpoints.zipIdx.map (fun b => (s.1, b.1.1))
        = (subscribeEndpoints.zipIdx.map Prod.fst).map fun b => (s.1, b.1) := by
          rw [List.map_map]
          rfl
      _ = subscribeEndpoints.map fun b => (s.1, b.1) := by rw [hfst]
  have hfst := List.zipIdx_map_fst 0 submitEndpoints
  rw [endpointPairs, List.map_flatMap]
  simp only [List.map_map, Function.comp_def, hrow]
  calc submitEndpoints.zipIdx.flatMap (fun s => subscribeEndpoints.map fun b => (s.1.1, b.1))
      = (submitEndpoints.zipIdx.map Prod.fst).flatMap
          fun s => subscribeEndpoints.map fun b => (s.1, b.1) := by rw [List.flatMap_map]
    _ = _ := by rw [hfst]

/-- The loop over the pairs. -/
theorem pairLoop_eq_some (env : OpsEnv) (fuel : Nat) (config : PropagationConfig) (tag : String)
    (pairs : List Pair) (reports : List PropagationPairReport) (w w' : World) :
    pairs.foldlM
        (fun state pair =>
          (runPair env fuel pair.1.1.1 pair.1.1.2 pair.1.2.1 pair.1.2.2 config
            (UInt32.ofNat pair.2) state.2).map fun out =>
              (state.1 ++ [out.1], out.2.logLine (pairReportLine tag out.1)))
        (([] : List PropagationPairReport), w) = some (reports, w') ↔
      Chain (fun pair v r v' => ∃ reached,
        runPair env fuel pair.1.1.1 pair.1.1.2 pair.1.2.1 pair.1.2.2 config
            (UInt32.ofNat pair.2) v = some (r, reached) ∧
          v' = reached.logLine (pairReportLine tag r)) pairs w reports w' :=
  foldlM_push_eq_some
    (fun (pair : Pair) v => runPair env fuel pair.1.1.1 pair.1.1.2 pair.1.2.1 pair.1.2.2 config
      (UInt32.ofNat pair.2) v)
    (fun r reached => reached.logLine (pairReportLine tag r))

/-- A pair, run to its report and logged. -/
def PairReported (env : OpsEnv) (fuel : Nat) (config : PropagationConfig) (tag : String)
    (pair : Pair) (before : World) (r : PropagationPairReport) (after : World) : Prop :=
  ∃ timings reached, PairIterations env fuel config pair before timings reached ∧
    PairAccounted config pair timings before r reached ∧
    after = reached.logLine (pairReportLine tag r)

/-- **`propagation`.**  One report for each pair, in row-major order.  Without
endpoints on both sides there is no pair, and the run is refused. -/
theorem runPropagation_accounted (hvalid : config.validate = .ok ())
    {submitEndpoints subscribeEndpoints : List (String × Handle)} {tag : String}
    {out : Except String (List PropagationPairReport)}
    (h : runPropagation env fuel submitEndpoints subscribeEndpoints config tag w =
      some (out, w')) :
    ∃ reports,
      (submitEndpoints ≠ [] → subscribeEndpoints ≠ [] → out = .ok reports) ∧
      (submitEndpoints = [] ∨ subscribeEndpoints = [] → ∃ e, out = .error e) ∧
      reports.length = submitEndpoints.length * subscribeEndpoints.length ∧
      reports.map (fun r => (r.submitEndpoint, r.subscribeEndpoint)) =
        (submitEndpoints.flatMap fun s => subscribeEndpoints.map fun b => (s.1, b.1)) ∧
      Chain (PairReported env fuel config tag) (endpointPairs submitEndpoints subscribeEndpoints)
        w reports w' := by
  have hlength : ∀ reports : List PropagationPairReport,
      reports.map (fun r => (r.submitEndpoint, r.subscribeEndpoint)) =
        (submitEndpoints.flatMap fun s => subscribeEndpoints.map fun b => (s.1, b.1)) →
      reports.length = submitEndpoints.length * subscribeEndpoints.length := by
    intro reports hnames
    have hcount := congrArg List.length hnames
    simpa [List.length_flatMap] using hcount
  simp only [runPropagation, hvalid] at h
  by_cases hsubmit : submitEndpoints = []
  · rw [if_pos hsubmit] at h
    obtain ⟨rfl, rfl⟩ := Prod.mk.inj (Option.some.inj h)
    subst hsubmit
    exact ⟨[], fun hne => absurd rfl hne, fun _ => ⟨_, rfl⟩, by simp, rfl, .nil w⟩
  · rw [if_neg hsubmit] at h
    by_cases hsubscribe : subscribeEndpoints = []
    · rw [if_pos hsubscribe] at h
      obtain ⟨rfl, rfl⟩ := Prod.mk.inj (Option.some.inj h)
      subst hsubscribe
      have hnone : endpointPairs submitEndpoints [] = [] := by simp [endpointPairs]
      refine ⟨[], fun _ hne => absurd rfl hne, fun _ => ⟨_, rfl⟩, by simp, by simp, ?_⟩
      rw [hnone]
      exact .nil w
    · rw [if_neg hsubscribe] at h
      obtain ⟨⟨reports, v⟩, hfold, heq⟩ := Option.map_eq_some_iff.mp h
      obtain ⟨rfl, rfl⟩ := Prod.mk.inj heq
      have hreported : Chain (PairReported env fuel config tag)
          (endpointPairs submitEndpoints subscribeEndpoints) w reports v := by
        refine ((pairLoop_eq_some ..).mp hfold).imp fun pair v r v' hone => ?_
        obtain ⟨reached, hrun, rfl⟩ := hone
        obtain ⟨timings, hiterations, haccounted⟩ := runPair_accounted hrun
        exact ⟨timings, reached, hiterations, haccounted, rfl⟩
      have hnames := hreported.map_eq (fun r => (r.submitEndpoint, r.subscribeEndpoint))
        (fun pair => (pair.1.1.1, pair.1.2.1)) fun pair v r v' hone => by
          obtain ⟨timings, reached, -, haccounted, -⟩ := hone
          exact haccounted.names
      rw [endpointPairs_names] at hnames
      refine ⟨reports, fun _ _ => rfl, fun hgiven => ?_, hlength reports hnames, hnames, hreported⟩
      exact absurd hgiven (not_or.mpr ⟨hsubmit, hsubscribe⟩)

end Propagation

/-! ## `subscribe` -/

section Subscribe

def ReadTally.counters (tally : ReadTally) : Counters :=
  ⟨tally.successes, tally.failures, tally.firstError⟩

/-- What one read gives, and how long it takes. -/
abbrev Read := Except String Unit × Duration

theorem ReadTally.foldl_counters (reads : List Read) (tally : ReadTally) :
    (reads.foldl (fun tally read => tally.record read.1 read.2) tally).counters =
      (reads.map (·.1)).foldl Counters.record tally.counters := by
  rw [List.foldl_map]
  refine (List.foldl_hom ReadTally.counters fun t read => ?_).symm
  unfold ReadTally.record
  cases read.1 <;> rfl

/-- Every read leaves a sample. -/
theorem ReadTally.foldl_samples (reads : List Read) (tally : ReadTally) :
    (reads.foldl (fun tally read => tally.record read.1 read.2) tally).durationsSecs.length =
      tally.durationsSecs.length + reads.length := by
  induction reads generalizing tally with
  | nil => rfl
  | cons read reads ih =>
      have hone : (tally.record read.1 read.2).durationsSecs.length =
          tally.durationsSecs.length + 1 := by
        unfold ReadTally.record
        cases read.1 <;> simp
      rw [List.foldl_cons, ih, hone, List.length_cons]
      omega

variable {env : OpsEnv} {fuel : Nat} {config : SubscribeConfig} {w w' : World}

/-- The seed has failed with `e`: one failure, and no subscription. -/
structure SeedAccounted (e : String) (before : World) (r : SubscribeEndpointReport)
    (after : World) : Prop where
  successes : r.successes = 0
  failures : r.failures = 1
  firstError : r.firstError = some e
  stats : r.stats = none
  status : r.seedStatus = .failed
  unread : subscribed after.calls = subscribed before.calls

/-- How the reads of an endpoint are reported. -/
structure ReadsAccounted (config : SubscribeConfig) (reads : List Read)
    (r : SubscribeEndpointReport) : Prop where
  total : r.successes.toNat + r.failures.toNat = config.readsPerNode.toNat
  samples : r.stats.map (·.count) = some config.readsPerNode.toNat
  accounts : Accounted (reads.map (·.1)) ⟨r.successes, r.failures, r.firstError⟩

/-- `reads` are what the reads of an endpoint give, one after the other. -/
def EndpointReads (env : OpsEnv) (fuel : Nat) (config : SubscribeConfig) (rpc : Handle)
    (idx : Nat) (before : World) (reads : List Read) (after : World) : Prop :=
  Chain (fun _ v read v' => runRead fuel rpc (readTopic env config idx) config v =
    some (read, v')) (List.range config.readsPerNode.toNat) before reads after

/-- How an endpoint is reported: by the seed that failed, or by its reads. -/
def SubscribeAccounted (env : OpsEnv) (fuel : Nat) (config : SubscribeConfig)
    (entry : (String × Handle) × Nat) (before : World) (r : SubscribeEndpointReport)
    (after : World) : Prop :=
  r.endpoint = entry.1.1 ∧
    ((∃ e, (seedEndpoint env config entry.1.2 entry.2 before).1 = .error e ∧
        SeedAccounted e before r after) ∨
      ∃ status start reads,
        (seedEndpoint env config entry.1.2 entry.2 before).1 = .ok status ∧
        start.conns = (seedEndpoint env config entry.1.2 entry.2 before).2.conns ∧
        EndpointReads env fuel config entry.1.2 entry.2 start reads after ∧
        ReadsAccounted config reads r)

/-- Seeding never subscribes. -/
theorem seedEndpoint_unread (env : OpsEnv) (config : SubscribeConfig) (rpc : Handle) (idx : Nat)
    (w : World) :
    subscribed (seedEndpoint env config rpc idx w).2.calls = subscribed w.calls := by
  rw [seedEndpoint_eq]
  split
  · rfl
  · simp

theorem logSeed_conns (endpoint : String) (topic : Bytes32) (status : SeedStatus) (v : World) :
    (v.logSeed endpoint topic status).conns = v.conns := by
  unfold World.logSeed
  split <;> rfl

theorem settle_conns {endpoint : String} {idx : Nat} (status : SeedStatus) :
    (settle env endpoint config idx status w).conns = w.conns := by
  unfold settle
  split
  · rw [wait_conns, logSeed_conns]
  · rw [logSeed_conns]

theorem runReads_eq_some {rpc : Handle} {topic : Bytes32} {tally : ReadTally} :
    runReads fuel rpc topic config w = some (tally, w') ↔
      ∃ reads, Chain (fun _ v read v' => runRead fuel rpc topic config v = some (read, v'))
          (List.range config.readsPerNode.toNat) w reads w' ∧
        tally = reads.foldl (fun tally read => tally.record read.1 read.2) ReadTally.zero :=
  foldlM_eq_some (fun (_ : Nat) v => runRead fuel rpc topic config v)
    (fun (tally : ReadTally) (read : Read) => tally.record read.1 read.2)

theorem runReads_accounted {rpc : Handle} {idx : Nat} (hvalid : config.validate = .ok ())
    {tally : ReadTally}
    (h : runReads fuel rpc (readTopic env config idx) config w = some (tally, w')) :
    ∃ reads, EndpointReads env fuel config rpc idx w reads w' ∧
      tally.successes.toNat + tally.failures.toNat = config.readsPerNode.toNat ∧
      (calcStats tally.durationsSecs).map (·.count) = some config.readsPerNode.toNat ∧
      Accounted (reads.map (·.1)) tally.counters := by
  obtain ⟨reads, hchain, rfl⟩ := runReads_eq_some.mp h
  have hlen : reads.length = config.readsPerNode.toNat := by
    rw [hchain.length, List.length_range]
  have haccounts : Accounted (reads.map (·.1)) (reads.foldl
      (fun tally read => tally.record read.1 read.2) ReadTally.zero).counters := by
    rw [ReadTally.foldl_counters]
    refine accounted_zero.append ?_
    rw [List.length_nil, List.length_map, hlen, Nat.zero_add]
    exact config.readsPerNode.toNat_lt
  have hsamples := ReadTally.foldl_samples reads ReadTally.zero
  rw [hlen, show ReadTally.zero.durationsSecs = [] from rfl, List.length_nil, Nat.zero_add]
    at hsamples
  have hpos : 0 < config.readsPerNode.toNat :=
    UInt32.lt_iff_toNat_lt.mp (SubscribeConfig.validate_ok.mp hvalid).1
  have htotal := haccounts.total
  rw [List.length_map, hlen] at htotal
  refine ⟨reads, hchain, htotal, ?_, haccounts⟩
  rw [← hsamples]
  refine calcStats_count fun hnil => ?_
  rw [hnil] at hsamples
  exact hpos.ne hsamples

theorem runSubscribeOnEndpoint_accounted (hvalid : config.validate = .ok ())
    {entry : (String × Handle) × Nat} {r : SubscribeEndpointReport}
    (h : runSubscribeOnEndpoint env fuel entry.1.1 entry.1.2 config (UInt32.ofNat entry.2) w =
      some (r, w')) :
    SubscribeAccounted env fuel config entry w r w' := by
  rw [runSubscribeOnEndpoint_eq] at h
  cases hseed : (seedEndpoint env config entry.1.2 entry.2 w).1 with
  | error e =>
      rw [hseed] at h
      obtain ⟨rfl, rfl⟩ := Prod.mk.inj (Option.some.inj h)
      exact ⟨rfl, Or.inl ⟨e, hseed, rfl, rfl, rfl, rfl, rfl, seedEndpoint_unread ..⟩⟩
  | ok status =>
      rw [hseed] at h
      obtain ⟨⟨tally, v⟩, hreads, heq⟩ := Option.map_eq_some_iff.mp h
      obtain ⟨rfl, rfl⟩ := Prod.mk.inj heq
      obtain ⟨reads, hchain, htotal, hsamples, haccounts⟩ := runReads_accounted hvalid hreads
      exact ⟨rfl, Or.inr ⟨status, _, reads, hseed, settle_conns status, hchain, htotal, hsamples,
        haccounts⟩⟩

/-- The loop over the endpoints. -/
theorem readLoop_eq_some (env : OpsEnv) (fuel : Nat) (config : SubscribeConfig) (tag : String)
    (entries : List ((String × Handle) × Nat)) (reports : List SubscribeEndpointReport)
    (w w' : World) :
    entries.foldlM
        (fun state entry =>
          (runSubscribeOnEndpoint env fuel entry.1.1 entry.1.2 config (UInt32.ofNat entry.2)
            state.2).map fun out =>
              (state.1 ++ [out.1], out.2.logLine (subscribeReportLine tag out.1)))
        (([] : List SubscribeEndpointReport), w) = some (reports, w') ↔
      Chain (fun entry v r v' => ∃ reached,
        runSubscribeOnEndpoint env fuel entry.1.1 entry.1.2 config (UInt32.ofNat entry.2) v =
            some (r, reached) ∧
          v' = reached.logLine (subscribeReportLine tag r)) entries w reports w' :=
  foldlM_push_eq_some
    (fun (entry : (String × Handle) × Nat) v =>
      runSubscribeOnEndpoint env fuel entry.1.1 entry.1.2 config (UInt32.ofNat entry.2) v)
    (fun r reached => reached.logLine (subscribeReportLine tag r))

/-- An endpoint, run to its report and logged. -/
def SubscribeReported (env : OpsEnv) (fuel : Nat) (config : SubscribeConfig) (tag : String)
    (entry : (String × Handle) × Nat) (before : World) (r : SubscribeEndpointReport)
    (after : World) : Prop :=
  ∃ reached, SubscribeAccounted env fuel config entry before r reached ∧
    after = reached.logLine (subscribeReportLine tag r)

/-- **`subscribe`.**  One report for each endpoint, in order. -/
theorem runSubscribe_accounted (hvalid : config.validate = .ok ())
    {endpoints : List (String × Handle)} {tag : String}
    {out : Except String (List SubscribeEndpointReport)}
    (h : runSubscribe env fuel endpoints config tag w = some (out, w')) :
    ∃ reports, out = .ok reports ∧ reports.map (·.endpoint) = endpoints.map (·.1) ∧
      Chain (SubscribeReported env fuel config tag) endpoints.zipIdx w reports w' := by
  simp only [runSubscribe, hvalid] at h
  obtain ⟨⟨reports, v⟩, hfold, heq⟩ := Option.map_eq_some_iff.mp h
  obtain ⟨rfl, rfl⟩ := Prod.mk.inj heq
  have hreported : Chain (SubscribeReported env fuel config tag) endpoints.zipIdx w reports v := by
    refine ((readLoop_eq_some ..).mp hfold).imp fun entry v r v' hone => ?_
    obtain ⟨reached, hrun, rfl⟩ := hone
    exact ⟨reached, runSubscribeOnEndpoint_accounted hvalid hrun, rfl⟩
  have hnames := hreported.map_eq (·.endpoint) (fun entry => entry.1.1)
    fun entry v r v' hone => by
      obtain ⟨reached, haccounted, -⟩ := hone
      exact haccounted.1
  refine ⟨reports, rfl, ?_, hreported⟩
  have hfst := List.zipIdx_map_fst 0 endpoints
  calc reports.map (·.endpoint) = (endpoints.zipIdx.map Prod.fst).map (·.1) := by
        rw [hnames, List.map_map]
        rfl
    _ = endpoints.map (·.1) := by rw [hfst]

end Subscribe

end StatementStore
