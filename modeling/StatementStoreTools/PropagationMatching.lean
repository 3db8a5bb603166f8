import StatementStoreTools.PropagationPhase

/-!
# Which event stops the propagation timer

The latency of an iteration is meant to end with the event that delivers the
statement submitted in it.  The code takes the first event after the dump that
carries anything: statements of other publishers, and late ones of earlier
iterations when the topic is pinned, stop the timer as well.

`propagation_matched_iff` says over all iterations of a pair when that does
not happen: in no iteration does a foreign event come first.
-/

namespace StatementStore

open TimedStreams Loops

section Pair

variable (env : OpsEnv) (fuel : Nat) (submitRpc subscribeRpc : Handle)
  (config : PropagationConfig) (scopeIdx : UInt32) (w : World)

/-- The state of a pair between two iterations: its counters and the world. -/
abbrev PairState := PairTally × World

/-- Iteration `i` of the pair that starts in `w` leads from `before` to
`after`. -/
def IterationAt (i : Nat) (before after : PairState) : Prop :=
  let baseExpiry := expirySecondsFromNow env.clock w.now config.baseExpirySecs
  i < config.iterations.toNat ∧
    runIterations env fuel submitRpc subscribeRpc config scopeIdx baseExpiry i w = some before ∧
    runIterations env fuel submitRpc subscribeRpc config scopeIdx baseExpiry (i + 1) w =
      some after

/-- The statement that iteration `i` submits. -/
def iterationStatement (i : Nat) : Statement :=
  let baseExpiry := expirySecondsFromNow env.clock w.now config.baseExpirySecs
  buildStatement env.keypair
    (propagationTopic env.crates config scopeIdx (UInt32.ofNat i))
    (propagationChannel env.crates config scopeIdx (UInt32.ofNat i))
    (saturatingAdd32 baseExpiry (UInt32.ofNat i)) (UInt32.ofNat i) (zeroes config.messageSize)

/-- The step is counted as a success and a propagation duration is recorded. -/
def CountedSuccess (before after : PairState) : Prop :=
  after.1.successes = before.1.successes + 1 ∧
    ∃ d, after.1.propDurations = before.1.propDurations ++ [d]

/-- The event that stopped the timer contains the one statement that the step
has submitted. -/
def StoppedByOwn (before after : PairState) : Prop :=
  ∃ stream b ev statement,
    (before.2.conns subscribeRpc).subscriptions.head.2 = .ok stream ∧
      DumpEndsAt (Duration.fromMillis config.drainTimeoutMs) stream b ∧
      NextDelivers config stream b ev ∧
      submitted after.2.calls = submitted before.2.calls ++ [statement] ∧
      env.crates.encode statement ∈ ev.statements

/-- Iteration `i` gets as far as waiting, and the first event to come after
the dump carries statements, but not the one of this iteration. -/
def ForeignFirst (i : Nat) (before : PairState) : Prop :=
  ∃ stream b ev, AwaitsAt config submitRpc subscribeRpc before.2 stream b ∧
    NextDelivers config stream b ev ∧ ev.statements ≠ [] ∧
    env.crates.encode (iterationStatement env config scopeIdx w i) ∉ ev.statements

end Pair

section Matching

variable {env : OpsEnv} {fuel : Nat} {submitRpc subscribeRpc : Handle}
  {config : PropagationConfig} {scopeIdx baseExpiry : UInt32} {w : World}
  {before after : PairState}

/-- The next iteration continues from what the earlier ones have left. -/
theorem runIterations_succ (n : Nat) :
    runIterations env fuel submitRpc subscribeRpc config scopeIdx baseExpiry (n + 1) w =
      (runIterations env fuel submitRpc subscribeRpc config scopeIdx baseExpiry n w).bind
        fun state => (runIteration env fuel submitRpc subscribeRpc config scopeIdx baseExpiry
          (UInt32.ofNat n) state.2).map fun out => (state.1.record out.1, out.2) := by
  rw [runIterations, List.range_succ, List.foldlM_append]
  simp [runIterations]

/-- One more iteration, from the one before. -/
theorem runIterations_snoc {n : Nat}
    (h : runIterations env fuel submitRpc subscribeRpc config scopeIdx baseExpiry (n + 1) w =
      some after) :
    ∃ before timing,
      runIterations env fuel submitRpc subscribeRpc config scopeIdx baseExpiry n w =
        some before ∧
      runIteration env fuel submitRpc subscribeRpc config scopeIdx baseExpiry (UInt32.ofNat n)
        before.2 = some (timing, after.2) ∧
      after.1 = before.1.record timing := by
  rw [runIterations_succ] at h
  obtain ⟨before, hbefore, h⟩ := Option.bind_eq_some_iff.mp h
  obtain ⟨⟨timing, v⟩, hone, rfl⟩ := Option.map_eq_some_iff.mp h
  exact ⟨before, timing, hbefore, hone, rfl⟩

/-- Counting a timing is counting a success exactly when it is one. -/
theorem PairTally.record_counted {tally : PairTally} {timing : IterationTiming} {v v' : World}
    (hrecorded : timing.propagationDur.isSome ↔ timing.outcome = .ok ()) :
    CountedSuccess (tally, v) (tally.record timing, v') ↔ timing.outcome = .ok () := by
  rcases timing with ⟨submitDur, propagationDur, e | u⟩
  · refine ⟨fun hcount => ?_, fun hok => by cases hok⟩
    have hsame : tally.successes = tally.successes + 1 := hcount.1
    exact absurd hsame (by simp)
  · obtain ⟨d, hd⟩ := Option.isSome_iff_exists.mp (hrecorded.mpr rfl)
    obtain rfl : propagationDur = some d := hd
    exact ⟨fun _ => rfl, fun _ => ⟨rfl, d.asSecsF64, rfl⟩⟩

/-- **One iteration of a pair.**  It is counted as a success exactly when it
gets to wait for an event and the first one to come carries statements; then
it has submitted its one statement. -/
theorem IterationAt.judged {i : Nat}
    (h : IterationAt env fuel submitRpc subscribeRpc config scopeIdx w i before after) :
    (CountedSuccess before after ↔ ∃ stream b,
      AwaitsAt config submitRpc subscribeRpc before.2 stream b ∧
        ∃ ev, NextDelivers config stream b ev ∧ ev.statements ≠ []) ∧
    (CountedSuccess before after → submitted after.2.calls =
      submitted before.2.calls ++ [iterationStatement env config scopeIdx w i]) := by
  obtain ⟨-, hbefore, hafter⟩ := h
  rw [runIterations_succ, hbefore, Option.bind_some] at hafter
  obtain ⟨⟨timing, v⟩, hone, rfl⟩ := Option.map_eq_some_iff.mp hafter
  obtain ⟨hdone, hjudged⟩ := runSingleIteration_spec hone
  have hcount : CountedSuccess before (before.1.record timing, v) ↔ timing.outcome = .ok () :=
    PairTally.record_counted hdone.recorded
  refine ⟨hcount.trans hjudged, fun hsuccess => ?_⟩
  obtain ⟨t, hcalls⟩ := hdone.calls
  rw [if_pos (hdone.submitted (hcount.mp hsuccess))] at hcalls
  change submitted v.calls = _
  rw [hcalls, submitted_append]
  rfl

/-- **When the timer is stopped by the right event.**  Over all iterations of a
pair: every recorded latency ends with an event that contains the statement of
its iteration, if and only if in no iteration a foreign event comes first. -/
theorem propagation_matched_iff (env : OpsEnv) (fuel : Nat) (submitRpc subscribeRpc : Handle)
    (config : PropagationConfig) (scopeIdx : UInt32) (w : World) :
    (∀ i before after,
      IterationAt env fuel submitRpc subscribeRpc config scopeIdx w i before after →
      CountedSuccess before after → StoppedByOwn env subscribeRpc config before after) ↔
    ∀ i before after,
      IterationAt env fuel submitRpc subscribeRpc config scopeIdx w i before after →
      ¬ ForeignFirst env submitRpc subscribeRpc config scopeIdx w i before := by
  constructor
  · intro hall i before after hat hgiven
    obtain ⟨stream, b, ev, hwait, hev, hne, hforeign⟩ := hgiven
    obtain ⟨hcount, hsubmit⟩ := hat.judged
    have hsuccess := hcount.mpr ⟨stream, b, hwait, ev, hev, hne⟩
    obtain ⟨stream', b', ev', statement, hopen, hend, hev', hown, hmem⟩ :=
      hall i before after hat hsuccess
    obtain rfl := Except.ok.inj (hwait.1.symm.trans hopen)
    obtain rfl := hwait.2.1.unique hend
    have hsame : ev = ev' := by simpa using hev.symm.trans hev'
    have hstatement : statement = iterationStatement env config scopeIdx w i := by
      have := hown.symm.trans (hsubmit hsuccess)
      simpa using this
    rw [hstatement, ← hsame] at hmem
    exact hforeign hmem
  · intro hnone i before after hat hsuccess
    obtain ⟨hcount, hsubmit⟩ := hat.judged
    obtain ⟨stream, b, hwait, ev, hev, hne⟩ := hcount.mp hsuccess
    refine ⟨stream, b, ev, _, hwait.1, hwait.2.1, hev, hsubmit hsuccess, ?_⟩
    by_contra hforeign
    exact hnone i before after hat ⟨stream, b, ev, hwait, hev, hne, hforeign⟩

end Matching

/-! ## A foreign statement on a pinned topic -/

/-- A statement is encoded by its signer, its topics and its data. -/
def signerCrates : Crates :=
  { plainCrates with
    encode := fun s => ((s.signer.map Vector.toList).getD []) ++ s.topics.flatMap Vector.toList ++
      s.data.getD [] }

def ownEnv : OpsEnv := ⟨signerCrates, id, ⟨Vector.replicate 32 1⟩⟩

/-- `--topic 00…00 --iterations 1 --message-size 1`. -/
def pinnedConfig : PropagationConfig where
  iterations := 1
  messageSize := 1
  baseExpirySecs := 600
  runId := 7
  drainTimeoutMs := 500
  receiveTimeoutMs := 500
  topicOverride := some (Vector.replicate 32 0)

/-- Another publisher's statement on the same topic. -/
def foreignStatement : Statement :=
  buildStatement ⟨Vector.replicate 32 2⟩ (Vector.replicate 32 0) (Vector.replicate 32 3) 600 0 [0]

/-- An empty dump, then the foreign statement, then silence. -/
def foreignStream : EventStream :=
  Stream'.cons (.item 0 (.ok (.newStatements [] (some 0))))
    (Stream'.cons (.item 0 (.ok (.newStatements [signerCrates.encode foreignStatement] none)))
      (Stream'.const .silent))

/-- The submitted statement is never delivered, and yet the iteration is
counted with a propagation duration. -/
theorem propagation_foreign_stops :
    pinnedConfig.validate = .ok () ∧ ∃ before after,
      IterationAt ownEnv 1 0 0 pinnedConfig 0 (steadyWorld (.ok foreignStream) (.ok .new)) 0
        before after ∧
      CountedSuccess before after ∧ ¬ StoppedByOwn ownEnv 0 pinnedConfig before after := by
  refine ⟨rfl, _, _, ⟨by decide, rfl, rfl⟩, ⟨rfl, _, rfl⟩, ?_⟩
  intro hgiven
  obtain ⟨stream, b, ev, statement, hopen, hend, hev, hown, hmem⟩ := hgiven
  obtain rfl : foreignStream = stream := Except.ok.inj hopen
  have hfirst : DumpEndsAt (Duration.fromMillis 500) foreignStream 0 :=
    ⟨fun i hi => absurd hi (Nat.not_lt_zero i), .newStatements [] (some 0), rfl, rfl⟩
  obtain rfl := hfirst.unique hend
  obtain rfl : .newStatements [signerCrates.encode foreignStatement] none = ev := by
    have hnext : NextDelivers pinnedConfig foreignStream 0
        (.newStatements [signerCrates.encode foreignStatement] none) := rfl
    simpa using hnext.symm.trans hev
  obtain rfl : iterationStatement ownEnv pinnedConfig 0
      (steadyWorld (.ok foreignStream) (.ok .new)) 0 = statement := by
    have hsubmit : [] ++ [iterationStatement ownEnv pinnedConfig 0
      (steadyWorld (.ok foreignStream) (.ok .new)) 0] = [] ++ [statement] := hown
    simpa using hsubmit
  exact absurd hmem (by decide)

end StatementStore
