import StatementStoreTools.OpsCommon
import StatementStoreTools.RingSchedules

/-!
# The report of the ring benchmark

`collect_results` joins the client tasks and flattens their records into two
lists; `report_results` prints figures of those lists.  What a client has
returned is known from `RingRecords`; a task may also have panicked.

The figure printed as `failed_clients` is the length of the flattened list of
failures.  `failed_clients_iff` says when that is a number of clients.
-/

namespace StatementStore

open Loops Traces StatementStore.Ring

/-- What `run_client` returns. -/
structure ClientResult where
  successes : List RoundStats
  failures : List FailureKind

/-- Join one task. -/
def collectOne (state : (List RoundStats × List FailureKind) × World)
    (entry : Except String ClientResult × Nat) :
    (List RoundStats × List FailureKind) × World :=
  match entry.1 with
  | .ok result => ((state.1.1 ++ result.successes, state.1.2 ++ result.failures), state.2)
  | .error e =>
      let failed := fail (toString entry.2) none .taskPanicked e state.2
      ((state.1.1, state.1.2 ++ [failed.1]), failed.2)

def collectResults (handles : List (Except String ClientResult)) (w : World) :
    (List RoundStats × List FailureKind) × World :=
  handles.zipIdx.foldl collectOne (([], []), w)

/-- The three figures of `print_statistics` for one duration; there always is
a value. -/
def durationFigures (label : String) (values : List Rat) : String :=
  match calcStats values with
  | some s =>
      s!"{label}_min={fixed 3 s.min}s {label}_avg={fixed 3 s.avg}s {label}_max={fixed 3 s.max}s"
  | none => ""

/-- `print_statistics`. -/
def statisticsLine (stats : List RoundStats) : String :=
  let send := durationFigures "send" (stats.map (·.sendDurationSecs))
  let receive := durationFigures "receive" (stats.map (·.receiveDurationSecs))
  let latency := durationFigures "latency" (stats.map (·.fullLatencySecs))
  s!"Benchmark Results: {send} {receive} {latency}"

/-- The figures of the line that reports failures. -/
structure FailureSummary where
  failedClients : Nat
  totalClients : UInt32
  errors : String

def FailureSummary.line (s : FailureSummary) : String :=
  s!"Benchmark Failed: failed_clients={s.failedClients} " ++
    s!"total_clients={s.totalClients.toNat} errors=[{s.errors}]"

/-- The kinds with their counts, most frequent first.  `hashOrder` is the order
in which the hash map hands out its keys. -/
def failureCounts (hashOrder failures : List FailureKind) : List (FailureKind × UInt32) :=
  (hashOrder.map fun kind => (kind, UInt32.ofNat (failures.count kind))).mergeSort
    fun a b => b.2 ≤ a.2

def failureSummary (hashOrder failures : List FailureKind) (numClients : UInt32) :
    Option FailureSummary :=
  if failures = [] then none
  else some {
    failedClients := failures.length
    totalClients := numClients
    errors := "; ".intercalate ((failureCounts hashOrder failures).map fun entry =>
      s!"{entry.1.display} ({entry.2.toNat})") }

/-- `rounds_with_any_success`: the number of different rounds. -/
def roundsWithAnySuccess (successes : List RoundStats) : Nat :=
  (successes.map (·.round)).dedup.length

def reportResults (hashOrder : List FailureKind) (successes : List RoundStats)
    (failures : List FailureKind) (numClients : UInt32) (numRounds : Nat) (w : World) : World :=
  let w :=
    match failureSummary hashOrder failures numClients with
    | some summary => w.logLine summary.line
    | none => w
  let w := if successes = [] then w else w.logLine (statisticsLine successes)
  w.logLine (s!"Benchmark Finished: rounds_with_any_success={roundsWithAnySuccess successes} " ++
    s!"total_rounds={numRounds} total_clients={numClients.toNat}")

/-! ## What is collected -/

/-- The successes of one task. -/
def outcomeSuccesses : Except String ClientResult → List RoundStats
  | .ok result => result.successes
  | .error _ => []

/-- The failures of one task; a panic is one. -/
def outcomeFailures : Except String ClientResult → List FailureKind
  | .ok result => result.failures
  | .error _ => [.taskPanicked]

/-- **What `collect_results` gathers**: the records of all tasks, in order. -/
theorem collectResults_spec (handles : List (Except String ClientResult)) (w : World) :
    (collectResults handles w).1 =
      (handles.flatMap outcomeSuccesses, handles.flatMap outcomeFailures) := by
  have hfst : (handles.zipIdx.map (·.1)) = handles := List.zipIdx_map_fst 0 handles
  have hall := foldl_rule collectOne handles.zipIdx
    (fun done (state : (List RoundStats × List FailureKind) × World) =>
      state.1 = ((done.map (·.1)).flatMap outcomeSuccesses,
        (done.map (·.1)).flatMap outcomeFailures))
    ?turn (s := (([], []), w)) rfl
  · rw [hfst] at hall
    exact hall
  case turn =>
    intro done entry rest state _ hstate
    obtain ⟨outcome, i⟩ := entry
    rw [List.map_append, List.flatMap_append, List.flatMap_append]
    cases outcome with
    | ok result => simp [collectOne, hstate, outcomeSuccesses, outcomeFailures]
    | error e => simp [collectOne, hstate, outcomeSuccesses, outcomeFailures, fail]

/-- The result that a client of the ring has returned. -/
structure ResultOf (client : Client) (result : ClientResult) : Prop where
  returned : client.phase = .returned
  successes : result.successes.map (·.round) = client.successes
  failures : result.failures = client.failures

/-- These outcomes can be gathered from the tasks of a run: one for each
client, which has returned or panicked. -/
structure Gathered {n : Nat} (s : RingState n) (outcomes : List (Except String ClientResult)) :
    Prop where
  length : outcomes.length = n
  results : ∀ (c : Fin n) result, outcomes[c.val]? = some (.ok result) →
    ResultOf (s.clients c) result

section Gathered

variable {n : Nat} {cfg : RingConfig} {τ : List (RingEvent n)} {s : RingState n}
  {outcomes : List (Except String ClientResult)} {outcome : Except String ClientResult}

theorem Gathered.of_mem (h : Gathered s outcomes) (hmem : outcome ∈ outcomes) :
    (∃ e, outcome = .error e) ∨
      ∃ c result, outcome = .ok result ∧ ResultOf (s.clients c) result := by
  obtain ⟨i, hi⟩ := List.getElem?_of_mem hmem
  cases outcome with
  | error e => exact Or.inl ⟨e, rfl⟩
  | ok result =>
      have hlt : i < n := by
        rw [← h.length]
        exact (List.getElem?_eq_some_iff.mp hi).1
      exact Or.inr ⟨⟨i, hlt⟩, result, rfl, h.results ⟨i, hlt⟩ result hi⟩

/-- Successes that lie in the rounds `1..numRounds` are of at most that many rounds. -/
theorem roundsWithAnySuccess_le {successes : List RoundStats} {numRounds : Nat}
    (h : ∀ stats ∈ successes, stats.round ∈ roundsUpTo numRounds) :
    roundsWithAnySuccess successes ≤ numRounds := by
  have hsub : (successes.map (·.round)).dedup ⊆ roundsUpTo numRounds := by
    intro r hr
    obtain ⟨stats, hstats, rfl⟩ := List.mem_map.mp (List.mem_dedup.mp hr)
    exact h stats hstats
  have hle := (List.subperm_of_subset (List.nodup_dedup _) hsub).length_le
  rwa [roundsUpTo_length] at hle

/-- **The records of the ring.**  Whatever the interleaving, every client that
has returned has recorded each of its rounds once, and at most one stop after
them; the report never counts more rounds than there are. -/
theorem ring_client_records (h : RingRun cfg n τ s) :
    (∀ c, (s.clients c).phase = .returned → ClientRecords cfg τ c (s.clients c)) ∧
      ∀ outcomes, Gathered s outcomes → ∀ w,
        roundsWithAnySuccess (collectResults outcomes w).1.1 ≤ cfg.numRounds := by
  refine ⟨fun c hret => RingRun.records h hret, fun outcomes hgathered w => ?_⟩
  refine roundsWithAnySuccess_le fun stats hstats => ?_
  rw [collectResults_spec] at hstats
  obtain ⟨outcome, hmem, hsuccess⟩ := List.mem_flatMap.mp hstats
  rcases hgathered.of_mem hmem with ⟨e, rfl⟩ | ⟨c, result, rfl, hresult⟩
  · cases hsuccess
  · have hround : stats.round ∈ (s.clients c).successes := by
      rw [← hresult.successes]
      exact List.mem_map_of_mem hsuccess
    exact mem_roundsUpTo.mpr ((RingRun.records h hresult.returned).range _ hround)

end Gathered

/-- One client alone: its first round fails, the second succeeds, and then it
takes its own failure for that of a peer. -/
def aloneAndStopped : List (RingEvent 1) :=
  [.arrive 0 0 0, .pass 0 0 0, .roundFailed 0 1 .submitFailed, .submit 0 2 0, .roundOk 0 2,
    .load 0 2 true]

theorem ring_client_records_alone : ∃ s, RingRun ⟨3, 1, false⟩ 1 aloneAndStopped s ∧
    s.clients 0 = ⟨.returned, [2], [.submitFailed, .peerFailed]⟩ ∧
    ClientRecords ⟨3, 1, false⟩ aloneAndStopped 0 (s.clients 0) := by
  obtain ⟨s, hs⟩ : ∃ s, exec (step ⟨3, 1, false⟩) (initial 1) aloneAndStopped = some s :=
    Option.isSome_iff_exists.mp (by decide)
  have hclient : (exec (step ⟨3, 1, false⟩) (initial 1) aloneAndStopped).map (·.clients 0) =
      some ⟨.returned, [2], [.submitFailed, .peerFailed]⟩ := by decide
  have hfinal : s.clients 0 = ⟨.returned, [2], [.submitFailed, .peerFailed]⟩ := by
    simpa [hs] using hclient
  exact ⟨s, run_of_exec hs, hfinal,
    (ring_client_records (run_of_exec hs)).1 0 (by rw [hfinal])⟩

/-! ## The number of failed clients -/

/-- The clients with at least one failure. -/
def clientsFailed (outcomes : List (Except String ClientResult)) : Nat :=
  outcomes.countP fun outcome => outcomeFailures outcome ≠ []

/-- The figure printed is a number of clients. -/
structure FigureRight (outcomes : List (Except String ClientResult)) (summary : FailureSummary) :
    Prop where
  counts : summary.failedClients = clientsFailed outcomes
  le_total : summary.failedClients ≤ summary.totalClients.toNat

/-- Lists are as long together as there are non-empty ones exactly when none
is longer than one. -/
theorem length_flatMap_eq_countP_iff {α β : Type} (f : α → List β) (xs : List α) :
    (xs.flatMap f).length = xs.countP (fun x => f x ≠ []) ↔ ∀ x ∈ xs, (f x).length ≤ 1 := by
  have hle : ∀ xs : List α, xs.countP (fun x => f x ≠ []) ≤ (xs.flatMap f).length := by
    intro xs
    induction xs with
    | nil => exact Nat.le_refl _
    | cons x xs ih =>
        rw [List.flatMap_cons, List.length_append, List.countP_cons]
        cases f x with
        | nil => simpa using ih
        | cons y ys =>
            simp only [ne_eq, reduceCtorEq, not_false_eq_true, decide_true, if_true,
              List.length_cons] at ih ⊢
            omega
  induction xs with
  | nil => simp
  | cons x xs ih =>
      have hrest := hle xs
      rw [List.flatMap_cons, List.length_append, List.countP_cons, List.forall_mem_cons]
      cases hx : f x with
      | nil => simpa using ih
      | cons y ys =>
          simp only [ne_eq, reduceCtorEq, not_false_eq_true, decide_true, if_true,
            List.length_cons] at hrest ih ⊢
          constructor
          · intro heq
            exact ⟨by omega, ih.mp (by omega)⟩
          · intro hboth
            have := ih.mpr hboth.2
            omega

/-- The figure of one report. -/
theorem figure_right_iff (outcomes : List (Except String ClientResult)) (numClients : UInt32)
    (htotal : numClients.toNat = outcomes.length) (hashOrder : List FailureKind) (w : World) :
    (∀ summary, failureSummary hashOrder (collectResults outcomes w).1.2 numClients =
        some summary → FigureRight outcomes summary) ↔
      ∀ outcome ∈ outcomes, (outcomeFailures outcome).length ≤ 1 := by
  rw [← length_flatMap_eq_countP_iff, collectResults_spec]
  have hcount : clientsFailed outcomes ≤ outcomes.length := List.countP_le_length
  by_cases hnone : outcomes.flatMap outcomeFailures = []
  · have hzero := (length_flatMap_eq_countP_iff outcomeFailures outcomes).mpr fun outcome hmem => by
      rw [List.flatMap_eq_nil_iff.mp hnone outcome hmem]
      exact Nat.zero_le 1
    simp [failureSummary, hnone] at hzero ⊢
    exact hzero
  · constructor
    · intro hright
      exact (hright _ (if_neg hnone)).counts
    · intro hlen summary hsummary
      simp only [failureSummary, if_neg hnone, Option.some.injEq] at hsummary
      obtain rfl := hsummary
      refine ⟨hlen, ?_⟩
      simp only
      rw [hlen, htotal]
      exact hcount

/-- The figure of every report of a configuration. -/
def AlwaysRight (cfg : RingConfig) (n : Nat) : Prop :=
  ∀ τ (s : RingState n) outcomes, RingRun cfg n τ s → Gathered s outcomes →
    ∀ numClients : UInt32, numClients.toNat = n → ∀ hashOrder w summary,
      failureSummary hashOrder (collectResults outcomes w).1.2 numClients = some summary →
        FigureRight outcomes summary

theorem failures_le_one {n : Nat} {cfg : RingConfig} {τ : List (RingEvent n)} {s : RingState n}
    (h : RingRun cfg n τ s) (hcfg : cfg.failFast = true ∨ cfg.numRounds ≤ 1) {c : Fin n}
    (hret : (s.clients c).phase = .returned) : (s.clients c).failures.length ≤ 1 := by
  rcases hcfg with hfast | hone
  · rcases (RingRun.ledger h c).failFast hfast with hnone | ⟨hsingle, -⟩
    · rw [hnone]
      exact Nat.zero_le 1
    · exact Nat.le_of_eq hsingle
  · have hmost := (RingRun.records h hret).atMost
    omega

/-- A client that fails all its rounds, while the other tasks panic. -/
theorem exists_all_failed {cfg : RingConfig} {n : Nat} (hoff : cfg.failFast = false)
    (hrounds : 1 ≤ cfg.numRounds) (c : Fin n) :
    ∃ τ s outcomes result, RingRun cfg n τ s ∧ Gathered s outcomes ∧ .ok result ∈ outcomes ∧
      result.failures.length = cfg.numRounds := by
  obtain ⟨τ, s, hrun, hclient, -⟩ := exists_inRound cfg hrounds c
  obtain ⟨τ', t, hmore, hret, hlen⟩ := exists_failing hoff (cfg.numRounds - 1) s 1
    (by rw [hclient]) (by omega)
  let result : ClientResult :=
    ⟨(t.clients c).successes.map fun r => ⟨r, 0, 0, 0, 0, 0⟩, (t.clients c).failures⟩
  refine ⟨τ ++ τ', t, List.ofFn fun d => if d = c then .ok result else .error "panicked", result,
    hrun.append hmore, ⟨List.length_ofFn, ?_⟩, ?_, ?_⟩
  · intro d result' hget
    rw [List.getElem?_ofFn, dif_pos d.isLt] at hget
    by_cases hd : d = c
    · subst hd
      rw [if_pos rfl] at hget
      obtain rfl := Except.ok.inj (Option.some.inj hget)
      exact ⟨hret, by simp [result, Function.comp_def], rfl⟩
    · rw [if_neg hd] at hget
      cases Option.some.inj hget
  · exact (List.mem_ofFn' _ _).mpr ⟨c, if_pos rfl⟩
  · change (t.clients c).failures.length = _
    rw [hlen, hclient, List.length_nil]
    omega

/-- **When `failed_clients` is a number of clients.**  For any outcomes:
exactly when no task has left more than one failure.  For all runs of a
configuration: exactly with `fail_fast`, or with one round at most. -/
theorem failed_clients_iff (numClients : UInt32) :
    (∀ outcomes : List (Except String ClientResult), numClients.toNat = outcomes.length →
      ∀ hashOrder w,
        ((∀ summary, failureSummary hashOrder (collectResults outcomes w).1.2 numClients =
            some summary → FigureRight outcomes summary) ↔
          ∀ outcome ∈ outcomes, (outcomeFailures outcome).length ≤ 1)) ∧
    ∀ cfg : RingConfig, 0 < numClients.toNat →
      (AlwaysRight cfg numClients.toNat ↔ cfg.failFast = true ∨ cfg.numRounds ≤ 1) := by
  refine ⟨fun outcomes => figure_right_iff outcomes numClients, fun cfg hpos =>
    ⟨fun hright => ?_, fun hcfg => ?_⟩⟩
  · by_contra hnot
    have hoff : cfg.failFast = false := by
      cases hfast : cfg.failFast with
      | false => rfl
      | true => exact absurd (Or.inl hfast) hnot
    have hrounds : 1 < cfg.numRounds := by
      by_contra hle
      exact hnot (Or.inr (Nat.not_lt.mp hle))
    obtain ⟨τ, s, outcomes, result, hrun, hgathered, hmem, hlen⟩ :=
      exists_all_failed hoff (Nat.le_of_lt hrounds) (⟨0, hpos⟩ : Fin numClients.toNat)
    have hone := (figure_right_iff outcomes numClients hgathered.length.symm
      [] (steadyWorld (.error "") (.error ""))).mp
        (hright τ s outcomes hrun hgathered _ rfl [] _) _ hmem
    simp only [outcomeFailures] at hone
    omega
  · intro τ s outcomes hrun hgathered total htotal hashOrder w
    refine (figure_right_iff outcomes total (htotal.trans hgathered.length.symm)
      hashOrder w).mpr fun outcome hmem => ?_
    rcases hgathered.of_mem hmem with ⟨e, rfl⟩ | ⟨c, result, rfl, hresult⟩
    · exact Nat.le_refl 1
    · change result.failures.length ≤ 1
      rw [hresult.failures]
      exact failures_le_one hrun hcfg hresult.returned

theorem failed_clients_iff_panic :
    (∀ summary, failureSummary [.submitFailed, .taskPanicked]
        (collectResults [.error "boom", .ok ⟨[], [.submitFailed]⟩, .ok ⟨[], []⟩]
          (steadyWorld (.error "") (.error ""))).1.2 3 = some summary →
      FigureRight [.error "boom", .ok ⟨[], [.submitFailed]⟩, .ok ⟨[], []⟩] summary) ∧
    AlwaysRight ⟨5, 1, true⟩ 3 :=
  ⟨((failed_clients_iff 3).1 [.error "boom", .ok ⟨[], [.submitFailed]⟩, .ok ⟨[], []⟩] rfl _ _).mpr
      (by simp [outcomeFailures]),
    ((failed_clients_iff 3).2 ⟨5, 1, true⟩ (by decide)).mpr (Or.inl rfl)⟩

/-- **Two failed clients out of one.**  A single client that fails both of its
rounds is counted twice. -/
theorem one_client_counted_twice : ∃ s,
    RingRun ⟨2, 1, false⟩ 1
      [.arrive 0 0 0, .pass 0 0 0, .roundFailed 0 1 .submitFailed,
        .roundFailed 0 2 .propagationTimeout] s ∧
    Gathered s [.ok ⟨[], [.submitFailed, .propagationTimeout]⟩] ∧
    clientsFailed [.ok ⟨[], [.submitFailed, .propagationTimeout]⟩] = 1 ∧
    ∀ hashOrder w, ∃ summary,
      failureSummary hashOrder
          (collectResults [.ok ⟨[], [.submitFailed, .propagationTimeout]⟩] w).1.2 1 =
        some summary ∧
      summary.failedClients = 2 ∧ summary.totalClients = 1 := by
  obtain ⟨s, hs⟩ : ∃ s, exec (step ⟨2, 1, false⟩) (initial 1)
      [.arrive 0 0 0, .pass 0 0 0, .roundFailed 0 1 .submitFailed,
        .roundFailed 0 2 .propagationTimeout] = some s :=
    Option.isSome_iff_exists.mp (by decide)
  have hclient : (exec (step ⟨2, 1, false⟩) (initial 1)
      [.arrive 0 0 0, .pass 0 0 0, .roundFailed 0 1 .submitFailed,
        .roundFailed 0 2 .propagationTimeout]).map (·.clients 0) =
      some ⟨.returned, [], [.submitFailed, .propagationTimeout]⟩ := by decide
  have hfinal : s.clients 0 = ⟨.returned, [], [.submitFailed, .propagationTimeout]⟩ := by
    simpa [hs] using hclient
  refine ⟨s, run_of_exec hs, ⟨rfl, fun c result hget => ?_⟩, rfl, fun hashOrder w => ?_⟩
  · obtain rfl : c = 0 := Subsingleton.elim _ _
    obtain rfl := Except.ok.inj (Option.some.inj hget)
    rw [hfinal]
    exact ⟨rfl, rfl, rfl⟩
  · exact ⟨_, rfl, rfl, rfl⟩

end StatementStore
