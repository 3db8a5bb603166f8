import StatementStoreTools.OpsCommands
import StatementStoreTools.RingCompletion
import StatementStoreTools.RunClient

/-!
# `statement-latency-bench`

The binary around the ring: it checks its arguments, opens the connections,
spawns the clients, and makes an exit of what they return.  How the spawned
tasks run together is what the modules on the ring are about; here the runtime
is a parameter that hands back what it has joined.

* `bench_spawns` — which arguments get as far as spawning, what is spawned, and
  that nothing has been touched otherwise;
* `bench_exit` — what the exit tells about the run.
-/

namespace StatementStore

open Traces StatementStore.Ring

/-! ## The program -/

structure BenchArgs where
  rpcEndpoints : List String
  numClients : UInt32
  messagesPattern : String
  receiveTimeoutMs : UInt64
  numRounds : Nat
  intervalMs : UInt64
  statementExpiryMs : UInt64
  failFast : Bool
  seed : List String

/-- The arguments, with the parsed pattern, as the clients see them. -/
def BenchArgs.ringArgs (args : BenchArgs) (messagesPattern : List (UInt64 × UInt64)) :
    RingArgs where
  numClients := args.numClients
  messagesPattern := messagesPattern
  receiveTimeoutMs := args.receiveTimeoutMs
  numRounds := args.numRounds
  intervalMs := args.intervalMs
  statementExpiryMs := args.statementExpiryMs
  failFast := args.failFast
  seed := args.seed

/-- The loop over `--seed`. -/
def validateSeeds (keys : KeyCrates) : List String → Except String Unit
  | [] => .ok ()
  | seed :: seeds =>
      match keys.pairFromString seed with
      | .error e => .error s!"Invalid SURI in --seed: {e}"
      | .ok _ => validateSeeds keys seeds

/-- `log_configuration`. -/
def configurationLine (args : BenchArgs) (messagesPattern : List (UInt64 × UInt64)) : String :=
  let endpoints := ", ".intercalate args.rpcEndpoints
  let patternStr := ", ".intercalate
    (messagesPattern.map fun entry => s!"{entry.1.toNat}x{entry.2.toNat}B")
  s!"Starting Statement Store Latency Benchmark: endpoints=[{endpoints}] " ++
    s!"clients={args.numClients.toNat} rounds={args.numRounds} " ++
    s!"interval={args.intervalMs.toNat}ms pattern=[{patternStr}]"

def connectToEndpoints : List String → World → Except String (List Handle) × World
  | [], w => (.ok [], w)
  | endpoint :: endpoints, w =>
      match connect endpoint w with
      | (.error e, w) => (.error e, w)
      | (.ok client, w) =>
          match connectToEndpoints endpoints w with
          | (.error e, w) => (.error e, w)
          | (.ok clients, w) => (.ok (client :: clients), w)

/-- What `run_client` is spawned with. -/
structure Task where
  config : ClientConfig
  rpcClient : Handle

/-- One client task; `none` is an index out of range. -/
def spawnClient (args : RingArgs) (testRunId : UInt64) (rpcClients : List Handle)
    (clientId : UInt32) : Option Task :=
  rpcClients[clientId.toNat % rpcClients.length]?.map fun rpcClient =>
    ⟨clientConfig args testRunId clientId, rpcClient⟩

/-- `main` up to the spawned tasks. -/
def startBench (keys : KeyCrates) (testRunId : UInt64) (args : BenchArgs) (w : World) :
    Option (Except String (List Task) × World) :=
  match parseMessagesPattern args.messagesPattern with
  | .error e => some (.error e, w)
  | .ok messagesPattern =>
      if args.rpcEndpoints = [] then
        some (.error ("At least one RPC endpoint must be provided. " ++
          "Example: --rpc-endpoints ws://localhost:9944"), w)
      else
        match validateSeeds keys args.seed with
        | .error e => some (.error e, w)
        | .ok () =>
            let w := w.logLine (configurationLine args messagesPattern)
            match connectToEndpoints args.rpcEndpoints w with
            | (.error e, w) => some (.error e, w)
            | (.ok rpcClients, w) =>
                let w := w.logLine
                  s!"Spawning {args.numClients.toNat} client tasks... {testRunId.toNat}"
                let ring := args.ringArgs messagesPattern
                ((clientIds ring).mapM (spawnClient ring testRunId rpcClients)).map fun tasks =>
                  (.ok tasks, w)

/-- `main` from the joined tasks on. -/
def finishBench (hashOrder : List FailureKind) (args : BenchArgs)
    (joined : List (Except String ClientResult)) (w : World) : Except String Unit × World :=
  let ((successes, failures), w) := collectResults joined w
  let w := reportResults hashOrder successes failures args.numClients args.numRounds w
  if failures ≠ [] ∧ successes = [] then
    (.error "Benchmark failed: no rounds completed successfully", w)
  else (.ok (), w)

/-- `main`, under a runtime that runs tasks and joins them. -/
def bench (keys : KeyCrates)
    (runtime : List Task → World → List (Except String ClientResult) × World)
    (hashOrder : List FailureKind) (testRunId : UInt64) (args : BenchArgs) (w : World) :
    Option (Except String Unit × World) :=
  match startBench keys testRunId args w with
  | none => none
  | some (.error e, w) => some (.error e, w)
  | some (.ok tasks, w) =>
      let (joined, w) := runtime tasks w
      some (finishBench hashOrder args joined w)

/-! ## Which arguments are accepted -/

/-- The arguments are in order, and this is their pattern. -/
structure Accepted (keys : KeyCrates) (args : BenchArgs)
    (messagesPattern : List (UInt64 × UInt64)) : Prop where
  pattern : parseMessagesPattern args.messagesPattern = .ok messagesPattern
  endpoints : args.rpcEndpoints ≠ []
  seeds : ∀ seed ∈ args.seed, ∃ pair, keys.pairFromString seed = .ok pair

section Start

variable {keys : KeyCrates} {testRunId : UInt64} {args : BenchArgs} {w v : World}
  {messagesPattern : List (UInt64 × UInt64)} {tasks : List Task} {seeds : List String}

theorem validateSeeds_ok : validateSeeds keys seeds = .ok () ↔
    ∀ seed ∈ seeds, ∃ pair, keys.pairFromString seed = .ok pair := by
  induction seeds with
  | nil => simp [validateSeeds]
  | cons seed seeds ih =>
      rw [List.forall_mem_cons, ← ih]
      cases hseed : keys.pairFromString seed with
      | error e => simp [validateSeeds, hseed]
      | ok pair => simp [validateSeeds, hseed]

/-- The connections of the ring are those of `connect_all`, without the names. -/
theorem connectToEndpoints_eq (endpoints : List String) (w : World) :
    connectToEndpoints endpoints w =
      ((connectEach endpoints w).1.map (·.map (·.2)), (connectEach endpoints w).2) := by
  induction endpoints generalizing w with
  | nil => rfl
  | cons endpoint endpoints ih =>
      rcases hconnect : connect endpoint w with ⟨e | client, w'⟩
      · simp [connectToEndpoints, connectEach, hconnect, Except.map]
      · have hrest := ih w'
        rcases heach : connectEach endpoints w' with ⟨e | clients, w''⟩
        · rw [heach] at hrest
          simp [connectToEndpoints, connectEach, hconnect, hrest, heach, Except.map]
        · rw [heach] at hrest
          simp [connectToEndpoints, connectEach, hconnect, hrest, heach, Except.map]

theorem mapM_some {α β : Type} {f : α → Option β} {g : α → β} {xs : List α}
    (h : ∀ x ∈ xs, f x = some (g x)) : xs.mapM f = some (xs.map g) := by
  induction xs with
  | nil => rfl
  | cons x xs ih =>
      obtain ⟨hx, hxs⟩ := List.forall_mem_cons.mp h
      simp [List.mapM_cons, hx, ih hxs]

/-- The task of a client, over `endpoints` connections from handle `first` on. -/
def taskOf (args : RingArgs) (testRunId : UInt64) (first endpoints : Nat) (clientId : UInt32) :
    Task :=
  ⟨clientConfig args testRunId clientId, first + clientId.toNat % endpoints⟩

theorem spawnClient_eq (args : RingArgs) (testRunId : UInt64) {first endpoints : Nat}
    (hpos : 0 < endpoints) (clientId : UInt32) :
    spawnClient args testRunId (List.range' first endpoints) clientId =
      some (taskOf args testRunId first endpoints clientId) := by
  have hlt := Nat.mod_lt clientId.toNat hpos
  rw [spawnClient, List.length_range', List.getElem?_range' hlt, one_mul]
  rfl

theorem spawnClients_eq (args : RingArgs) (testRunId : UInt64) (first : Nat) {endpoints : Nat}
    (hpos : 0 < endpoints) :
    (clientIds args).mapM (spawnClient args testRunId (List.range' first endpoints)) =
      some ((clientIds args).map (taskOf args testRunId first endpoints)) :=
  mapM_some fun clientId _ => spawnClient_eq args testRunId hpos clientId

/-- With arguments in order and all connections open, the tasks are spawned. -/
theorem startBench_ok (h : Accepted keys args messagesPattern)
    (hdials : ∀ i < args.rpcEndpoints.length, (w.dials.get i).2 = .ok ()) :
    ∃ v, v.calls = w.calls ∧ startBench keys testRunId args w = some (.ok
      ((clientIds (args.ringArgs messagesPattern)).map
        (taskOf (args.ringArgs messagesPattern) testRunId w.opened
          args.rpcEndpoints.length)), v) := by
  have hpos : 0 < args.rpcEndpoints.length := List.length_pos_iff.mpr h.endpoints
  obtain ⟨endpoints, v, heach, hconn⟩ :=
    @connectEach_ok args.rpcEndpoints (w.logLine (configurationLine args messagesPattern)) hdials
  have htasks := spawnClients_eq (args.ringArgs messagesPattern) testRunId w.opened hpos
  have hopened : (w.logLine (configurationLine args messagesPattern)).opened = w.opened := rfl
  refine ⟨v.logLine s!"Spawning {args.numClients.toNat} client tasks... {testRunId.toNat}",
    hconn.calls, ?_⟩
  simp only [startBench, h.pattern, if_neg h.endpoints, validateSeeds_ok.mpr h.seeds,
    connectToEndpoints_eq, heach, Except.map, hconn.handles, hopened, htasks, Option.map_some]

/-- A connection that does not open ends the program before anything is spawned. -/
theorem startBench_unreached (h : Accepted keys args messagesPattern)
    (hdials : ∃ i < args.rpcEndpoints.length, (w.dials.get i).2 ≠ .ok ()) :
    ∃ e v, startBench keys testRunId args w = some (.error e, v) := by
  obtain ⟨e, v, heach, -⟩ :=
    @connectEach_error args.rpcEndpoints (w.logLine (configurationLine args messagesPattern)) hdials
  refine ⟨e, v, ?_⟩
  simp only [startBench, h.pattern, if_neg h.endpoints, validateSeeds_ok.mpr h.seeds,
    connectToEndpoints_eq, heach, Except.map]

/-- Arguments that are not in order end it at once. -/
theorem startBench_refused (h : ∀ messagesPattern, ¬ Accepted keys args messagesPattern) :
    ∃ e, startBench keys testRunId args w = some (.error e, w) := by
  unfold startBench
  cases hpattern : parseMessagesPattern args.messagesPattern with
  | error e => exact ⟨e, rfl⟩
  | ok messagesPattern =>
      by_cases hnone : args.rpcEndpoints = []
      · simp [hnone]
      · cases hseeds : validateSeeds keys args.seed with
        | error e => simp [hnone]
        | ok u => exact absurd ⟨hpattern, hnone, validateSeeds_ok.mp hseeds⟩ (h messagesPattern)

/-- It comes to one of the three. -/
theorem startBench_some (keys : KeyCrates) (testRunId : UInt64) (args : BenchArgs) (w : World) :
    ∃ out, startBench keys testRunId args w = some out := by
  by_cases haccepted : ∃ messagesPattern, Accepted keys args messagesPattern
  · obtain ⟨messagesPattern, hargs⟩ := haccepted
    by_cases hdials : ∀ i < args.rpcEndpoints.length, (w.dials.get i).2 = .ok ()
    · obtain ⟨v, -, hstart⟩ := @startBench_ok keys testRunId args w _ hargs hdials
      exact ⟨_, hstart⟩
    · push Not at hdials
      obtain ⟨e, v, hstart⟩ := @startBench_unreached keys testRunId args w _ hargs hdials
      exact ⟨_, hstart⟩
  · obtain ⟨e, hstart⟩ := @startBench_refused keys testRunId args w
      fun messagesPattern h => haccepted ⟨messagesPattern, h⟩
    exact ⟨_, hstart⟩

/-- Tasks are there only for arguments in order and open connections. -/
theorem startBench_tasks (h : startBench keys testRunId args w = some (.ok tasks, v)) :
    v.calls = w.calls ∧ ∃ messagesPattern, Accepted keys args messagesPattern ∧
      (∀ i < args.rpcEndpoints.length, (w.dials.get i).2 = .ok ()) ∧
      tasks = (clientIds (args.ringArgs messagesPattern)).map
        (taskOf (args.ringArgs messagesPattern) testRunId w.opened args.rpcEndpoints.length) := by
  by_cases haccepted : ∃ messagesPattern, Accepted keys args messagesPattern
  · obtain ⟨messagesPattern, hargs⟩ := haccepted
    by_cases hdials : ∀ i < args.rpcEndpoints.length, (w.dials.get i).2 = .ok ()
    · obtain ⟨v', hcalls, hstart⟩ := @startBench_ok keys testRunId args w _ hargs hdials
      obtain ⟨htasks, rfl⟩ := Prod.mk.inj (Option.some.inj (hstart.symm.trans h))
      exact ⟨hcalls, messagesPattern, hargs, hdials, (Except.ok.inj htasks).symm⟩
    · push Not at hdials
      obtain ⟨e, v', hstart⟩ := @startBench_unreached keys testRunId args w _ hargs hdials
      cases (Prod.mk.inj (Option.some.inj (hstart.symm.trans h))).1
  · obtain ⟨e, hstart⟩ := @startBench_refused keys testRunId args w
      fun messagesPattern h => haccepted ⟨messagesPattern, h⟩
    cases (Prod.mk.inj (Option.some.inj (hstart.symm.trans h))).1

end Start

/-! ## What is spawned -/

/-- One task for each client, with its configuration, a key pair, and its share
of the connections. -/
structure Spawned (keys : KeyCrates) (args : RingArgs) (testRunId : UInt64)
    (first endpoints : Nat) (tasks : List Task) : Prop where
  clients : tasks.map (·.config.clientId) = clientIds args
  configs : ∀ task ∈ tasks, task.config = clientConfig args testRunId task.config.clientId
  /-- no client panics over its seed -/
  keyrings : ∀ task ∈ tasks, ∀ env : ClientEnv, env.keys = keys → env.config = task.config →
    ∃ pair, env.keyring = .ok pair
  /-- the connections are shared out evenly -/
  balanced : ∀ i < endpoints, tasks.countP (fun task => task.rpcClient = first + i) =
    args.numClients.toNat / endpoints + if i < args.numClients.toNat % endpoints then 1 else 0

/-- A seed picked round-robin is one of those given. -/
theorem clientConfig_seed_mem {args : RingArgs} {testRunId : UInt64} {clientId : UInt32}
    {seed : String} (h : (clientConfig args testRunId clientId).seed = some seed) :
    seed ∈ args.seed := by
  unfold clientConfig at h
  split at h
  · cases h
  · exact List.mem_of_getElem? h

/-- So the seed of a client is one that has been checked. -/
theorem keyring_ok {env : ClientEnv} {args : RingArgs} {testRunId : UInt64} {clientId : UInt32}
    (hseeds : ∀ seed ∈ args.seed, ∃ pair, env.keys.pairFromString seed = .ok pair)
    (hconfig : env.config = clientConfig args testRunId clientId) :
    ∃ pair, env.keyring = .ok pair := by
  unfold ClientEnv.keyring
  cases hseed : env.config.seed with
  | none => exact ⟨_, rfl⟩
  | some seed =>
      rw [hconfig] at hseed
      obtain ⟨pair, hpair⟩ := hseeds seed (clientConfig_seed_mem hseed)
      exact ⟨pair, by simp only [hpair]⟩

/-- The numbers below `n` with remainder `i`. -/
theorem countP_range_mod (n : Nat) {endpoints i : Nat} (hi : i < endpoints) :
    (List.range n).countP (fun k => k % endpoints = i) =
      n / endpoints + if i < n % endpoints then 1 else 0 := by
  have hcount : ∀ m : Nat, (List.range m).countP (fun k => k % endpoints = i) =
      Nat.count (· ≡ i [MOD endpoints]) m := by
    intro m
    induction m with
    | zero => rfl
    | succ m ih =>
        rw [List.range_succ, List.countP_append, ih, Nat.count_succ, List.countP_singleton]
        simp only [Nat.ModEq, Nat.mod_eq_of_lt hi, decide_eq_true_eq]
  rw [hcount, Nat.count_modEq_card n (Nat.zero_lt_of_lt hi), Nat.mod_eq_of_lt hi]

theorem spawned_map {keys : KeyCrates} {args : RingArgs} (testRunId : UInt64)
    (first endpoints : Nat)
    (hseeds : ∀ seed ∈ args.seed, ∃ pair, keys.pairFromString seed = .ok pair) :
    Spawned keys args testRunId first endpoints
      ((clientIds args).map (taskOf args testRunId first endpoints)) where
  clients := by
    rw [List.map_map]
    exact List.map_id'' (fun _ => rfl) _
  configs task htask := by
    obtain ⟨clientId, -, rfl⟩ := List.mem_map.mp htask
    rfl
  keyrings task htask env hkeys hconfig := by
    obtain ⟨clientId, -, rfl⟩ := List.mem_map.mp htask
    exact keyring_ok (by rwa [hkeys]) hconfig
  balanced i hi := by
    rw [List.countP_map, clientIds, List.countP_map, ← countP_range_mod _ hi]
    refine List.countP_congr fun k hk => ?_
    have hlt := List.mem_range.mp hk
    have hmax := args.numClients.toNat_lt
    have hk32 : (UInt32.ofNat k).toNat = k := by
      rw [UInt32.toNat_ofNat']
      omega
    simp [taskOf, hk32]

/-- **How far `main` gets.**  It never indexes out of range.  It spawns its
tasks exactly for arguments in order whose endpoints can all be reached: one
task for each client, over the connections in turn, none of which can fail over
its seed.  With arguments out of order it has not touched anything. -/
theorem bench_spawns (keys : KeyCrates) (testRunId : UInt64) (args : BenchArgs) (w : World) :
    (∃ out, startBench keys testRunId args w = some out) ∧
    ((∃ tasks v, startBench keys testRunId args w = some (.ok tasks, v)) ↔
      (∃ messagesPattern, Accepted keys args messagesPattern) ∧
        ∀ i < args.rpcEndpoints.length, (w.dials.get i).2 = .ok ()) ∧
    ((¬ ∃ messagesPattern, Accepted keys args messagesPattern) →
      ∃ e, startBench keys testRunId args w = some (.error e, w)) ∧
    ∀ tasks v, startBench keys testRunId args w = some (.ok tasks, v) →
      v.calls = w.calls ∧ ∃ messagesPattern, Accepted keys args messagesPattern ∧
        Spawned keys (args.ringArgs messagesPattern) testRunId w.opened args.rpcEndpoints.length
          tasks := by
  refine ⟨startBench_some keys testRunId args w, ⟨fun h => ?_, fun h => ?_⟩, fun hnot => ?_, ?_⟩
  · obtain ⟨tasks, v, hstart⟩ := h
    obtain ⟨-, messagesPattern, haccepted, hdials, -⟩ := startBench_tasks hstart
    exact ⟨⟨messagesPattern, haccepted⟩, hdials⟩
  · obtain ⟨⟨messagesPattern, haccepted⟩, hdials⟩ := h
    obtain ⟨v, -, hstart⟩ := @startBench_ok keys testRunId args w _ haccepted hdials
    exact ⟨_, v, hstart⟩
  · exact startBench_refused fun messagesPattern h => hnot ⟨messagesPattern, h⟩
  · intro tasks v hstart
    obtain ⟨hcalls, messagesPattern, haccepted, -, rfl⟩ := startBench_tasks hstart
    exact ⟨hcalls, messagesPattern, haccepted, spawned_map testRunId _ _ haccepted.seeds⟩

/-! ## What the exit tells -/

def RingArgs.ring (args : RingArgs) : RingConfig where
  numRounds := args.numRounds
  messages := totalMessages args.messagesPattern
  failFast := args.failFast

section Exit

variable {n : Nat} {cfg : RingConfig} {τ : List (RingEvent n)} {s : RingState n} {c : Fin n}
  {joined : List (Except String ClientResult)}

/-- A completed round of a client whose task has not panicked. -/
def KeptRound (τ : List (RingEvent n)) (joined : List (Except String ClientResult)) : Prop :=
  ∃ c r result, .roundOk c r ∈ τ ∧ joined[c.val]? = some (.ok result)

theorem Gathered.get {outcome : Except String ClientResult} (h : Gathered s joined)
    (hmem : outcome ∈ joined) : ∃ c : Fin n, joined[c.val]? = some outcome := by
  obtain ⟨i, hi⟩ := List.getElem?_of_mem hmem
  have hlt : i < n := by
    rw [← h.length]
    exact (List.getElem?_eq_some_iff.mp hi).1
  exact ⟨⟨i, hlt⟩, hi⟩

/-- There is a success to report exactly when there is a completed round. -/
theorem successes_ne_nil (h : RingRun cfg n τ s) (hjoin : Gathered s joined) :
    joined.flatMap outcomeSuccesses ≠ [] ↔ KeptRound τ joined := by
  rw [Ne, List.flatMap_eq_nil_iff, Classical.not_forall]
  constructor
  · intro hex
    obtain ⟨outcome, hout⟩ := hex
    obtain ⟨hmem, hsome⟩ := Classical.not_imp.mp hout
    obtain ⟨c, hget⟩ := hjoin.get hmem
    cases outcome with
    | error e => exact absurd rfl hsome
    | ok result =>
        obtain ⟨stats, hstats⟩ := List.exists_mem_of_ne_nil _ hsome
        have hround : stats.round ∈ (s.clients c).successes := by
          rw [← (hjoin.results c result hget).successes]
          exact List.mem_map_of_mem hstats
        exact ⟨c, stats.round, result, (mem_successes h).mp hround, hget⟩
  · intro hex
    obtain ⟨c, r, result, hround, hget⟩ := hex
    refine ⟨.ok result, fun hnone => ?_⟩
    have hmem := (mem_successes h).mpr hround
    rw [← (hjoin.results c result hget).successes] at hmem
    have hnil : result.successes = [] := hnone (List.mem_of_getElem? hget)
    rw [hnil] at hmem
    cases hmem

/-- There is no failure to report exactly when nobody has panicked and everybody
has completed all rounds. -/
theorem failures_eq_nil (h : RingRun cfg n τ s) (hjoin : Gathered s joined) :
    joined.flatMap outcomeFailures = [] ↔
      (∀ outcome ∈ joined, ∃ result, outcome = .ok result) ∧ Completed cfg s := by
  rw [List.flatMap_eq_nil_iff]
  constructor
  · intro hnone
    have hok : ∀ outcome ∈ joined, ∃ result, outcome = .ok result := by
      intro outcome hmem
      cases outcome with
      | error e => cases hnone _ hmem
      | ok result => exact ⟨result, rfl⟩
    refine ⟨hok, fun c => ?_⟩
    have hlt : c.val < joined.length := by
      rw [hjoin.length]
      exact c.isLt
    obtain ⟨result, hresult⟩ := hok _ (List.getElem_mem hlt)
    have hget : joined[c.val]? = some (.ok result) := by
      rw [List.getElem?_eq_getElem hlt, hresult]
    have hreturned := hjoin.results c result hget
    refine clean_returned h hreturned.returned ?_
    rw [← hreturned.failures]
    exact hnone _ (List.mem_of_getElem? hget)
  · intro hboth outcome hmem
    obtain ⟨hok, hcompleted⟩ := hboth
    obtain ⟨result, rfl⟩ := hok outcome hmem
    obtain ⟨c, hget⟩ := hjoin.get hmem
    have hfailures := (hjoin.results c result hget).failures
    rw [hcompleted c] at hfailures
    exact hfailures

theorem finishBench_exit (hashOrder : List FailureKind) (args : BenchArgs) (w : World) :
    (finishBench hashOrder args joined w).1 =
      if joined.flatMap outcomeFailures ≠ [] ∧ joined.flatMap outcomeSuccesses = [] then
        .error "Benchmark failed: no rounds completed successfully"
      else .ok () := by
  have hcollect := collectResults_spec joined w
  unfold finishBench
  rcases hrun : collectResults joined w with ⟨⟨successes, failures⟩, w'⟩
  rw [hrun] at hcollect
  obtain ⟨rfl, rfl⟩ := Prod.mk.inj hcollect
  simp only
  split <;> rfl

/-- **What the exit tells.**  When the clients have been spawned and the runtime
has joined tasks of the ring: `main` fails exactly when no task that ended
without a panic has completed a round, unless there was nothing to do.  Failures,
panics included, do not count otherwise. -/
theorem bench_exit {keys : KeyCrates} {hashOrder : List FailureKind} {testRunId : UInt64}
    {runtime : List Task → World → List (Except String ClientResult) × World} {args : BenchArgs}
    {messagesPattern : List (UInt64 × UInt64)} {w v : World} {tasks : List Task}
    {τ : List (RingEvent args.numClients.toNat)} {s : RingState args.numClients.toNat}
    (hstart : startBench keys testRunId args w = some (.ok tasks, v))
    (hrun : RingRun (args.ringArgs messagesPattern).ring args.numClients.toNat τ s)
    (hjoin : Gathered s (runtime tasks v).1) :
    ∃ exit v', bench keys runtime hashOrder testRunId args w = some (exit, v') ∧
      (exit = .ok () ∨ exit = .error "Benchmark failed: no rounds completed successfully") ∧
      (exit = .ok () ↔ KeptRound τ (runtime tasks v).1 ∨
        (∀ outcome ∈ (runtime tasks v).1, ∃ result, outcome = .ok result) ∧
          Completed (args.ringArgs messagesPattern).ring s) ∧
      (0 < args.numClients.toNat → 0 < args.numRounds →
        (exit = .ok () ↔ KeptRound τ (runtime tasks v).1)) := by
  have hexit := @finishBench_exit (runtime tasks v).1 hashOrder args (runtime tasks v).2
  rcases hfinish : finishBench hashOrder args (runtime tasks v).1 (runtime tasks v).2 with
    ⟨exit, v'⟩
  rw [hfinish] at hexit
  simp only at hexit
  have hiff : exit = .ok () ↔ KeptRound τ (runtime tasks v).1 ∨
      (∀ outcome ∈ (runtime tasks v).1, ∃ result, outcome = .ok result) ∧
        Completed (args.ringArgs messagesPattern).ring s := by
    rw [← successes_ne_nil hrun hjoin, ← failures_eq_nil hrun hjoin, hexit]
    split
    · rename_i hbad
      simp [hbad.1, hbad.2]
    · rename_i hgood
      simp only [true_iff]
      by_contra hnot
      obtain ⟨hsucc, hfail⟩ := not_or.mp hnot
      exact hgood ⟨hfail, not_not.mp hsucc⟩
  refine ⟨exit, v', ?_, ?_, hiff, fun hclients hrounds => hiff.trans ⟨fun h => ?_, Or.inl⟩⟩
  · simp only [bench, hstart, hfinish]
  · rw [hexit]
    split
    · exact Or.inr rfl
    · exact Or.inl rfl
  · -- a client that has completed all of at least one round has completed the first
    rcases h with hkept | ⟨hok, hcompleted⟩
    · exact hkept
    · have hlt : 0 < (runtime tasks v).1.length := by
        rw [hjoin.length]
        exact hclients
      obtain ⟨result, hresult⟩ := hok _ (List.getElem_mem hlt)
      refine ⟨⟨0, hclients⟩, 1, result, (mem_successes hrun).mp ?_, ?_⟩
      · rw [hcompleted]
        exact mem_roundsUpTo.mpr ⟨Nat.le_refl 1, hrounds⟩
      · rw [List.getElem?_eq_getElem hlt, hresult]

end Exit

/-- One client, and three rounds. -/
def aloneArgs : BenchArgs where
  rpcEndpoints := ["ws://node"]
  numClients := 1
  messagesPattern := "1:8"
  receiveTimeoutMs := 5000
  numRounds := 3
  intervalMs := 10000
  statementExpiryMs := 600000
  failFast := false
  seed := []

/-- It fails one round, completes one and stops; the exit is a good one. -/
theorem bench_exit_alone : ∃ exit v',
    bench refusedClient.keys
        (fun _ w => ([.ok ⟨[⟨2, 0, 0, 0, 1, 1⟩], [.submitFailed, .peerFailed]⟩], w)) [] 7 aloneArgs
        (steadyWorld (.error "") (.error "")) = some (exit, v') ∧ exit = .ok () := by
  have haccepted : Accepted refusedClient.keys aloneArgs [(1, 8)] :=
    ⟨by decide, by decide, by simp [aloneArgs]⟩
  obtain ⟨v, -, hstart⟩ := @startBench_ok refusedClient.keys 7 aloneArgs
    (steadyWorld (.error "") (.error "")) [(1, 8)] haccepted fun i _ => rfl
  obtain ⟨s, hs⟩ : ∃ s, exec (step ⟨3, 1, false⟩) (initial 1) aloneAndStopped = some s :=
    Option.isSome_iff_exists.mp (by decide)
  have hclient : (exec (step ⟨3, 1, false⟩) (initial 1) aloneAndStopped).map (·.clients 0) =
      some ⟨.returned, [2], [.submitFailed, .peerFailed]⟩ := by decide
  have hfinal : s.clients 0 = ⟨.returned, [2], [.submitFailed, .peerFailed]⟩ := by
    simpa [hs] using hclient
  have hjoin : Gathered s [.ok ⟨[⟨2, 0, 0, 0, 1, 1⟩], [.submitFailed, .peerFailed]⟩] := by
    refine ⟨rfl, fun c result hget => ?_⟩
    obtain rfl : c = 0 := Subsingleton.elim _ _
    obtain rfl := Except.ok.inj (Option.some.inj hget)
    rw [hfinal]
    exact ⟨rfl, rfl, rfl⟩
  have hround : .roundOk (0 : Fin 1) 2 ∈ aloneAndStopped := by simp [aloneAndStopped]
  obtain ⟨exit, v', hbench, -, -, hkept⟩ :=
    @bench_exit refusedClient.keys [] 7 (fun _ w =>
      ([.ok ⟨[⟨2, 0, 0, 0, 1, 1⟩], [.submitFailed, .peerFailed]⟩], w)) aloneArgs [(1, 8)] _ v _
      aloneAndStopped s hstart (run_of_exec hs) hjoin
  exact ⟨exit, v', hbench, (hkept (by decide) (by decide)).mpr ⟨(0 : Fin 1), 2, _, hround, rfl⟩⟩

end StatementStore
