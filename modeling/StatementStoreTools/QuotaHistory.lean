import StatementStoreTools.BenchMain
import StatementStoreTools.OpsMain
import StatementStoreTools.WriteHistories

/-!
# The quotas of a chain under any history of commands

`setup-allowances` is meant to be run once, before many benchmarks, and
`admin` whenever somebody looks at a quota or changes one.  The commands come in
any order, stop where they stop, and share one storage.  A command that stops
half way has executed some of its batches, and no more than that
(`setup_storage`), so that each of them may leave a key alone or write its own
allowance there, and nothing else.

* `quota_history` — through any history, what is found under a key is what was
  there at the start or the allowance of a command aimed at it; a verified quota
  lasts until the next command aimed at its account;
* `bench_accounts_provisioned` — after a setup that has succeeded, the clients
  of every later benchmark have accounts with an allowance.
-/

namespace StatementStore

open Chunking WriteHistories

/-! ## What one command may write -/

/-- The node as a command finds it. -/
def Node.on (node : Node) (storage : Storage) : Node := { node with storage := storage }

/-- A command against the chain, and the answers it gets. -/
inductive ChainCommand
  | setup (node : Node) (args : SetupArgs)
  | admin (outside : Outside) (node : Node) (action : AdminAction)

/-- The storage that a command leaves, however it ends. -/
def ChainCommand.apply (crates : SudoCrates) : ChainCommand → Storage → Storage
  | .setup node args, storage =>
      (setupAllowances crates.toQuotaCrates (node.on storage) args).storage
  | .admin outside node action, storage =>
      (runAdminCmd crates outside (node.on storage) action).storage

/-- What a command is aimed at, and the allowance it is to put there. -/
def ChainCommand.Asks (crates : SudoCrates) : ChainCommand → Bytes → StatementAllowance → Prop
  | .setup _ args, key, allowance =>
      (∃ i < args.numClients.toNat, accountKey crates.toQuotaCrates i = key) ∧
        allowance = args.allowance
  | .admin _ _ (.setQuota args), key, allowance =>
      key = crates.statementAllowanceKey args.account ∧ allowance = ⟨args.maxCount, args.maxSize⟩
  | .admin _ _ (.showQuota _), _, _ => False

section Setup

variable {crates : QuotaCrates} {node : Node} {args : SetupArgs} {key : Bytes}

/-- The loop executes the transactions up to some point. -/
theorem submitBatches_storage (node : Node) (total k : Nat) (batches : List (List SetStorage))
    (s : SubmitState) : ∃ m, (submitBatches node total k batches s).2.storage =
      executeAll node k (batches.take m) s.storage := by
  induction batches generalizing k s with
  | nil => exact ⟨0, rfl⟩
  | cons batch rest ih =>
      rw [submitBatches]
      cases node.submissions k with
      | error e => exact ⟨0, rfl⟩
      | ok u =>
          obtain ⟨m, hm⟩ := ih (k + 1) { s with
            nonce := s.nonce + 1
            sent := s.sent ++ [(s.nonce, .batchAll batch)]
            log := s.log ++ [batchFinalized (k + 1) total]
            storage := node.execute k (.batchAll batch) s.storage }
          exact ⟨m + 1, hm⟩

theorem afterSubmission_storage (out : Except String Unit × SubmitState) :
    (afterSubmission crates node args out).storage = out.2.storage := by
  rcases out with ⟨e | u, s⟩
  · rfl
  · exact (readBack_keeps crates node args s).2.2

/-- **However it ends**, `setup-allowances` has executed some of its batches, the
first ones, or none. -/
theorem setup_storage (crates : QuotaCrates) (node : Node) (args : SetupArgs) :
    (setupAllowances crates node args).storage = node.storage ∨
      args.allowanceBatchSize.toNat ≠ 0 ∧ args.maxBatchCalls.toNat ≠ 0 ∧
        ∃ m, (setupAllowances crates node args).storage =
          executeAll node 0 ((batches crates args).take m) node.storage := by
  unfold setupAllowances
  cases node.connect with
  | error e => exact Or.inl rfl
  | ok u =>
      cases resolveSudoKey crates args.sudoSeed with
      | error e => exact Or.inl rfl
      | ok sudoKey =>
          by_cases hbatch : args.allowanceBatchSize.toNat = 0
          · simp only [sliceChunks, hbatch, if_true]
            exact Or.inl trivial
          · simp only [sliceChunks, if_neg hbatch, submitCalls]
            cases node.accountNonce sudoKey with
            | error e => exact Or.inl rfl
            | ok nonce =>
                by_cases hcalls : args.maxBatchCalls.toNat = 0
                · simp only [hcalls, if_true]
                  exact Or.inl trivial
                · simp only [if_neg hcalls, crates.create_eq, afterSubmission_storage]
                  exact Or.inr ⟨hbatch, hcalls, submitBatches_storage ..⟩

/-- An item of a batch is the requested allowance, under the key of an account. -/
theorem item_of_batch {calls : List SetStorage} {call : SetStorage} {item : StorageItem}
    (hbatch : args.allowanceBatchSize.toNat ≠ 0) (hcalls : args.maxBatchCalls.toNat ≠ 0)
    (hmem : calls ∈ batches crates args) (hcall : call ∈ calls) (hitem : item ∈ call.items) :
    ∃ i < args.numClients.toNat, item = (accountKey crates i, crates.encode args.allowance) := by
  have hall : call ∈ storageCalls crates args := by
    rw [← flatten_chunks (Nat.pos_of_ne_zero hcalls) (storageCalls crates args)]
    exact List.mem_flatten.mpr ⟨calls, hmem, hcall⟩
  obtain ⟨items, hitems, rfl⟩ := List.mem_map.mp hall
  have hmem : item ∈ accountItems crates args := by
    rw [← flatten_chunks (Nat.pos_of_ne_zero hbatch) (accountItems crates args)]
    exact List.mem_flatten.mpr ⟨items, hitems, hitem⟩
  obtain ⟨i, hi, rfl⟩ := List.mem_map.mp hmem
  exact ⟨i, List.mem_range.mp hi, rfl⟩

/-- What the first batches write. -/
theorem mem_effectiveItems_take {m : Nat} {item : StorageItem}
    (h : item ∈ effectiveItems node 0 ((batches crates args).take m)) :
    ∃ calls ∈ batches crates args, ∃ call ∈ calls, item ∈ call.items := by
  simp only [effectiveItems, List.mem_flatMap, Prod.exists, SudoCall.mem_effective] at h
  obtain ⟨calls, t, hcalls, j, call, hcall, -, hitem⟩ := h
  have hmem : calls ∈ (batches crates args).take m := List.fst_mem_of_mem_zipIdx hcalls
  exact ⟨calls, List.mem_of_mem_take hmem, call, List.mem_of_getElem? hcall, hitem⟩

/-- **What a setup may write.** -/
theorem setup_frame (crates : QuotaCrates) (node : Node) (args : SetupArgs) (key : Bytes) :
    (setupAllowances crates node args).storage key = node.storage key ∨
      (∃ i < args.numClients.toNat, accountKey crates i = key) ∧
        (setupAllowances crates node args).storage key = some (crates.encode args.allowance) := by
  rcases setup_storage crates node args with hnone | ⟨hbatch, hcalls, m, hstorage⟩
  · rw [hnone]
    exact Or.inl rfl
  · have hitems : ∀ item ∈ effectiveItems node 0 ((batches crates args).take m),
        ∃ i < args.numClients.toNat,
          item = (accountKey crates i, crates.encode args.allowance) := by
      intro item hitem
      obtain ⟨calls, hmem, call, hcall, hin⟩ := mem_effectiveItems_take hitem
      exact item_of_batch hbatch hcalls hmem hcall hin
    have huniform : ∀ item ∈ effectiveItems node 0 ((batches crates args).take m),
        item.2 = crates.encode args.allowance := by
      intro item hitem
      obtain ⟨i, -, rfl⟩ := hitems item hitem
      rfl
    rw [hstorage, executeAll_eq]
    obtain ⟨hwritten, hkept⟩ := foldl_put node.storage huniform key
    by_cases hkey : key ∈ (effectiveItems node 0 ((batches crates args).take m)).map Prod.fst
    · obtain ⟨item, hitem, rfl⟩ := List.mem_map.mp hkey
      obtain ⟨i, hi, rfl⟩ := hitems item hitem
      exact Or.inr ⟨⟨i, hi, rfl⟩, hwritten hkey⟩
    · exact Or.inl (hkept hkey)

end Setup

section Admin

variable {crates : QuotaCrates} {node : Node} {config : SetQuotaConfig} {key : Bytes}

/-- **What `set_quota` may write.** -/
theorem setQuota_cases (crates : QuotaCrates) (node : Node) (config : SetQuotaConfig)
    (key : Bytes) : (setQuota crates node config).2 key = node.storage key ∨
      key = crates.statementAllowanceKey config.account ∧
        (setQuota crates node config).2 key = some (crates.encode config.allowance) := by
  by_cases hkey : key = crates.statementAllowanceKey config.account
  · subst hkey
    unfold setQuota
    cases node.connect with
    | error e => exact Or.inl rfl
    | ok u =>
        cases node.accountNonce config.signer with
        | error e => exact Or.inl rfl
        | ok nonce =>
            cases node.submissions 0 with
            | error e => exact Or.inl rfl
            | ok u =>
                simp only [execute_setStorage]
                cases node.took 0 0 with
                | false => exact Or.inl rfl
                | true => exact Or.inr ⟨trivial, Storage.put_self _⟩
  · exact Or.inl (setQuota_frame crates node config hkey)

end Admin

/-- The commands, as writers of allowances. -/
def chainWriter (crates : SudoCrates) : Writer Bytes (Option Bytes) ChainCommand where
  apply command storage := command.apply crates storage
  writes command key value := ∃ allowance, command.Asks crates key allowance ∧
    value = some (crates.encode allowance)
  frame := by
    intro command storage key
    cases command with
    | setup node args =>
        rcases setup_frame crates.toQuotaCrates (node.on storage) args key with hsame | hwritten
        · exact Or.inl hsame
        · exact Or.inr ⟨args.allowance, ⟨hwritten.1, rfl⟩, hwritten.2⟩
    | admin outside node action =>
        cases action with
        | showQuota args =>
            simp only [ChainCommand.apply, runAdminCmd]
            cases showQuota crates.toQuotaCrates (node.on storage) (node.on storage).storage
              ⟨args.rpcEndpoint, args.account⟩ <;> exact Or.inl rfl
        | setQuota args =>
            simp only [ChainCommand.apply, runAdminCmd]
            cases (resolveSudoKeypair crates outside args.sudoKey).1 with
            | error e => exact Or.inl rfl
            | ok signer =>
                simp only [runSetQuota_storage]
                rcases setQuota_cases crates.toQuotaCrates (node.on storage) (args.config signer)
                  key with hsame | ⟨hkey, hwritten⟩
                · exact Or.inl hsame
                · exact Or.inr ⟨(args.config signer).allowance, ⟨hkey, rfl⟩, hwritten⟩

/-! ## Histories -/

/-- The storage after a history of commands. -/
def chainAfter (crates : SudoCrates) (storage : Storage) (commands : List ChainCommand) :
    Storage :=
  (chainWriter crates).after storage commands

section History

variable {crates : SudoCrates} {storage : Storage} {commands before rest : List ChainCommand}
  {command : ChainCommand} {key : Bytes}

/-- No command is aimed at a key. -/
def Unaimed (crates : SudoCrates) (commands : List ChainCommand) (key : Bytes) : Prop :=
  ∀ command ∈ commands, ∀ allowance, ¬ command.Asks crates key allowance

theorem chainAfter_split (h : commands = before ++ command :: rest) :
    chainAfter crates storage commands =
      chainAfter crates (command.apply crates (chainAfter crates storage before)) rest := by
  rw [h, chainAfter, Writer.after_append, Writer.after_cons]
  rfl

/-- What a command leaves under a key lasts until the next one aimed at it. -/
theorem chainAfter_lasts (h : commands = before ++ command :: rest)
    (hrest : Unaimed crates rest key) : chainAfter crates storage commands key =
      command.apply crates (chainAfter crates storage before) key := by
  rw [chainAfter_split h]
  apply Writer.after_untouched
  intro other hother value hwrites
  obtain ⟨allowance, hasks, -⟩ := hwrites
  exact hrest other hother allowance hasks

/-- A quota is never taken away. -/
theorem chainAfter_isSome (h : commands = before ++ command :: rest)
    (hsome : (command.apply crates (chainAfter crates storage before) key).isSome) :
    (chainAfter crates storage commands key).isSome := by
  rw [chainAfter_split h]
  apply (chainWriter crates).after_holds (P := fun value => value.isSome = true) hsome
  intro other _ value hwrites
  obtain ⟨allowance, -, rfl⟩ := hwrites
  rfl

/-- What a setup that has succeeded leaves under the key of an account. -/
theorem setup_leaves {node : Node} {args : SetupArgs}
    (h : (setupAllowances crates.toQuotaCrates (node.on storage) args).exit = .succeeded) {i : Nat}
    (hi : i < args.numClients.toNat) :
    let left := (ChainCommand.setup node args).apply crates storage
      (accountKey crates.toQuotaCrates i)
    left = some (crates.encode args.allowance) ∨
      left = storage (accountKey crates.toQuotaCrates i) ∧ left.isSome := by
  have hfree := unobstructed_of_succeeded h
  obtain ⟨hstorage, hsucceeds⟩ := hfree.run
  obtain ⟨hwritten, hkept⟩ := executeAll_spec crates.toQuotaCrates (node.on storage)
    hfree.batch_pos hfree.calls_pos i
  simp only [ChainCommand.apply, hstorage]
  by_cases hwrote : Wrote crates.toQuotaCrates (node.on storage) args i
  · exact Or.inl (hwritten hwrote)
  · have hstale := (hsucceeds.mp h i hi).resolve_left hwrote
    rw [hkept hwrote]
    exact Or.inr ⟨rfl, hstale⟩

end History

/-- **The quotas of a chain through any history.**  Whatever is found under a key
was there at the start, or is the allowance of a command aimed at it.  The quota
that `set-quota` has verified lasts until the next command aimed at its account,
and so does what a successful setup has left: its allowance, unless the account
had one before. -/
theorem quota_history (crates : SudoCrates) (storage : Storage) (commands : List ChainCommand) :
    (∀ key, chainAfter crates storage commands key = storage key ∨
      ∃ command ∈ commands, ∃ allowance, command.Asks crates key allowance ∧
        chainAfter crates storage commands key = some (crates.encode allowance)) ∧
    (∀ before outside node args rest,
      commands = before ++ .admin outside node (.setQuota args) :: rest →
      (runAdminCmd crates outside (node.on (chainAfter crates storage before))
        (.setQuota args)).exit = .ok () →
      Unaimed crates rest (crates.statementAllowanceKey args.account) →
      Shows crates.toQuotaCrates (chainAfter crates storage commands) args.account
        ⟨args.maxCount, args.maxSize⟩) ∧
    ∀ before node args rest, commands = before ++ .setup node args :: rest →
      (setupAllowances crates.toQuotaCrates (node.on (chainAfter crates storage before))
        args).exit = .succeeded →
      ∀ i < args.numClients.toNat,
        (chainAfter crates storage commands (accountKey crates.toQuotaCrates i)).isSome ∧
        (chainAfter crates storage before (accountKey crates.toQuotaCrates i) = none →
          Unaimed crates rest (accountKey crates.toQuotaCrates i) →
          (chainAfter crates storage commands).quota crates.toQuotaCrates
            (account crates.toQuotaCrates i) = some args.allowance) := by
  refine ⟨fun key => ?_, ?_, ?_⟩
  · rcases (chainWriter crates).after_cases storage commands key with hsame | hwritten
    · exact Or.inl hsame
    · obtain ⟨command, hmem, allowance, hasks, hvalue⟩ := hwritten
      exact Or.inr ⟨command, hmem, allowance, hasks, hvalue⟩
  · intro before outside node args rest hsplit hexit hrest
    have hlasts := @chainAfter_lasts crates storage commands before rest _ _ hsplit hrest
    unfold Shows
    rw [hlasts]
    simp only [ChainCommand.apply]
    simp only [runAdminCmd] at hexit ⊢
    cases hsigner : (resolveSudoKeypair crates outside args.sudoKey).1 with
    | error e =>
        rw [hsigner] at hexit
        cases hexit
    | ok signer =>
        rw [hsigner] at hexit
        exact (runSetQuota_ok.mp hexit).2
  · intro before node args rest hsplit hexit i hi
    have hleft := setup_leaves hexit hi
    refine ⟨?_, ?_⟩
    · apply chainAfter_isSome hsplit
      rcases hleft with hwritten | hstale
      · rw [hwritten]
        rfl
      · exact hstale.2
    · intro hnone hrest
      have hlasts := @chainAfter_lasts crates storage commands before rest _ _ hsplit hrest
      rcases hleft with hwritten | hstale
      · rw [Storage.quota]
        change (chainAfter crates storage commands (accountKey crates.toQuotaCrates i)).bind
          crates.decode = _
        rw [hlasts, hwritten, Option.bind_some, crates.decode_encode]
      · rw [hstale.1, hnone] at hstale
        cases hstale.2

/-! ## The accounts of a benchmark -/

section Provisioned

variable {crates : SudoCrates} {keys : KeyCrates} {storage : Storage}
  {before rest : List ChainCommand} {node : Node} {args : SetupArgs} {benchArgs : BenchArgs}
  {testRunId : UInt64} {w v : World} {tasks : List Task}

/-- Without a seed, client `c` signs as the benchmark account of its number. -/
theorem keyring_of_noSeed {env : ClientEnv} {task : Task}
    (hstart : startBench keys testRunId benchArgs w = some (.ok tasks, v))
    (hseed : benchArgs.seed = []) (htask : task ∈ tasks) (henv : env.keys = keys)
    (hconfig : env.config = task.config) :
    ∃ c : UInt32, c.toNat < benchArgs.numClients.toNat ∧ env.keyring = .ok (keys.getKeypair c) := by
  obtain ⟨-, messagesPattern, -, -, rfl⟩ := startBench_tasks hstart
  obtain ⟨c, hc, rfl⟩ := List.mem_map.mp htask
  refine ⟨c, mem_clientIds.mp hc, ?_⟩
  have hnone : env.config.seed = none := by
    rw [hconfig]
    exact if_pos hseed
  have hid : env.config.clientId = c := by
    rw [hconfig]
    rfl
  simp only [ClientEnv.keyring, hnone, hid, henv]

/-- **The accounts of a benchmark.**  Once a setup has succeeded, every client of
a benchmark without `--seed` and with no more clients signs as an account that
has an allowance, whatever commands have come before or after; where the chain
had none to start with, it is one that a command of the history has asked for. -/
theorem bench_accounts_provisioned
    (hkeys : ∀ i, (keys.getKeypair i).account = crates.publicKey i)
    (hsetup : (setupAllowances crates.toQuotaCrates (node.on (chainAfter crates storage before))
      args).exit = .succeeded)
    (hstart : startBench keys testRunId benchArgs w = some (.ok tasks, v))
    (hseed : benchArgs.seed = []) (hclients : benchArgs.numClients ≤ args.numClients) :
    ∀ task ∈ tasks, ∀ env : ClientEnv, env.keys = keys → env.config = task.config →
      ∃ pair, env.keyring = .ok pair ∧
        let key := crates.statementAllowanceKey pair.account
        let commands := before ++ .setup node args :: rest
        (chainAfter crates storage commands key).isSome ∧
        (storage key = none → ∃ command ∈ commands, ∃ allowance, command.Asks crates key allowance ∧
          (chainAfter crates storage commands).quota crates.toQuotaCrates pair.account =
            some allowance) := by
  intro task htask env henv hconfig
  obtain ⟨c, hc, hkeyring⟩ := keyring_of_noSeed hstart hseed htask henv hconfig
  refine ⟨_, hkeyring, ?_⟩
  have hkey : crates.statementAllowanceKey (keys.getKeypair c).account =
      accountKey crates.toQuotaCrates c.toNat := by
    rw [hkeys, accountKey, UInt32.ofNat_toNat]
  have hlt : c.toNat < args.numClients.toNat :=
    Nat.lt_of_lt_of_le hc (UInt32.le_iff_toNat_le.mp hclients)
  have hsome : (chainAfter crates storage (before ++ .setup node args :: rest)
      (accountKey crates.toQuotaCrates c.toNat)).isSome := by
    apply chainAfter_isSome rfl
    rcases setup_leaves hsetup hlt with hwritten | hstale
    · rw [hwritten]
      rfl
    · exact hstale.2
  rw [← hkey] at hsome
  refine ⟨hsome, ?_⟩
  intro hnone
  rcases (chainWriter crates).after_cases storage (before ++ .setup node args :: rest)
    (crates.statementAllowanceKey (keys.getKeypair c).account) with hsame | hwritten
  · change chainAfter crates storage _ _ = _ at hsame
    rw [hsame, hnone] at hsome
    cases hsome
  · obtain ⟨command, hmem, allowance, hasks, hvalue⟩ := hwritten
    change chainAfter crates storage _ _ = _ at hvalue
    refine ⟨command, hmem, allowance, hasks, ?_⟩
    rw [Storage.quota, hvalue, Option.bind_some, crates.decode_encode]

end Provisioned

/-- Every seed is good, and signs as one account. -/
def plainSudo : SudoCrates := { aliceCrates with toQuotaCrates := scaleCrates }

/-- The pairs of the benchmark accounts. -/
def numberedKeys : KeyCrates :=
  ⟨fun _ => .error "not a seed", fun i => ⟨scaleCrates.publicKey i⟩, id⟩

/-- Five accounts are set up, and one of them is used. -/
theorem bench_accounts_provisioned_alone : ∃ tasks v,
    startBench numberedKeys 7 aloneArgs (steadyWorld (.error "") (.error "")) =
        some (.ok tasks, v) ∧
      ∀ task ∈ tasks, ∀ env : ClientEnv, env.keys = numberedKeys → env.config = task.config →
        ∃ pair, env.keyring = .ok pair ∧
          (chainAfter plainSudo (fun _ => none) [.setup quietNode fiveClients]
            (plainSudo.statementAllowanceKey pair.account)).isSome := by
  obtain ⟨v, -, hstart⟩ := @startBench_ok numberedKeys 7 aloneArgs
    (steadyWorld (.error "") (.error "")) [(1, 8)]
    ⟨by decide, by decide, by simp [aloneArgs]⟩ fun i _ => rfl
  refine ⟨_, v, hstart, fun task htask env henv hconfig => ?_⟩
  have hfree : Unobstructed plainSudo.toQuotaCrates (quietNode.on fun _ => none) fiveClients :=
    ⟨rfl, ⟨_, 7, rfl, rfl⟩, by decide, by decide, fun _ _ => rfl, rfl, fun _ _ => rfl⟩
  have hsetup := hfree.run.2.mpr fun i hi => Or.inl ⟨i, hi, rfl, rfl⟩
  obtain ⟨pair, hkeyring, hsome, -⟩ := @bench_accounts_provisioned plainSudo _ (fun _ => none) []
    [] quietNode fiveClients aloneArgs _ _ _ _ (fun _ => rfl) hsetup hstart rfl (by decide)
    task htask env henv hconfig
  exact ⟨pair, hkeyring, hsome⟩

end StatementStore
