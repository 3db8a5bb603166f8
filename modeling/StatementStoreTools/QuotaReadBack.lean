import StatementStoreTools.OpsCommon
import StatementStoreTools.SetupAllowances

/-!
# What the read-backs of quotas are worth

Both commands that write a quota read it back, because a finalized extrinsic
does not say that the call inside it took effect.  `admin set-quota` compares
the value it finds with the requested one (`setQuota_verified`).
`setup-allowances` only looks whether there is a value: one left by an earlier
run will do, and `setup_quotas_iff` says when that goes wrong.
-/

namespace StatementStore

open Chunking

/-! ## `admin set-quota` -/

structure SetQuotaConfig where
  endpoint : String
  account : Bytes32
  signer : Bytes32
  maxCount : UInt32
  maxSize : UInt32

structure ShowQuotaConfig where
  endpoint : String
  account : Bytes32

def SetQuotaConfig.allowance (config : SetQuotaConfig) : StatementAllowance :=
  ⟨config.maxCount, config.maxSize⟩

def failedToConnect (endpoint : String) : String :=
  s!"Failed to connect to {endpoint}"

/-- `set_quota`, and the storage after it. -/
def setQuota (crates : QuotaCrates) (node : Node) (config : SetQuotaConfig) :
    Except String Unit × Storage :=
  match node.connect with
  | .error _ => (.error (failedToConnect config.endpoint), node.storage)
  | .ok () =>
      let key := crates.statementAllowanceKey config.account
      let tx := SudoCall.setStorage ⟨[(key, crates.encode config.allowance)]⟩
      match node.accountNonce config.signer with
      | .error e => (.error e, node.storage)
      | .ok _ =>
          match node.submissions 0 with
          | .error e => (.error e, node.storage)
          | .ok () => (.ok (), node.execute 0 tx node.storage)

/-- `show_quota`.  An empty value counts as none. -/
def showQuota (crates : QuotaCrates) (node : Node) (storage : Storage)
    (config : ShowQuotaConfig) : Except String (Option StatementAllowance) :=
  match node.wsConnect with
  | .error _ => .error (failedToConnect config.endpoint)
  | .ok () =>
      match node.reads 0 with
      | .error e => .error s!"state_getStorage failed on {config.endpoint}: {e}"
      | .ok () =>
          match storage (crates.statementAllowanceKey config.account) with
          | none => .ok none
          | some bytes =>
              if bytes = [] then .ok none
              else
                match crates.decode bytes with
                | none => .error "Failed to decode StatementAllowance from storage value"
                | some allowance => .ok (some allowance)

/-- `log_quota`. -/
def quotaLine (account : Bytes32) : Option StatementAllowance → String
  | some q => s!"account={hexFull account} quota: max_count={q.maxCount.toNat} " ++
      s!"max_size={q.maxSize.toNat}" ++
        if q.maxCount = 0 ∨ q.maxSize = 0 then " (depleted)" else ""
  | none => s!"account={hexFull account} has NO quota set"

def settingQuota (config : SetQuotaConfig) : String :=
  s!"Setting quota for account={hexFull config.account} to max_count={config.maxCount.toNat} " ++
    s!"max_size={config.maxSize.toNat}, signing as account={hexFull config.signer}"

structure AdminRun where
  exit : Except String Unit
  log : List String
  storage : Storage

/-- The `SetQuota` arm of `run_admin_cmd`, once the signer is resolved. -/
def runSetQuota (crates : QuotaCrates) (node : Node) (config : SetQuotaConfig) : AdminRun :=
  let log := [settingQuota config]
  match setQuota crates node config with
  | (.error e, storage) => ⟨.error e, log, storage⟩
  | (.ok (), storage) =>
      match showQuota crates node storage ⟨config.endpoint, config.account⟩ with
      | .error e => ⟨.error e, log, storage⟩
      | .ok quota =>
          let log := log ++ [quotaLine config.account quota]
          if quota.any fun q => q.maxCount = config.maxCount ∧ q.maxSize = config.maxSize then
            ⟨.ok (), log, storage⟩
          else
            ⟨.error (s!"Quota read-back did not match requested values " ++
              s!"(max_count={config.maxCount.toNat}, max_size={config.maxSize.toNat}) " ++
              s!"for account={hexFull config.account}"), log, storage⟩

/-- A quota that is shown is the one the nodes find. -/
theorem showQuota_some {crates : QuotaCrates} {node : Node} {storage : Storage}
    {config : ShowQuotaConfig} {q : StatementAllowance}
    (h : showQuota crates node storage config = .ok (some q)) :
    storage.quota crates config.account = some q := by
  unfold showQuota at h
  cases hws : node.wsConnect with
  | error e => simp [hws] at h
  | ok u =>
      cases hread : node.reads 0 with
      | error e => simp [hws, hread] at h
      | ok u =>
          rw [Storage.quota]
          cases hvalue : storage (crates.statementAllowanceKey config.account) with
          | none => simp [hws, hread, hvalue] at h
          | some bytes =>
              simp only [hws, hread, hvalue] at h
              split_ifs at h with hempty
              · cases h
              · rw [Option.bind_some]
                cases hdecode : crates.decode bytes with
                | none => simp [hdecode] at h
                | some allowance => simpa [hdecode] using h

/-- **`admin set-quota` is verified.**  Whatever the storage held and whether or
not the call took effect: if it succeeds, the account has the requested quota. -/
theorem setQuota_verified {crates : QuotaCrates} {node : Node} {config : SetQuotaConfig}
    (h : (runSetQuota crates node config).exit = .ok ()) :
    (runSetQuota crates node config).storage.quota crates config.account =
      some config.allowance := by
  unfold runSetQuota at h ⊢
  rcases hset : setQuota crates node config with ⟨e | u, storage⟩
  · simp [hset] at h
  · simp only [hset] at h ⊢
    cases hshow : showQuota crates node storage ⟨config.endpoint, config.account⟩ with
    | error e => simp [hshow] at h
    | ok quota =>
        simp only [hshow] at h ⊢
        split_ifs at h ⊢ with hmatch
        obtain ⟨q, rfl, hq⟩ := (Option.any_eq_true ..).mp hmatch
        obtain ⟨hcount, hsize⟩ := of_decide_eq_true hq
        rw [showQuota_some hshow, SetQuotaConfig.allowance, ← hcount, ← hsize]

/-! ## What the batches leave in the storage -/

/-- The `i`-th benchmark account. -/
def account (crates : QuotaCrates) (i : Nat) : Bytes32 :=
  crates.publicKey (UInt32.ofNat i)

/-- A call that took effect has written the key of account `i`: its own item, or
that of an account with the same key.  Item `j` stands in call
`j / allowance_batch_size`, call `c` in transaction `c / max_batch_calls`. -/
def Wrote (crates : QuotaCrates) (node : Node) (args : SetupArgs) (i : Nat) : Prop :=
  ∃ j < args.numClients.toNat, accountKey crates j = accountKey crates i ∧
    node.took (j / args.allowanceBatchSize.toNat / args.maxBatchCalls.toNat)
      (j / args.allowanceBatchSize.toNat % args.maxBatchCalls.toNat) = true

/-- The items of all calls that take effect, from the `k`-th transaction on. -/
def effectiveItems (node : Node) (k : Nat) (batches : List (List SetStorage)) :
    List StorageItem :=
  (batches.zipIdx k).flatMap fun entry =>
    (SudoCall.batchAll entry.1).effective (node.took entry.2)

section Effects

variable {crates : QuotaCrates} {node : Node} {args : SetupArgs} {i : Nat}

theorem executeAll_eq (k : Nat) (batches : List (List SetStorage)) (storage : Storage) :
    executeAll node k batches storage =
      (effectiveItems node k batches).foldl Storage.put storage := by
  induction batches generalizing k storage with
  | nil => rfl
  | cons batch rest ih =>
      rw [executeAll, ih]
      simp only [effectiveItems, List.zipIdx_cons, List.flatMap_cons, List.foldl_append]
      rfl

theorem getElem?_accountItems {item : StorageItem} :
    (accountItems crates args)[i]? = some item ↔ i < args.numClients.toNat ∧
      item = (accountKey crates i, crates.encode args.allowance) := by
  simp only [accountItems, List.getElem?_map, Option.map_eq_some_iff,
    List.getElem?_eq_some_iff, List.length_range, List.getElem_range]
  constructor
  · intro h
    obtain ⟨j, ⟨hlt, rfl⟩, rfl⟩ := h
    exact ⟨hlt, rfl⟩
  · intro h
    exact ⟨i, ⟨h.1, rfl⟩, h.2.symm⟩

/-- Item `i` stands in call `i / allowance_batch_size`. -/
theorem mem_storageCalls (hbatch : 0 < args.allowanceBatchSize.toNat) {item : StorageItem}
    {c : Nat} :
    (∃ call, (storageCalls crates args)[c]? = some call ∧ item ∈ call.items) ↔
      ∃ i, (accountItems crates args)[i]? = some item ∧
        i / args.allowanceBatchSize.toNat = c := by
  rw [← mem_getElem?_chunks hbatch]
  simp only [storageCalls, List.getElem?_map, Option.map_eq_some_iff]
  constructor
  · intro h
    obtain ⟨call, ⟨chunk, hchunk, rfl⟩, hmem⟩ := h
    exact ⟨chunk, hchunk, hmem⟩
  · intro h
    obtain ⟨chunk, hchunk, hmem⟩ := h
    exact ⟨⟨chunk⟩, ⟨chunk, hchunk, rfl⟩, hmem⟩

/-- The items that are written are those whose call takes effect. -/
theorem mem_effectiveItems (hbatch : 0 < args.allowanceBatchSize.toNat)
    (hcalls : 0 < args.maxBatchCalls.toNat) {item : StorageItem} :
    item ∈ effectiveItems node 0 (batches crates args) ↔
      ∃ i < args.numClients.toNat, item = (accountKey crates i, crates.encode args.allowance) ∧
        node.took (i / args.allowanceBatchSize.toNat / args.maxBatchCalls.toNat)
          (i / args.allowanceBatchSize.toNat % args.maxBatchCalls.toNat) = true := by
  simp only [effectiveItems, List.mem_flatMap, Prod.exists, List.mem_zipIdx_iff_getElem?,
    SudoCall.mem_effective]
  constructor
  · intro h
    obtain ⟨calls, t, ht, j, call, hj, htook, hmem⟩ := h
    obtain ⟨hlt, hat⟩ := (getElem?_getElem?_chunks hcalls).mp ⟨calls, ht, hj⟩
    obtain ⟨i, hi, hplace⟩ := (mem_storageCalls hbatch).mp ⟨call, hat, hmem⟩
    obtain ⟨hcount, heq⟩ := getElem?_accountItems.mp hi
    refine ⟨i, hcount, heq, ?_⟩
    rw [hplace, Nat.mul_comm, Nat.mul_add_div hcalls, Nat.div_eq_of_lt hlt, Nat.add_zero,
      Nat.mul_add_mod, Nat.mod_eq_of_lt hlt]
    exact htook
  · intro h
    obtain ⟨i, hcount, heq, htook⟩ := h
    obtain ⟨call, hat, hmem⟩ :=
      (mem_storageCalls hbatch).mpr ⟨i, getElem?_accountItems.mpr ⟨hcount, heq⟩, rfl⟩
    rw [← Nat.div_add_mod' (i / args.allowanceBatchSize.toNat) args.maxBatchCalls.toNat] at hat
    obtain ⟨calls, ht, hj⟩ := (getElem?_getElem?_chunks hcalls).mpr ⟨Nat.mod_lt _ hcalls, hat⟩
    exact ⟨calls, _, ht, _, call, hj, htook, hmem⟩

/-- **The storage after all transactions.**  A key that was written holds the
requested allowance, any other what it held before. -/
theorem executeAll_spec (crates : QuotaCrates) (node : Node)
    (hbatch : 0 < args.allowanceBatchSize.toNat) (hcalls : 0 < args.maxBatchCalls.toNat)
    (i : Nat) :
    (Wrote crates node args i →
      executeAll node 0 (batches crates args) node.storage (accountKey crates i) =
        some (crates.encode args.allowance)) ∧
    (¬ Wrote crates node args i →
      executeAll node 0 (batches crates args) node.storage (accountKey crates i) =
        node.storage (accountKey crates i)) := by
  have huniform : ∀ item ∈ effectiveItems node 0 (batches crates args),
      item.2 = crates.encode args.allowance := by
    intro item hitem
    obtain ⟨j, -, rfl, -⟩ := (mem_effectiveItems hbatch hcalls).mp hitem
    rfl
  have hkeys : accountKey crates i ∈ (effectiveItems node 0 (batches crates args)).map Prod.fst ↔
      Wrote crates node args i := by
    rw [List.mem_map]
    constructor
    · intro h
      obtain ⟨item, hitem, hkey⟩ := h
      obtain ⟨j, hj, rfl, htook⟩ := (mem_effectiveItems hbatch hcalls).mp hitem
      exact ⟨j, hj, hkey, htook⟩
    · intro h
      obtain ⟨j, hj, hkey, htook⟩ := h
      exact ⟨_, (mem_effectiveItems hbatch hcalls).mpr ⟨j, hj, rfl, htook⟩, hkey⟩
  obtain ⟨hwritten, hkept⟩ := foldl_put node.storage huniform (accountKey crates i)
  rw [executeAll_eq, ← hkeys]
  exact ⟨hwritten, hkept⟩

theorem isSome_executeAll (hbatch : 0 < args.allowanceBatchSize.toNat)
    (hcalls : 0 < args.maxBatchCalls.toNat) (i : Nat) :
    (executeAll node 0 (batches crates args) node.storage (accountKey crates i)).isSome ↔
      Wrote crates node args i ∨ (node.storage (accountKey crates i)).isSome := by
  obtain ⟨hwritten, hkept⟩ := executeAll_spec crates node hbatch hcalls i
  by_cases hwrote : Wrote crates node args i
  · simp [hwritten hwrote, hwrote]
  · simp [hkept hwrote, hwrote]

theorem quota_executeAll (hbatch : 0 < args.allowanceBatchSize.toNat)
    (hcalls : 0 < args.maxBatchCalls.toNat) (i : Nat) :
    Storage.quota crates (executeAll node 0 (batches crates args) node.storage)
        (account crates i) = some args.allowance ↔
      Wrote crates node args i ∨
        node.storage.quota crates (account crates i) = some args.allowance := by
  obtain ⟨hwritten, hkept⟩ := executeAll_spec crates node hbatch hcalls i
  change (executeAll _ _ _ _ (accountKey crates i)).bind crates.decode = _ ↔ _
  by_cases hwrote : Wrote crates node args i
  · simp [hwritten hwrote, hwrote, crates.decode_encode]
  · rw [hkept hwrote, or_iff_right hwrote]
    rfl

theorem verifyAllowances_ok {storage : Storage} {is : List Nat} :
    verifyAllowances crates node storage is = .ok () ↔
      ∀ i ∈ is, node.reads i = .ok () ∧ (storage (accountKey crates i)).isSome := by
  induction is with
  | nil => simp [verifyAllowances]
  | cons i rest ih =>
      rw [List.forall_mem_cons, ← ih, verifyAllowances, fetchRaw]
      cases hread : node.reads i with
      | error e => simp
      | ok u => cases hvalue : storage (accountKey crates i) <;> simp

/-- None of the answers that a run needs is a refusal, and no size is zero. -/
structure Unobstructed (crates : QuotaCrates) (node : Node) (args : SetupArgs) : Prop where
  connect : node.connect = .ok ()
  nonce : ∃ sudoKey nonce, resolveSudoKey crates args.sudoSeed = .ok sudoKey ∧
    node.accountNonce sudoKey = .ok nonce
  batch_pos : 0 < args.allowanceBatchSize.toNat
  calls_pos : 0 < args.maxBatchCalls.toNat
  submissions : ∀ k < (args.numClients.toNat ⌈/⌉ args.allowanceBatchSize.toNat) ⌈/⌉
    args.maxBatchCalls.toNat, node.submissions k = .ok ()
  block : node.currentBlock = .ok ()
  reads : ∀ i < args.numClients.toNat, node.reads i = .ok ()

/-- A run that succeeds has met no refusal. -/
theorem unobstructed_of_succeeded (h : (setupAllowances crates node args).exit = .succeeded) :
    Unobstructed crates node args := by
  cases hconnect : node.connect with
  | error e => simp [setupAllowances, hconnect] at h
  | ok u =>
      cases hkey : resolveSudoKey crates args.sudoSeed with
      | error e => simp [setupAllowances, hconnect, hkey] at h
      | ok sudoKey =>
          cases setup_outcome hconnect hkey with
          | zeroBatch _ hexit _ => cases h.symm.trans hexit
          | noNonce _ _ hexit _ => cases h.symm.trans hexit
          | zeroCalls _ _ _ hexit _ => cases h.symm.trans hexit
          | stops _ _ _ _ _ _ hexit _ => cases h.symm.trans hexit
          | readsBack hbatch hnonce hcalls hok hrun =>
              rw [hrun] at h
              obtain ⟨hblock, hverify⟩ := (readBack_exit ..).2.mp h
              exact {
                connect := hconnect
                nonce := ⟨sudoKey, _, hkey, hnonce⟩
                batch_pos := hbatch
                calls_pos := hcalls
                submissions := by rwa [← length_batches hbatch hcalls]
                block := hblock
                reads := fun i hi => (verifyAllowances_ok.mp hverify i (List.mem_range.mpr hi)).1 }

/-- **An unobstructed run** executes all batches, and it succeeds just if every
account's key holds something then. -/
theorem Unobstructed.run (h : Unobstructed crates node args) :
    (setupAllowances crates node args).storage =
      executeAll node 0 (batches crates args) node.storage ∧
    ((setupAllowances crates node args).exit = .succeeded ↔ ∀ i < args.numClients.toNat,
      Wrote crates node args i ∨ (node.storage (accountKey crates i)).isSome) := by
  obtain ⟨sudoKey, nonce, hkey, hnonce⟩ := h.nonce
  cases setup_outcome h.connect hkey with
  | zeroBatch hzero _ _ => exact absurd hzero h.batch_pos.ne'
  | noNonce _ hnone _ _ => cases hnonce.symm.trans hnone
  | zeroCalls _ _ hzero _ _ => exact absurd hzero h.calls_pos.ne'
  | stops hbatch _ hcalls hm hfails _ _ _ =>
      rw [length_batches hbatch hcalls] at hm
      cases (h.submissions _ hm).symm.trans hfails
  | readsBack hbatch _ hcalls _ hrun =>
      rw [hrun]
      refine ⟨(readBack_keeps ..).2.2, ?_⟩
      rw [(readBack_exit ..).2, verifyAllowances_ok]
      constructor
      · intro hsome i hi
        exact (isSome_executeAll hbatch hcalls i).mp (hsome.2 i (List.mem_range.mpr hi)).2
      · intro hsome
        refine ⟨h.block, fun i hi => ?_⟩
        have hlt := List.mem_range.mp hi
        exact ⟨h.reads i hlt, (isSome_executeAll hbatch hcalls i).mpr (hsome i hlt)⟩

/-- **The read-back of `setup-allowances`.**  That its success means the requested
quota for every account holds just if, unless a refusal or a size of zero stops
the run, some key is still empty, so that it fails, or every key was written or
held that quota before. -/
theorem setup_quotas_iff (crates : QuotaCrates) (node : Node) (args : SetupArgs) :
    ((setupAllowances crates node args).exit = .succeeded → ∀ i < args.numClients.toNat,
      (setupAllowances crates node args).storage.quota crates (account crates i) =
        some args.allowance) ↔
    (Unobstructed crates node args →
      (∃ i < args.numClients.toNat, ¬ Wrote crates node args i ∧
        node.storage (accountKey crates i) = none) ∨
      ∀ i < args.numClients.toNat, Wrote crates node args i ∨
        node.storage.quota crates (account crates i) = some args.allowance) := by
  by_cases hfree : Unobstructed crates node args
  · obtain ⟨hstorage, hsucceeds⟩ := hfree.run
    simp only [hsucceeds, hstorage, quota_executeAll hfree.batch_pos hfree.calls_pos]
    constructor
    · intro h _
      by_cases hall : ∀ i < args.numClients.toNat,
          Wrote crates node args i ∨ (node.storage (accountKey crates i)).isSome
      · exact Or.inr (h hall)
      · push Not at hall
        obtain ⟨i, hi, hnot, hnone⟩ := hall
        exact Or.inl ⟨i, hi, hnot, by simpa using hnone⟩
    · intro h hall
      rcases h hfree with ⟨i, hi, hnot, hnone⟩ | hall'
      · have hsome := (hall i hi).resolve_left hnot
        rw [hnone] at hsome
        cases hsome
      · exact hall'
  · refine iff_of_true ?_ fun h => absurd h hfree
    intro hsucceeded
    exact absurd (unobstructed_of_succeeded hsucceeded) hfree

end Effects

/-- An earlier run has left its allowance everywhere, and no call takes effect. -/
def staleNode : Node :=
  { quietNode with
    storage := fun _ => some (scaleCrates.encode ⟨1, 1⟩)
    took := fun _ _ => false }

/-- The calls fail, the stale quotas stay, and the run succeeds. -/
theorem setup_accepts_stale :
    (setupAllowances scaleCrates staleNode fiveClients).exit = .succeeded ∧
      (setupAllowances scaleCrates staleNode fiveClients).storage.quota scaleCrates
        (account scaleCrates 0) = some ⟨1, 1⟩ ∧
      fiveClients.allowance = ⟨100000, 1000000⟩ :=
  ⟨rfl, scaleCrates.decode_encode ⟨1, 1⟩, rfl⟩

end StatementStore
