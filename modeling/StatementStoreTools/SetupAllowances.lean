import StatementStoreTools.Chunking
import StatementStoreTools.QuotaStorage

/-!
# `setup-allowances`

The binary that writes the allowances of all benchmark accounts.  The items are
cut into `set_storage` calls, the calls into `batch_all` transactions, and the
transactions are submitted one after the other, each under the next nonce.  At
the end the storage is read back.

Two chunkings with sizes of their own neither lose nor repeat an account:
`setup_batches`.
-/

namespace StatementStore

open Chunking

structure SetupArgs where
  sudoSeed : String
  numClients : UInt32
  allowanceBatchSize : UInt32
  allowanceMaxCount : UInt32
  allowanceMaxSize : UInt32
  maxBatchCalls : UInt64

def SetupArgs.allowance (args : SetupArgs) : StatementAllowance :=
  ⟨args.allowanceMaxCount, args.allowanceMaxSize⟩

inductive Exit
  | succeeded
  | failed (error : String)
  | panicked
deriving DecidableEq

/-- A whole run: how it ends, the extrinsics handed to `submit_extrinsic` with
their nonces, the log, and the storage at the end. -/
structure SetupRun where
  exit : Exit
  sent : List (UInt64 × SudoCall)
  log : List String
  storage : Storage

/-- `slice::chunks`, which panics for a size of zero. -/
def sliceChunks {α : Type} (size : Nat) (xs : List α) : Option (List (List α)) :=
  if size = 0 then none else some (chunks size xs)

/-- `usize::div_ceil`. -/
def divCeil (a b : Nat) : Nat :=
  if 0 < a % b then a / b + 1 else a / b

/-- From the seed to the account that signs. -/
def resolveSudoKey (crates : QuotaCrates) (sudoSeed : String) : Except String Bytes32 :=
  match crates.secretUri sudoSeed with
  | .error e => .error s!"Invalid sudo seed URI: {e}"
  | .ok uri =>
      match crates.keypair uri with
      | .error e => .error s!"Failed to derive sudo keypair: {e}"
      | .ok key => .ok key

structure SubmitState where
  nonce : UInt64
  sent : List (UInt64 × SudoCall)
  log : List String
  storage : Storage

def batchFinalized (batch total : Nat) : String :=
  s!"Batch {batch}/{total} finalized"

/-- The loop over the transactions, from the `chunkIdx`-th on. -/
def submitBatches (node : Node) (total : Nat) :
    Nat → List (List SetStorage) → SubmitState → Except String Unit × SubmitState
  | _, [], s => (.ok (), s)
  | chunkIdx, chunk :: rest, s =>
      let tx := SudoCall.batchAll chunk
      let s := { s with sent := s.sent ++ [(s.nonce, tx)] }
      match node.submissions chunkIdx with
      | .error e => (.error e, s)
      | .ok () => submitBatches node total (chunkIdx + 1) rest
          { s with
            nonce := s.nonce + 1
            log := s.log ++ [batchFinalized (chunkIdx + 1) total]
            storage := node.execute chunkIdx tx s.storage }

/-- `fetch_raw`, the `i`-th query of the storage. -/
def fetchRaw (crates : QuotaCrates) (node : Node) (storage : Storage) (i : Nat) (key : Bytes) :
    Except String Bytes :=
  match node.reads i, storage key with
  | .error e, _ => .error e
  | .ok (), none => .error crates.noValueFound
  | .ok (), some value => .ok value

/-- The storage key of the `i`-th benchmark account. -/
def accountKey (crates : QuotaCrates) (i : Nat) : Bytes :=
  crates.statementAllowanceKey (crates.publicKey (UInt32.ofNat i))

/-- The loop that reads the allowances back. -/
def verifyAllowances (crates : QuotaCrates) (node : Node) (storage : Storage) :
    List Nat → Except String Unit
  | [] => .ok ()
  | i :: rest =>
      match fetchRaw crates node storage i (accountKey crates i) with
      | .ok _ => verifyAllowances crates node storage rest
      | .error e => .error s!"Account {i}: allowance NOT found at finalized block: {e}"

/-- The allowances are read back at the latest finalized block. -/
def readBack (crates : QuotaCrates) (node : Node) (args : SetupArgs) (s : SubmitState) :
    SetupRun :=
  match node.currentBlock with
  | .error _ => ⟨.failed "Failed to get finalized block", s.sent, s.log, s.storage⟩
  | .ok () =>
      match verifyAllowances crates node s.storage (List.range args.numClients.toNat) with
      | .error e => ⟨.failed e, s.sent, s.log, s.storage⟩
      | .ok () => ⟨.succeeded, s.sent,
          s.log ++ [s!"Allowances set successfully for {args.numClients.toNat} accounts"],
          s.storage⟩

/-- `?` after the loop over the transactions. -/
def afterSubmission (crates : QuotaCrates) (node : Node) (args : SetupArgs) :
    Except String Unit × SubmitState → SetupRun
  | (.error e, s) => ⟨.failed e, s.sent, s.log, s.storage⟩
  | (.ok (), s) => readBack crates node args s

/-- From the `set_storage` calls on. -/
def submitCalls (crates : QuotaCrates) (node : Node) (args : SetupArgs) (sudoKey : Bytes32)
    (storageCalls : List SetStorage) (log : List String) : SetupRun :=
  match node.accountNonce sudoKey with
  | .error e => ⟨.failed e, [], log, node.storage⟩
  | .ok nonce =>
      match sliceChunks args.maxBatchCalls.toNat storageCalls with
      | none => ⟨.panicked, [], log, node.storage⟩
      | some batches =>
          afterSubmission crates node args
            (submitBatches node (divCeil storageCalls.length args.maxBatchCalls.toNat) 0 batches
              ⟨nonce, [], log, node.storage⟩)

/-- `main`. -/
def setupAllowances (crates : QuotaCrates) (node : Node) (args : SetupArgs) : SetupRun :=
  let log := [s!"Setting up allowances for {args.numClients.toNat} accounts " ++
    s!"(batch_size={args.allowanceBatchSize.toNat}, max_count={args.allowanceMaxCount.toNat}, " ++
    s!"max_size={args.allowanceMaxSize.toNat}, max_batch_calls={args.maxBatchCalls.toNat})"]
  match node.connect, resolveSudoKey crates args.sudoSeed with
  | .error e, _ => ⟨.failed e, [], log, node.storage⟩
  | .ok (), .error e => ⟨.failed e, [], log, node.storage⟩
  | .ok (), .ok sudoKey =>
      match sliceChunks args.allowanceBatchSize.toNat
        (crates.createUniformAllowanceItems args.numClients args.allowance) with
      | none => ⟨.panicked, [], log, node.storage⟩
      | some groups =>
          let storageCalls := groups.map SetStorage.mk
          submitCalls crates node args sudoKey storageCalls (log ++
            [s!"Submitting {storageCalls.length} set_storage calls for " ++
              s!"{args.numClients.toNat} accounts (max_batch_calls={args.maxBatchCalls.toNat})"])

/-! ## The loop over the transactions -/

/-- The transactions under consecutive nonces. -/
def numbered (nonce : UInt64) : List (List SetStorage) → List (UInt64 × SudoCall)
  | [] => []
  | batch :: rest => (nonce, .batchAll batch) :: numbered (nonce + 1) rest

/-- The storage after the transactions from the `k`-th on. -/
def executeAll (node : Node) : Nat → List (List SetStorage) → Storage → Storage
  | _, [], storage => storage
  | k, batch :: rest, storage =>
      executeAll node (k + 1) rest (node.execute k (.batchAll batch) storage)

section Batches

variable {node : Node} {total k : Nat} {batches done : List (List SetStorage)} {nonce : UInt64}
  {s : SubmitState}

theorem numbered_calls (nonce : UInt64) (batches : List (List SetStorage)) :
    (numbered nonce batches).map Prod.snd = batches.map .batchAll := by
  induction batches generalizing nonce with
  | nil => rfl
  | cons batch rest ih => rw [numbered, List.map_cons, List.map_cons, ih]

@[simp]
theorem length_numbered : (numbered nonce batches).length = batches.length := by
  have hlength := congrArg List.length (numbered_calls nonce batches)
  rwa [List.length_map, List.length_map] at hlength

theorem nonce_succ (nonce : UInt64) (j : Nat) :
    nonce + 1 + UInt64.ofNat j = nonce + UInt64.ofNat (j + 1) := by
  rw [UInt64.ofNat_add, UInt64.add_assoc, UInt64.add_comm 1]
  rfl

theorem numbered_nonces :
    (numbered nonce batches).map Prod.fst =
      (List.range batches.length).map fun j => nonce + UInt64.ofNat j := by
  induction batches generalizing nonce with
  | nil => rfl
  | cons batch rest ih =>
      rw [numbered, List.map_cons, ih, List.length_cons, List.range_succ_eq_map, List.map_cons,
        List.map_map]
      congr 1
      · exact (UInt64.add_zero nonce).symm
      · exact List.map_congr_left fun j _ => nonce_succ nonce j

/-- The submissions after the first of `n + 1`. -/
theorem submissions_tail {n : Nat} (hok : ∀ j < n + 1, node.submissions (k + j) = .ok ()) :
    ∀ j < n, node.submissions (k + 1 + j) = .ok () := by
  intro j hj
  rw [Nat.add_assoc, Nat.add_comm 1]
  exact hok (j + 1) (Nat.succ_lt_succ hj)

/-- Every submission succeeds. -/
theorem submitBatches_ok (hok : ∀ j < batches.length, node.submissions (k + j) = .ok ()) :
    submitBatches node total k batches s = (.ok (), {
      nonce := s.nonce + UInt64.ofNat batches.length
      sent := s.sent ++ numbered s.nonce batches
      log := s.log ++ (List.range' k batches.length).map fun j => batchFinalized (j + 1) total
      storage := executeAll node k batches s.storage }) := by
  induction batches generalizing k s with
  | nil => simp [submitBatches, numbered, executeAll]
  | cons batch rest ih =>
      have hfirst : node.submissions k = .ok () := hok 0 (Nat.zero_lt_succ _)
      simp only [submitBatches, hfirst, ih (submissions_tail hok), numbered, executeAll,
        List.length_cons, nonce_succ, List.range'_succ, List.map_cons, List.append_assoc,
        List.singleton_append]

/-- The submission after `done` fails: it is the last one. -/
theorem submitBatches_error (total : Nat) (s : SubmitState) (batch : List SetStorage)
    (rest : List (List SetStorage)) {e : String}
    (hok : ∀ j < done.length, node.submissions (k + j) = .ok ())
    (hfails : node.submissions (k + done.length) = .error e) :
    ∃ s', submitBatches node total k (done ++ batch :: rest) s = (.error e, s') ∧
      s'.sent = s.sent ++ numbered s.nonce (done ++ [batch]) := by
  induction done generalizing k s with
  | nil =>
      have hfirst : node.submissions k = .error e := hfails
      refine ⟨{ s with sent := s.sent ++ [(s.nonce, .batchAll batch)] }, ?_, rfl⟩
      simp only [List.nil_append, submitBatches, hfirst]
  | cons first done ih =>
      have hfirst : node.submissions k = .ok () := hok 0 (Nat.zero_lt_succ _)
      have hlater : node.submissions (k + 1 + done.length) = .error e := by
        rw [Nat.add_assoc, Nat.add_comm 1]
        exact hfails
      simp only [List.cons_append, submitBatches, hfirst]
      obtain ⟨s', hrun, hsent⟩ := ih _ (submissions_tail hok) hlater
      refine ⟨s', hrun, ?_⟩
      rw [hsent, numbered, List.append_assoc]
      rfl

/-- Either all of the first `n` submissions succeed, or there is a first one that
fails. -/
theorem submissions_cases (node : Node) (n : Nat) :
    (∀ j < n, node.submissions j = .ok ()) ∨
      ∃ m < n, ∃ e, node.submissions m = .error e ∧ ∀ j < m, node.submissions j = .ok () := by
  induction n with
  | zero => exact Or.inl fun j hj => absurd hj (Nat.not_lt_zero j)
  | succ n ih =>
      rcases ih with hok | ⟨m, hm, hfails⟩
      · cases hlast : node.submissions n with
        | error e => exact Or.inr ⟨n, Nat.lt_succ_self n, e, hlast, hok⟩
        | ok u =>
            refine Or.inl fun j hj => ?_
            rcases Nat.lt_succ_iff_lt_or_eq.mp hj with hj | rfl
            · exact hok j hj
            · exact hlast
      · exact Or.inr ⟨m, Nat.lt_succ_of_lt hm, hfails⟩

end Batches

/-! ## The two chunkings -/

/-- The items of all accounts, in order. -/
def accountItems (crates : QuotaCrates) (args : SetupArgs) : List StorageItem :=
  (List.range args.numClients.toNat).map fun i =>
    (accountKey crates i, crates.encode args.allowance)

def storageCalls (crates : QuotaCrates) (args : SetupArgs) : List SetStorage :=
  (chunks args.allowanceBatchSize.toNat (accountItems crates args)).map SetStorage.mk

def batches (crates : QuotaCrates) (args : SetupArgs) : List (List SetStorage) :=
  chunks args.maxBatchCalls.toNat (storageCalls crates args)

/-- What has been sent when nothing has failed: every item once and in order, in
calls and transactions that are not too long, under consecutive nonces, in as
many transactions as the log has announced. -/
structure SentInFull (crates : QuotaCrates) (args : SetupArgs) (nonce : UInt64)
    (run : SetupRun) : Prop where
  items : run.sent.flatMap (fun entry => entry.2.items) = accountItems crates args
  sizes : ∀ entry ∈ run.sent, ∃ calls, entry.2 = .batchAll calls ∧
    calls.length ≤ args.maxBatchCalls.toNat ∧
    ∀ call ∈ calls, call.items.length ≤ args.allowanceBatchSize.toNat
  nonces : run.sent.map Prod.fst =
    (List.range run.sent.length).map fun k => nonce + UInt64.ofNat k
  count : run.sent.length =
    (args.numClients.toNat ⌈/⌉ args.allowanceBatchSize.toNat) ⌈/⌉ args.maxBatchCalls.toNat
  announced : (List.range run.sent.length).map
    (fun k => batchFinalized (k + 1) run.sent.length) <:+: run.log

section Run

variable {crates : QuotaCrates} {node : Node} {args : SetupArgs} {sudoKey : Bytes32}
  {nonce : UInt64} {s : SubmitState}

theorem divCeil_eq_ceilDiv {a b : Nat} (hb : 0 < b) : divCeil a b = a ⌈/⌉ b := by
  have hdiv : (a + b - 1) / b = a / b + (a % b + b - 1) / b := by
    rw [← Nat.mul_add_div hb (a / b), ← Nat.add_sub_assoc (by omega), ← Nat.add_assoc,
      Nat.div_add_mod]
  rw [Nat.ceilDiv_eq_add_pred_div, hdiv, divCeil]
  have hlt := Nat.mod_lt a hb
  split_ifs with hrest
  · have hone : (a % b + b - 1) / b = 1 := Nat.div_eq_of_lt_le (by omega) (by omega)
    rw [hone]
  · have hzero : (a % b + b - 1) / b = 0 := Nat.div_eq_of_lt (by omega)
    rw [hzero, Nat.add_zero]

theorem length_storageCalls (hbatch : 0 < args.allowanceBatchSize.toNat) :
    (storageCalls crates args).length =
      args.numClients.toNat ⌈/⌉ args.allowanceBatchSize.toNat := by
  rw [storageCalls, List.length_map, length_chunks hbatch, accountItems, List.length_map,
    List.length_range]

theorem length_batches (hbatch : 0 < args.allowanceBatchSize.toNat)
    (hcalls : 0 < args.maxBatchCalls.toNat) :
    (batches crates args).length =
      (args.numClients.toNat ⌈/⌉ args.allowanceBatchSize.toNat) ⌈/⌉
        args.maxBatchCalls.toNat := by
  rw [batches, length_chunks hcalls, length_storageCalls hbatch]

/-- Nothing is lost or repeated by cutting twice. -/
theorem flatMap_batches (hbatch : 0 < args.allowanceBatchSize.toNat)
    (hcalls : 0 < args.maxBatchCalls.toNat) :
    (numbered nonce (batches crates args)).flatMap (fun entry => entry.2.items) =
      accountItems crates args := by
  calc (numbered nonce (batches crates args)).flatMap (fun entry => entry.2.items)
      = ((numbered nonce (batches crates args)).map Prod.snd).flatMap SudoCall.items := by
        rw [List.flatMap_map]
    _ = (batches crates args).flatten.flatMap SetStorage.items := by
        rw [numbered_calls, List.flatMap_map, List.flatMap_def, List.flatMap_def,
          List.map_flatten, List.flatten_flatten, List.map_map]
        rfl
    _ = (chunks args.allowanceBatchSize.toNat (accountItems crates args)).flatten := by
        rw [batches, flatten_chunks hcalls, storageCalls, List.flatMap_map]
        exact List.flatMap_id'
    _ = accountItems crates args := flatten_chunks hbatch _

/-- The transactions and their calls are not too long. -/
theorem batches_sizes (hbatch : 0 < args.allowanceBatchSize.toNat)
    (hcalls : 0 < args.maxBatchCalls.toNat) {calls : List SetStorage}
    (h : calls ∈ batches crates args) : calls.length ≤ args.maxBatchCalls.toNat ∧
      ∀ call ∈ calls, call.items.length ≤ args.allowanceBatchSize.toNat := by
  refine ⟨length_le_of_mem_chunks hcalls h, fun call hcall => ?_⟩
  have hmem : call ∈ storageCalls crates args := by
    rw [← flatten_chunks hcalls (storageCalls crates args)]
    exact List.mem_flatten.mpr ⟨calls, h, hcall⟩
  obtain ⟨items, hitems, rfl⟩ := List.mem_map.mp hmem
  exact length_le_of_mem_chunks hbatch hitems

theorem readBack_keeps (crates : QuotaCrates) (node : Node) (args : SetupArgs)
    (s : SubmitState) :
    (readBack crates node args s).sent = s.sent ∧
      s.log <+: (readBack crates node args s).log ∧
      (readBack crates node args s).storage = s.storage := by
  unfold readBack
  cases node.currentBlock with
  | error e => simp
  | ok u =>
      cases verifyAllowances crates node s.storage (List.range args.numClients.toNat) <;> simp

theorem readBack_exit (crates : QuotaCrates) (node : Node) (args : SetupArgs)
    (s : SubmitState) :
    (readBack crates node args s).exit ≠ .panicked ∧
      ((readBack crates node args s).exit = .succeeded ↔ node.currentBlock = .ok () ∧
        verifyAllowances crates node s.storage (List.range args.numClients.toNat) = .ok ()) := by
  unfold readBack
  cases node.currentBlock with
  | error e => simp
  | ok u =>
      cases verifyAllowances crates node s.storage (List.range args.numClients.toNat) <;> simp

/-- The state in which the allowances are read back. -/
def allSubmitted (crates : QuotaCrates) (node : Node) (args : SetupArgs) (nonce : UInt64)
    (log : List String) : SubmitState where
  nonce := nonce + UInt64.ofNat (batches crates args).length
  sent := numbered nonce (batches crates args)
  log := log ++ (List.range' 0 (batches crates args).length).map fun j =>
    batchFinalized (j + 1) (batches crates args).length
  storage := executeAll node 0 (batches crates args) node.storage

/-- The ways a run can go once the connection and the key are there. -/
inductive SetupOutcome (crates : QuotaCrates) (node : Node) (args : SetupArgs)
    (sudoKey : Bytes32) : Prop
  | zeroBatch (hbatch : args.allowanceBatchSize.toNat = 0)
      (hexit : (setupAllowances crates node args).exit = .panicked)
      (hsent : (setupAllowances crates node args).sent = [])
  | noNonce {e : String} (hbatch : 0 < args.allowanceBatchSize.toNat)
      (hnonce : node.accountNonce sudoKey = .error e)
      (hexit : (setupAllowances crates node args).exit = .failed e)
      (hsent : (setupAllowances crates node args).sent = [])
  | zeroCalls {nonce : UInt64} (hbatch : 0 < args.allowanceBatchSize.toNat)
      (hnonce : node.accountNonce sudoKey = .ok nonce) (hcalls : args.maxBatchCalls.toNat = 0)
      (hexit : (setupAllowances crates node args).exit = .panicked)
      (hsent : (setupAllowances crates node args).sent = [])
  | stops {nonce : UInt64} {m : Nat} {e : String} (hbatch : 0 < args.allowanceBatchSize.toNat)
      (hnonce : node.accountNonce sudoKey = .ok nonce) (hcalls : 0 < args.maxBatchCalls.toNat)
      (hm : m < (batches crates args).length) (hfails : node.submissions m = .error e)
      (hbefore : ∀ j < m, node.submissions j = .ok ())
      (hexit : (setupAllowances crates node args).exit = .failed e)
      (hsent : (setupAllowances crates node args).sent.length = m + 1)
  | readsBack {nonce : UInt64} {log : List String} (hbatch : 0 < args.allowanceBatchSize.toNat)
      (hnonce : node.accountNonce sudoKey = .ok nonce) (hcalls : 0 < args.maxBatchCalls.toNat)
      (hok : ∀ k < (batches crates args).length, node.submissions k = .ok ())
      (hrun : setupAllowances crates node args =
        readBack crates node args (allSubmitted crates node args nonce log))

/-- The loop over the batches, and what comes after it: either the first
submission that fails is the last one, or the allowances are read back. -/
theorem afterSubmission_cases (crates : QuotaCrates) (node : Node) (args : SetupArgs)
    (nonce : UInt64) (log : List String) :
    (∃ m < (batches crates args).length, ∃ e, node.submissions m = .error e ∧
      (∀ j < m, node.submissions j = .ok ()) ∧
      ∃ s' : SubmitState, afterSubmission crates node args (submitBatches node
        (batches crates args).length 0 (batches crates args) ⟨nonce, [], log, node.storage⟩) =
          ⟨.failed e, s'.sent, s'.log, s'.storage⟩ ∧ s'.sent.length = m + 1) ∨
    ((∀ k < (batches crates args).length, node.submissions k = .ok ()) ∧
      afterSubmission crates node args (submitBatches node
        (batches crates args).length 0 (batches crates args) ⟨nonce, [], log, node.storage⟩) =
          readBack crates node args (allSubmitted crates node args nonce log)) := by
  have hshift : ∀ {n}, (∀ j < n, node.submissions j = .ok ()) →
      ∀ j < n, node.submissions (0 + j) = .ok () := by
    intro n hok j hj
    rw [Nat.zero_add]
    exact hok j hj
  rcases submissions_cases node (batches crates args).length with
    hok | ⟨m, hm, e, hfails, hbefore⟩
  · refine Or.inr ⟨hok, ?_⟩
    rw [submitBatches_ok (hshift hok)]
    rfl
  · refine Or.inl ⟨m, hm, e, hfails, hbefore, ?_⟩
    have htake : ((batches crates args).take m).length = m := by
      rw [List.length_take, Nat.min_eq_left (Nat.le_of_lt hm)]
    have hsplit : (batches crates args).take m ++
        (batches crates args)[m] :: (batches crates args).drop (m + 1) =
          batches crates args := by
      rw [← List.drop_eq_getElem_cons hm, List.take_append_drop]
    have hfails' : node.submissions (0 + ((batches crates args).take m).length) = .error e := by
      rw [Nat.zero_add, htake]
      exact hfails
    obtain ⟨s', hsubmit, hsent⟩ := submitBatches_error (batches crates args).length
      ⟨nonce, [], log, node.storage⟩ (batches crates args)[m]
      ((batches crates args).drop (m + 1)) (hshift (htake.symm ▸ hbefore)) hfails'
    rw [hsplit] at hsubmit
    refine ⟨s', by rw [hsubmit]; rfl, ?_⟩
    rw [hsent, List.nil_append, length_numbered, List.length_append, htake]
    rfl

/-- **What a run does.** -/
theorem setup_outcome (hconnect : node.connect = .ok ())
    (hkey : resolveSudoKey crates args.sudoSeed = .ok sudoKey) :
    SetupOutcome crates node args sudoKey := by
  rcases Nat.eq_zero_or_pos args.allowanceBatchSize.toNat with hbatch | hbatch
  · apply SetupOutcome.zeroBatch hbatch <;>
      simp [setupAllowances, hconnect, hkey, sliceChunks, hbatch]
  · cases hnonce : node.accountNonce sudoKey with
    | error e =>
        apply SetupOutcome.noNonce hbatch hnonce <;>
          simp [setupAllowances, hconnect, hkey, sliceChunks, hbatch.ne', submitCalls, hnonce]
    | ok nonce =>
        rcases Nat.eq_zero_or_pos args.maxBatchCalls.toNat with hcalls | hcalls
        · apply SetupOutcome.zeroCalls hbatch hnonce hcalls <;>
            simp [setupAllowances, hconnect, hkey, sliceChunks, hbatch.ne', submitCalls, hnonce,
              hcalls]
        · have htotal : divCeil (storageCalls crates args).length args.maxBatchCalls.toNat =
              (batches crates args).length := by
            rw [divCeil_eq_ceilDiv hcalls, batches, length_chunks hcalls]
          obtain ⟨log, hrun⟩ : ∃ log, setupAllowances crates node args =
              afterSubmission crates node args (submitBatches node
                (batches crates args).length 0 (batches crates args)
                ⟨nonce, [], log, node.storage⟩) := by
            rw [← htotal]
            simp only [setupAllowances, hconnect, hkey, crates.create_eq, sliceChunks,
              if_neg hbatch.ne', submitCalls, hnonce, if_neg hcalls.ne']
            exact ⟨_, rfl⟩
          rcases afterSubmission_cases crates node args nonce log with
            ⟨m, hm, e, hfails, hbefore, s', hstop, hsent⟩ | ⟨hok, hback⟩
          · rw [hstop] at hrun
            apply SetupOutcome.stops hbatch hnonce hcalls hm hfails hbefore
            · rw [hrun]
            · rw [hrun]
              exact hsent
          · exact .readsBack hbatch hnonce hcalls hok (hrun.trans hback)

/-- All submissions have succeeded. -/
theorem sentInFull {log : List String} (hbatch : 0 < args.allowanceBatchSize.toNat)
    (hcalls : 0 < args.maxBatchCalls.toNat)
    (hrun : setupAllowances crates node args =
      readBack crates node args (allSubmitted crates node args nonce log)) :
    SentInFull crates args nonce (setupAllowances crates node args) := by
  obtain ⟨hsent, hlog, -⟩ :=
    readBack_keeps crates node args (allSubmitted crates node args nonce log)
  rw [← hrun] at hsent hlog
  have hsent' : (setupAllowances crates node args).sent =
      numbered nonce (batches crates args) := hsent
  have hlength : (setupAllowances crates node args).sent.length =
      (batches crates args).length := by
    rw [hsent', length_numbered]
  refine {
    items := by rw [hsent', flatMap_batches hbatch hcalls]
    sizes := ?_
    nonces := by rw [hlength, hsent', numbered_nonces]
    count := by rw [hlength, length_batches hbatch hcalls]
    announced := ?_ }
  · intro entry hentry
    rw [hsent'] at hentry
    have hcall : entry.2 ∈ (numbered nonce (batches crates args)).map Prod.snd :=
      List.mem_map_of_mem hentry
    rw [numbered_calls] at hcall
    obtain ⟨calls, hmem, heq⟩ := List.mem_map.mp hcall
    exact ⟨calls, heq.symm, batches_sizes hbatch hcalls hmem⟩
  · rw [hlength, List.range_eq_range']
    exact (List.suffix_append ..).isInfix.trans hlog.isInfix

theorem SetupOutcome.panicked_iff (h : SetupOutcome crates node args sudoKey) :
    (setupAllowances crates node args).exit = .panicked ↔ args.allowanceBatchSize.toNat = 0 ∨
      args.maxBatchCalls.toNat = 0 ∧ ∃ nonce, node.accountNonce sudoKey = .ok nonce := by
  cases h with
  | zeroBatch hbatch hexit _ => exact iff_of_true hexit (Or.inl hbatch)
  | zeroCalls _ hnonce hcalls hexit _ => exact iff_of_true hexit (Or.inr ⟨hcalls, _, hnonce⟩)
  | noNonce hbatch hnonce hexit _ => simp [hexit, hbatch.ne', hnonce]
  | stops hbatch _ hcalls _ _ _ hexit _ => simp [hexit, hbatch.ne', hcalls.ne']
  | readsBack hbatch _ hcalls _ hrun =>
      have hexit : (setupAllowances crates node args).exit ≠ .panicked :=
        hrun ▸ (readBack_exit crates node args _).1
      simp [hexit, hbatch.ne', hcalls.ne']

theorem SetupOutcome.sends (h : SetupOutcome crates node args sudoKey)
    (hnonce : node.accountNonce sudoKey = .ok nonce)
    (hbatch : args.allowanceBatchSize.toNat ≠ 0) (hcalls : args.maxBatchCalls.toNat ≠ 0)
    (hall : ∀ k < (setupAllowances crates node args).sent.length,
      node.submissions k = .ok ()) :
    SentInFull crates args nonce (setupAllowances crates node args) := by
  cases h with
  | zeroBatch hzero _ _ => exact absurd hzero hbatch
  | noNonce _ hnone _ _ => cases hnonce.symm.trans hnone
  | zeroCalls _ _ hzero _ _ => exact absurd hzero hcalls
  | stops _ _ _ _ hfails _ _ hsent =>
      cases hfails.symm.trans (hall _ (hsent ▸ Nat.lt_succ_self _))
  | readsBack hbatch hfetched hcalls _ hrun =>
      obtain rfl := Except.ok.inj (hnonce.symm.trans hfetched)
      exact sentInFull hbatch hcalls hrun

theorem SetupOutcome.stops_at (h : SetupOutcome crates node args sudoKey) {k : Nat} {e : String}
    (hk : k < (setupAllowances crates node args).sent.length)
    (hfails : node.submissions k = .error e) :
    (setupAllowances crates node args).exit = .failed e ∧
      (setupAllowances crates node args).sent.length = k + 1 := by
  cases h with
  | zeroBatch _ _ hsent => simp [hsent] at hk
  | noNonce _ _ _ hsent => simp [hsent] at hk
  | zeroCalls _ _ _ _ hsent => simp [hsent] at hk
  | stops _ _ _ _ hfirst hbefore hexit hsent =>
      rcases Nat.lt_succ_iff_lt_or_eq.mp (hsent ▸ hk) with hlt | rfl
      · cases (hbefore k hlt).symm.trans hfails
      · obtain rfl := Except.error.inj (hfirst.symm.trans hfails)
        exact ⟨hexit, hsent⟩
  | readsBack hbatch _ hcalls hok hrun =>
      have hlength : (setupAllowances crates node args).sent.length =
          (batches crates args).length :=
        (sentInFull hbatch hcalls hrun).count.trans (length_batches hbatch hcalls).symm
      cases (hok k (hlength ▸ hk)).symm.trans hfails

/-- **The batches of `setup-allowances`.**  It panics just if it comes to cut
something into chunks of zero; when every submission succeeds, every item has
been sent once and in order; and a submission that fails is the last one. -/
theorem setup_batches (hconnect : node.connect = .ok ())
    (hkey : resolveSudoKey crates args.sudoSeed = .ok sudoKey) :
    ((setupAllowances crates node args).exit = .panicked ↔ args.allowanceBatchSize = 0 ∨
      args.maxBatchCalls = 0 ∧ ∃ nonce, node.accountNonce sudoKey = .ok nonce) ∧
    (∀ nonce, node.accountNonce sudoKey = .ok nonce → args.allowanceBatchSize ≠ 0 →
      args.maxBatchCalls ≠ 0 →
      (∀ k < (setupAllowances crates node args).sent.length, node.submissions k = .ok ()) →
      SentInFull crates args nonce (setupAllowances crates node args)) ∧
    ∀ k e, k < (setupAllowances crates node args).sent.length → node.submissions k = .error e →
      (setupAllowances crates node args).exit = .failed e ∧
        (setupAllowances crates node args).sent.length = k + 1 := by
  have hzero : args.allowanceBatchSize = 0 ↔ args.allowanceBatchSize.toNat = 0 :=
    UInt32.toNat_inj.symm
  have hzero' : args.maxBatchCalls = 0 ↔ args.maxBatchCalls.toNat = 0 := UInt64.toNat_inj.symm
  have houtcome := setup_outcome hconnect hkey
  rw [ne_eq, ne_eq, hzero, hzero']
  refine ⟨houtcome.panicked_iff, ?_, ?_⟩
  · intro nonce hnonce hbatch hcalls hall
    exact houtcome.sends hnonce hbatch hcalls hall
  · intro k e hk hfails
    exact houtcome.stops_at hk hfails

end Run

/-- Nothing in the storage, and no refusals. -/
def quietNode : Node where
  storage _ := none
  connect := .ok ()
  accountNonce _ := .ok 7
  submissions _ := .ok ()
  took _ _ := true
  currentBlock := .ok ()
  wsConnect := .ok ()
  reads _ := .ok ()

/-- Five accounts, two to a call, two calls to a transaction. -/
def fiveClients : SetupArgs := ⟨"//Alice", 5, 2, 100000, 1000000, 2⟩

theorem setup_batches_fiveClients :
    SentInFull scaleCrates fiveClients 7 (setupAllowances scaleCrates quietNode fiveClients) :=
  have hkey : resolveSudoKey scaleCrates fiveClients.sudoSeed = .ok (Vector.replicate 32 1) := rfl
  (setup_batches rfl hkey).2.1 7 rfl (by decide) (by decide) fun _ _ => rfl

/-- Without a nonce the second chunking is never reached. -/
theorem setup_without_nonce :
    let node : Node := { quietNode with accountNonce := fun _ => .error "Internal error" }
    let args : SetupArgs := { fiveClients with maxBatchCalls := 0 }
    node.connect = .ok () ∧ (∃ key, resolveSudoKey scaleCrates args.sudoSeed = .ok key) ∧
      args.maxBatchCalls = 0 ∧
      (setupAllowances scaleCrates node args).exit = .failed "Internal error" :=
  ⟨rfl, ⟨_, rfl⟩, rfl, rfl⟩

end StatementStore
