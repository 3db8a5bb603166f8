import StatementStoreTools.StatementTypes

/-!
# Quotas in the storage of a chain

The quota of an account stands in the storage of the chain under a key of its
own.  It is written through `Sudo`: by `setup-allowances` in batches, by
`admin set-quota` for one account.  An extrinsic that has been finalized says
nothing about the calls inside it: which of them took effect is an answer of
the node, as are its nonce, its refusals and what the storage held before.

The functions that live in third-party crates are the fields of `QuotaCrates`.
-/

namespace StatementStore

structure StatementAllowance where
  maxCount : UInt32
  maxSize : UInt32
deriving DecidableEq

abbrev StorageItem := Bytes × Bytes

/-- `publicKey i` is `get_keypair(i).public()`; `secretUri` and `keypair` are the
two steps from a seed to the account that signs; `noValueFound` is what a
missing value reads as. -/
structure QuotaCrates where
  publicKey : UInt32 → Bytes32
  statementAllowanceKey : Bytes32 → Bytes
  encode : StatementAllowance → Bytes
  decode : Bytes → Option StatementAllowance
  decode_encode : ∀ allowance, decode (encode allowance) = some allowance
  createUniformAllowanceItems : UInt32 → StatementAllowance → List StorageItem
  create_eq : ∀ count allowance, createUniformAllowanceItems count allowance =
    (List.range count.toNat).map fun i =>
      (statementAllowanceKey (publicKey (UInt32.ofNat i)), encode allowance)
  secretUri : String → Except String String
  keypair : String → Except String Bytes32
  noValueFound : String

/-- The state of the chain, by its keys. -/
abbrev Storage := Bytes → Option Bytes

def Storage.put (storage : Storage) (item : StorageItem) : Storage :=
  Function.update storage item.1 (some item.2)

/-- The quota the nodes find for an account. -/
def Storage.quota (crates : QuotaCrates) (storage : Storage) (account : Bytes32) :
    Option StatementAllowance :=
  (storage (crates.statementAllowanceKey account)).bind crates.decode

/-- `System(set_storage { items })`. -/
structure SetStorage where
  items : List StorageItem

/-- The call inside a `Sudo` extrinsic. -/
inductive SudoCall
  | setStorage (call : SetStorage)
  | batchAll (calls : List SetStorage)

def SudoCall.calls : SudoCall → List SetStorage
  | .setStorage call => [call]
  | .batchAll calls => calls

def SudoCall.items (call : SudoCall) : List StorageItem :=
  call.calls.flatMap SetStorage.items

/-- The items of the calls that take effect. -/
def SudoCall.effective (took : Nat → Bool) (call : SudoCall) : List StorageItem :=
  (call.calls.zipIdx.filter fun entry => took entry.2).flatMap fun entry => entry.1.items

/-- What the node answers while a command runs: `connect` to the client for
extrinsics, `wsConnect` to the one for plain requests, `submissions k` to the
`k`-th extrinsic, `took k j` whether the `j`-th `set_storage` in it takes effect,
`reads i` whether the `i`-th query of the storage comes through. -/
structure Node where
  storage : Storage
  connect : Except String Unit
  accountNonce : Bytes32 → Except String UInt64
  submissions : Nat → Except String Unit
  took : Nat → Nat → Bool
  currentBlock : Except String Unit
  wsConnect : Except String Unit
  reads : Nat → Except String Unit

/-- The storage after the `k`-th extrinsic. -/
def Node.execute (node : Node) (k : Nat) (call : SudoCall) (storage : Storage) : Storage :=
  (call.effective (node.took k)).foldl Storage.put storage

section Writes

variable {crates : QuotaCrates} {storage : Storage} {items : List StorageItem} {value : Bytes}

theorem Storage.put_self (item : StorageItem) : storage.put item item.1 = some item.2 :=
  Function.update_self ..

theorem Storage.put_of_ne {item : StorageItem} {key : Bytes} (h : key ≠ item.1) :
    storage.put item key = storage key :=
  Function.update_of_ne h ..

/-- Writes of one value: what is written holds it, the rest is as before. -/
theorem foldl_put (storage : Storage) (h : ∀ item ∈ items, item.2 = value) (key : Bytes) :
    (key ∈ items.map Prod.fst → items.foldl Storage.put storage key = some value) ∧
      (key ∉ items.map Prod.fst → items.foldl Storage.put storage key = storage key) := by
  induction items generalizing storage with
  | nil => exact ⟨fun hkey => (by cases hkey), fun _ => rfl⟩
  | cons item items ih =>
      obtain ⟨hwritten, hkept⟩ := ih (storage.put item)
        fun other hother => h other (List.mem_cons_of_mem _ hother)
      rw [List.map_cons, List.mem_cons, List.foldl_cons]
      constructor
      · intro hkey
        by_cases hrest : key ∈ items.map Prod.fst
        · exact hwritten hrest
        · obtain rfl := hkey.resolve_right hrest
          rw [hkept hrest, Storage.put_self, h item List.mem_cons_self]
      · intro hkey
        rw [not_or] at hkey
        rw [hkept hkey.2, Storage.put_of_ne hkey.1]

theorem SudoCall.mem_effective {took : Nat → Bool} {call : SudoCall} {item : StorageItem} :
    item ∈ call.effective took ↔
      ∃ j inner, call.calls[j]? = some inner ∧ took j = true ∧ item ∈ inner.items := by
  simp only [SudoCall.effective, List.mem_flatMap, List.mem_filter, Prod.exists,
    List.mem_zipIdx_iff_getElem?]
  constructor
  · intro h
    obtain ⟨inner, j, ⟨hj, htook⟩, hitem⟩ := h
    exact ⟨j, inner, hj, htook, hitem⟩
  · intro h
    obtain ⟨j, inner, hj, htook, hitem⟩ := h
    exact ⟨inner, j, ⟨hj, htook⟩, hitem⟩

end Writes

/-! ## SCALE -/

/-- A `u32`, its lowest byte first. -/
def encodeU32 (x : UInt32) : Bytes :=
  [x.toUInt8, (x >>> 8).toUInt8, (x >>> 16).toUInt8, (x >>> 24).toUInt8]

def decodeU32 (a b c d : UInt8) : UInt32 :=
  UInt32.ofNat (a.toNat + 256 * b.toNat + 65536 * c.toNat + 16777216 * d.toNat)

theorem decodeU32_encodeU32 (x : UInt32) :
    decodeU32 x.toUInt8 (x >>> 8).toUInt8 (x >>> 16).toUInt8 (x >>> 24).toUInt8 = x := by
  apply UInt32.toNat_inj.mp
  have hx := x.toNat_lt
  simp only [decodeU32, UInt32.toNat_ofNat', UInt32.toNat_toUInt8, UInt32.toNat_shiftRight,
    UInt32.reduceToNat, Nat.reduceMod, Nat.shiftRight_eq_div_pow, Nat.reducePow]
  omega

/-- Two `u32`, and whatever follows them. -/
def decodeAllowance : Bytes → Option StatementAllowance
  | a :: b :: c :: d :: e :: f :: g :: h :: _ => some ⟨decodeU32 a b c d, decodeU32 e f g h⟩
  | _ => none

/-- Account `i` has the public key `i, i, …`. -/
def scaleCrates : QuotaCrates where
  publicKey i := Vector.replicate 32 i.toUInt8
  statementAllowanceKey account := ":statement_allowance:".toUTF8.toList ++ account.toList
  encode allowance := encodeU32 allowance.maxCount ++ encodeU32 allowance.maxSize
  decode := decodeAllowance
  decode_encode allowance := by
    simp only [encodeU32, List.cons_append, List.nil_append, decodeAllowance, decodeU32_encodeU32]
  createUniformAllowanceItems count allowance := (List.range count.toNat).map fun i =>
    (":statement_allowance:".toUTF8.toList ++
      (Vector.replicate 32 (UInt32.ofNat i).toUInt8).toList,
      encodeU32 allowance.maxCount ++ encodeU32 allowance.maxSize)
  create_eq _ _ := rfl
  secretUri seed := .ok seed
  keypair _ := .ok (Vector.replicate 32 1)
  noValueFound := "No value found"

end StatementStore
