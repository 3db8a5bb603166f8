import Mathlib
import StatementStoreTools.TimedStreams

/-!
# Statements, filters and events

The values the tools exchange with a statement-store node, as far as the tools
look into them.  A statement carries an optional channel, an expiry, topics,
plain data and the account that signed it; what the signature bytes are is
never looked at here.  `SubmitResult` keeps the two answers the tools accept,
`New` and `Known`, apart from every other one.

The functions that live in third-party crates are the fields of `Crates`.
-/

namespace StatementStore

abbrev Bytes := List UInt8

/-- `[u8; 32]`: hashes, topics, channels and account ids. -/
abbrev Bytes32 := Vector UInt8 32

abbrev Topic := Bytes32

/-- A vector of at most `max` elements. -/
structure BoundedVec (α : Type) (max : Nat) where
  elems : List α
  bound : elems.length ≤ max

/-- `try_into` for a bounded vector. -/
def BoundedVec.tryFrom {α : Type} (max : Nat) (xs : List α) : Option (BoundedVec α max) :=
  if h : xs.length ≤ max then some ⟨xs, h⟩ else none

theorem BoundedVec.tryFrom_of_le {α : Type} {max : Nat} {xs : List α}
    (h : xs.length ≤ max) : BoundedVec.tryFrom max xs = some ⟨xs, h⟩ := by
  simp [BoundedVec.tryFrom, h]

theorem BoundedVec.tryFrom_of_lt {α : Type} {max : Nat} {xs : List α}
    (h : max < xs.length) : BoundedVec.tryFrom max xs = none := by
  simp [BoundedVec.tryFrom, Nat.not_le.mpr h]

/-- Which statements a subscription asks for. -/
inductive TopicFilter
  | any
  | matchAll (topics : BoundedVec Topic 4)
  | matchAny (topics : BoundedVec Topic 128)

/-- The node's answer to a submission. -/
inductive SubmitResult
  | new
  | known
  | other (debug : String)
deriving DecidableEq, Repr

/-- An sr25519 key pair, by the account it signs for. -/
structure Keypair where
  account : Bytes32
deriving DecidableEq

structure Statement where
  channel : Option Bytes32
  expiry : UInt64
  topics : List Topic
  data : Option Bytes
  signer : Option Bytes32
deriving DecidableEq

/-- `Statement::new()`. -/
def Statement.new : Statement where
  channel := none
  expiry := 0
  topics := []
  data := none
  signer := none

def Statement.setChannel (channel : Bytes32) (s : Statement) : Statement :=
  { s with channel := some channel }

/-- `set_expiry_from_parts`: the timestamp above, the sequence number below. -/
def Statement.setExpiryFromParts (timestampSecs seq : UInt32) (s : Statement) : Statement :=
  { s with expiry := timestampSecs.toUInt64 <<< 32 ||| seq.toUInt64 }

/-- `set_topic(0, _)`, the only index that is ever set. -/
def Statement.setTopic0 (topic : Topic) (s : Statement) : Statement :=
  { s with topics := [topic] }

def Statement.setPlainData (data : Bytes) (s : Statement) : Statement :=
  { s with data := some data }

def Statement.signSr25519Private (keypair : Keypair) (s : Statement) : Statement :=
  { s with signer := some keypair.account }

def Statement.dataLen (s : Statement) : Nat :=
  (s.data.getD []).length

/-- `get_expiration_timestamp_secs`: the upper half of the expiry. -/
def Statement.expirationTimestampSecs (s : Statement) : UInt32 :=
  (s.expiry >>> 32).toUInt32

/-- What tells statements apart in the store: signer, channel and topics. -/
structure Label where
  signer : Option Bytes32
  channel : Option Bytes32
  topics : List Topic
deriving DecidableEq

def Statement.label (s : Statement) : Label := ⟨s.signer, s.channel, s.topics⟩

/-- One event of a subscription. -/
inductive StatementEvent
  | newStatements (statements : List Bytes) (remaining : Option UInt32)
deriving DecidableEq

def StatementEvent.statements : StatementEvent → List Bytes
  | .newStatements statements _ => statements

def StatementEvent.remaining : StatementEvent → Option UInt32
  | .newStatements _ remaining => remaining

/-- The event closes the initial dump: `remaining` is `Some(0)` or `None`. -/
def StatementEvent.isBoundary : StatementEvent → Bool
  | .newStatements _ none => true
  | .newStatements _ (some n) => n = 0

/-- A subscription: each poll meets an event, an error, the end or silence. -/
abbrev EventStream := TimedStreams.Timed (Except String StatementEvent)

/-- Functions of third-party crates.  `blake2_256` is applied to the bytes of
a text; `encode` and `decode` are the SCALE codec of a statement. -/
structure Crates where
  blake2_256 : String → Bytes32
  encode : Statement → Bytes
  decode : Bytes → Option Statement
  hash : Statement → Bytes32

end StatementStore
