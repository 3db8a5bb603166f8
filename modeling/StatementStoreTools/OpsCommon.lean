import StatementStoreTools.RpcWorld

/-!
# Pure helpers shared by the `statement-ops-bench` subcommands

Statistics, statement construction, the derived topic and channel names, the
expiry clock and the renderings that appear in error texts and report lines.
Latencies are exact rationals of a second where the source has `f64`.
-/

namespace StatementStore

/-- The decimal expansion of `frac / 10 ^ digits` without trailing zeros. -/
def fractionDigits (frac digits : Nat) : List Char :=
  let shown := Nat.toDigits 10 frac
  (List.replicate (digits - shown.length) '0' ++ shown).rdropWhile (· == '0')

/-- A decimal number with its unit, as `Duration`'s `Debug` prints it. -/
def decimalUnit (whole frac digits : Nat) (suffix : String) : String :=
  if frac = 0 then s!"{whole}{suffix}"
  else s!"{whole}.{String.ofList (fractionDigits frac digits)}{suffix}"

/-- `{timeout:?}` of a `Duration`. -/
def Duration.debug (d : Duration) : String :=
  if 1000000000 ≤ d then decimalUnit (d / 1000000000) (d % 1000000000) 9 "s"
  else if 1000000 ≤ d then decimalUnit (d / 1000000) (d % 1000000) 6 "ms"
  else if 1000 ≤ d then decimalUnit (d / 1000) (d % 1000) 3 "µs"
  else decimalUnit d 0 0 "ns"

/-- `as_secs_f64`. -/
def Duration.asSecsF64 (d : Duration) : Rat := (d : Rat) / 1000000000

/-- `{x:.4}` and its like for `x ≥ 0`: the nearest decimal number with so many
digits, ties to even. -/
def fixed (digits : Nat) (x : Rat) : String :=
  let scale : Nat := 10 ^ digits
  let scaled := x * scale
  let low := scaled.floor.toNat
  let rest := scaled - low
  let n := if 1 / 2 < rest ∨ (rest = 1 / 2 ∧ low % 2 = 1) then low + 1 else low
  let frac := Nat.toDigits 10 (n % scale)
  let padded := String.ofList (List.replicate (digits - frac.length) '0' ++ frac)
  s!"{n / scale}.{padded}"

/-- Aggregate latency statistics for a sequence of samples. -/
structure Stats where
  min : Rat
  avg : Rat
  max : Rat
  count : Nat
deriving DecidableEq

/-- Min, average and max of the samples; `none` when there are none. -/
def calcStats : List Rat → Option Stats
  | [] => none
  | v :: vs =>
      some {
        min := vs.foldl min v
        avg := (v :: vs).foldl (· + ·) 0 / ((v :: vs).length : Rat)
        max := vs.foldl max v
        count := (v :: vs).length }

theorem calcStats_isSome {values : List Rat} :
    (calcStats values).isSome ↔ values ≠ [] := by
  cases values <;> simp [calcStats]

def saturatingAdd64 (a b : UInt64) : UInt64 :=
  if a.toNat + b.toNat < 2 ^ 64 then a + b else UInt64.ofNat (2 ^ 64 - 1)

def saturatingAdd32 (a b : UInt32) : UInt32 :=
  if a.toNat + b.toNat < 2 ^ 32 then a + b else UInt32.ofNat (2 ^ 32 - 1)

/-- A signed statement. -/
def buildStatement (keypair : Keypair) (topic channel : Bytes32)
    (expiryTimestampSecs seq : UInt32) (data : Bytes) : Statement :=
  Statement.new
    |>.setChannel channel
    |>.setExpiryFromParts expiryTimestampSecs seq
    |>.setTopic0 topic
    |>.setPlainData data
    |>.signSr25519Private keypair

/-- `vec![0u8; size]`. -/
def zeroes (size : UInt64) : Bytes := List.replicate size.toNat 0

/-- The text that `derive_topic` hashes. -/
def topicText (runId : UInt64) (scope : String) (idx : UInt32) : String :=
  s!"ops-bench-topic-{runId.toNat}-{scope}-{idx.toNat}"

/-- The text that `derive_channel` hashes. -/
def channelText (runId : UInt64) (scope : String) (idx : UInt32) : String :=
  s!"ops-bench-channel-{runId.toNat}-{scope}-{idx.toNat}"

def deriveTopic (crates : Crates) (runId : UInt64) (scope : String) (idx : UInt32) : Bytes32 :=
  crates.blake2_256 (topicText runId scope idx)

def deriveChannel (crates : Crates) (runId : UInt64) (scope : String) (idx : UInt32) : Bytes32 :=
  crates.blake2_256 (channelText runId scope idx)

def nowUnixSecs (clock : Clock) (now : Instant) : UInt64 :=
  UInt64.ofNat (clock now / 1000000000)

/-- The unix timestamp `offsetSecs` ahead of the clock. -/
def expirySecondsFromNow (clock : Clock) (now : Instant) (offsetSecs : UInt64) : UInt32 :=
  (saturatingAdd64 (nowUnixSecs clock now) offsetSecs).toUInt32

/-- A `MatchAll` filter for a single topic. -/
def singleTopicFilter (topic : Bytes32) : Except String TopicFilter :=
  match BoundedVec.tryFrom 4 [topic] with
  | some topics => .ok (.matchAll topics)
  | none => .error "Failed to build BoundedVec for topic filter"

theorem singleTopicFilter_ok (topic : Bytes32) :
    singleTopicFilter topic = .ok (.matchAll ⟨[topic], by simp⟩) := by
  rw [singleTopicFilter, BoundedVec.tryFrom_of_le (by simp)]

def hexDigit (n : Nat) : Char :=
  "0123456789abcdef".toList.getD n '0'

/-- `{b:02x}`. -/
def hexByte (b : UInt8) : List Char :=
  [hexDigit (b.toNat / 16), hexDigit (b.toNat % 16)]

/-- The first 4 bytes as lowercase hex, followed by `..`. -/
def hexShort (bytes : Bytes32) : String :=
  String.ofList ((bytes.toList.take 4).flatMap hexByte) ++ ".."

/-- All 32 bytes as lowercase hex. -/
def hexFull (bytes : Bytes32) : String :=
  String.ofList (bytes.toList.flatMap hexByte)

/-- The end of a summary line. -/
def errSuffix (firstError : Option String) : String :=
  match firstError with
  | some e => s!" first_error=\"{e}\""
  | none => ""

/-- The node took the statement, or had it already. -/
def accepted : Except String SubmitResult → Except String Unit
  | .ok .new => .ok ()
  | .ok .known => .ok ()
  | .ok (.other debug) => .error s!"submit returned {debug}"
  | .error e => .error e

/-- What the three phases share: the crates, the clock and the signing key. -/
structure OpsEnv where
  crates : Crates
  clock : Clock
  keypair : Keypair

/-- A 32-bit counter that does not wrap. -/
theorem toNat_add_one {n : UInt32} (h : n.toNat + 1 < 2 ^ 32) : (n + 1).toNat = n.toNat + 1 := by
  rw [UInt32.toNat_add]
  exact Nat.mod_eq_of_lt h

/-- `anyhow::ensure!`. -/
def ensure (condition : Bool) (message : String) : Except String Unit :=
  if condition then .ok () else .error message

theorem ensure_ok {condition : Bool} {message : String} :
    ensure condition message = .ok () ↔ condition = true := by
  cases condition <;> simp [ensure]

theorem validate_bind_ok {first next : Except String Unit} :
    (first >>= fun _ => next) = .ok () ↔ first = .ok () ∧ next = .ok () := by
  cases first <;> simp [bind, Except.bind]

end StatementStore
