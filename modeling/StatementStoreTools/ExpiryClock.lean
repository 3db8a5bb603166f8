import StatementStoreTools.ExecuteRound
import StatementStoreTools.SplitWords
import StatementStoreTools.SubmitPhase

/-!
# The expiry of a statement

An expiry is a 64-bit word: seconds since the epoch above, a sequence number
below.  The seconds are computed in two places: `expiry_seconds_from_now`, for
the three phases, adds the offset to the clock in 64 bits, and the ring adds
two durations; both then cast to 32 bits.  The phases go on to add the running
index, and that addition saturates at 32 bits.

The cast does not saturate.  `expiry_law_iff` says for which offsets the
timestamp is the one asked for, cut off at the largest number of 32 bits.
-/

namespace StatementStore

open SplitWords

/-- The seconds of a reading of the clock. -/
def secondsAt (clock : Clock) (now : Instant) : Nat := clock now / 1000000000

theorem saturatingAdd64_toNat (a b : UInt64) :
    (saturatingAdd64 a b).toNat = min (a.toNat + b.toNat) (2 ^ 64 - 1) := by
  unfold saturatingAdd64
  split
  · rename_i hfits
    rw [UInt64.toNat_add, Nat.mod_eq_of_lt hfits]
    omega
  · change 2 ^ 64 - 1 = _
    omega

theorem saturatingAdd32_toNat (a b : UInt32) :
    (saturatingAdd32 a b).toNat = min (a.toNat + b.toNat) (2 ^ 32 - 1) := by
  unfold saturatingAdd32
  split
  · rename_i hfits
    rw [UInt32.toNat_add, Nat.mod_eq_of_lt hfits]
    omega
  · change 2 ^ 32 - 1 = _
    omega

section Timestamps

variable {clock : Clock} {now : Instant}

/-- The base of a phase, for a clock that has not run out of 32 bits. -/
theorem expirySecondsFromNow_toNat (h : secondsAt clock now < 2 ^ 32) (offset : UInt64) :
    (expirySecondsFromNow clock now offset).toNat =
      min (secondsAt clock now + offset.toNat) (2 ^ 64 - 1) % 2 ^ 32 := by
  have hnow : (nowUnixSecs clock now).toNat = secondsAt clock now := by
    rw [nowUnixSecs, UInt64.toNat_ofNat']
    exact Nat.mod_eq_of_lt (by unfold secondsAt at h; omega)
  rw [expirySecondsFromNow, UInt64.toNat_toUInt32, saturatingAdd64_toNat, hnow]

theorem expirySecondsFromNow_of_lt {offset : UInt64}
    (h : secondsAt clock now + offset.toNat < 2 ^ 32) :
    (expirySecondsFromNow clock now offset).toNat = secondsAt clock now + offset.toNat := by
  rw [expirySecondsFromNow_toNat (by omega)]
  omega

theorem buildStatement_expiry (keypair : Keypair) (topic channel : Bytes32)
    (expiryTimestampSecs seq : UInt32) (data : Bytes) :
    (buildStatement keypair topic channel expiryTimestampSecs seq data).expiry =
      pack expiryTimestampSecs seq := rfl

theorem submitStatementAt_expiry (env : OpsEnv) (config : SubmitConfig) (endpoint : String)
    (baseExpiry globalIdx : UInt32) :
    (submitStatementAt env config endpoint baseExpiry globalIdx).expiry =
      pack (saturatingAdd32 baseExpiry globalIdx) globalIdx := rfl

/-- The seconds a statement of the ring is given. -/
def ringDue (clock : Clock) (now : Instant) (statementExpiryMs : UInt64) : Nat :=
  (clock now + Duration.fromMillis statementExpiryMs) / 1000000000

theorem roundStatement_expiry (crates : Crates) (config : ClientConfig) (keyring : Keypair)
    (round : Nat) (sentCount : UInt32) (size : UInt64) :
    (roundStatement crates clock config keyring round sentCount size now).expiry =
      pack (UInt32.ofNat (ringDue clock now config.statementExpiryMs))
        ((sentCount + 1) * UInt32.ofNat round) := rfl

theorem expirationTimestampSecs_of_expiry {s : Statement} {timestampSecs seq : UInt32}
    (h : s.expiry = pack timestampSecs seq) : s.expirationTimestampSecs = timestampSecs := by
  rw [Statement.expirationTimestampSecs, h]
  exact upper_pack timestampSecs seq

theorem roundStatement_timestamp (crates : Crates) (config : ClientConfig) (keyring : Keypair)
    (round : Nat) (sentCount : UInt32) (size : UInt64) :
    (roundStatement crates clock config keyring round sentCount size now).expirationTimestampSecs
      = UInt32.ofNat (ringDue clock now config.statementExpiryMs) :=
  expirationTimestampSecs_of_expiry (roundStatement_expiry ..)

end Timestamps

/-! ## The law of the expiry options -/

/-- What is expected of the timestamp for an offset: it is the second that is
asked for (`due`), or the largest number of 32 bits when that is too late; it
does not lie before `now`; and no smaller offset lasts longer. -/
structure ExpiryLaw (now : Nat) (due : UInt64 → Nat) (stamp : UInt64 → UInt32)
    (offset : UInt64) : Prop where
  exact : (stamp offset).toNat = min (due offset) (2 ^ 32 - 1)
  notBefore : now ≤ (stamp offset).toNat
  monotone : ∀ smaller ≤ offset, stamp smaller ≤ stamp offset

/-- A timestamp that is right as long as the second fits obeys the law exactly
when the second fits, or the timestamp happens to be the largest. -/
theorem expiryLaw_iff {now : Nat} {due : UInt64 → Nat} {stamp : UInt64 → UInt32}
    (hnow : now < 2 ^ 32) (hafter : ∀ offset, now ≤ due offset)
    (hmono : ∀ a b, a ≤ b → due a ≤ due b)
    (hfits : ∀ offset, due offset < 2 ^ 32 → (stamp offset).toNat = due offset)
    (offset : UInt64) :
    ExpiryLaw now due stamp offset ↔
      due offset < 2 ^ 32 ∨ (stamp offset).toNat = 2 ^ 32 - 1 := by
  constructor
  · intro hlaw
    by_cases hlt : due offset < 2 ^ 32
    · exact Or.inl hlt
    · right
      rw [hlaw.exact]
      omega
  · intro hcases
    have hexact : (stamp offset).toNat = min (due offset) (2 ^ 32 - 1) := by
      rcases hcases with hlt | hmax
      · rw [hfits offset hlt]
        omega
      · by_cases hlt : due offset < 2 ^ 32
        · rw [hfits offset hlt]
          omega
        · omega
    refine ⟨hexact, ?_, ?_⟩
    · have := hafter offset
      omega
    · intro smaller hsmaller
      have hdue := hmono smaller offset hsmaller
      have hbound := (stamp smaller).toNat_lt
      rw [UInt32.le_iff_toNat_le]
      by_cases hlt : due smaller < 2 ^ 32
      · rw [hfits smaller hlt]
        omega
      · omega

section Law

variable {clock : Clock} {now : Instant}

/-- The timestamps of the phases, with the running index added. -/
theorem phase_expiryLaw_iff (hnow : secondsAt clock now < 2 ^ 32) (idx : UInt32)
    (offset : UInt64) :
    ExpiryLaw (secondsAt clock now) (fun offset => secondsAt clock now + offset.toNat + idx.toNat)
        (fun offset => saturatingAdd32 (expirySecondsFromNow clock now offset) idx) offset ↔
      secondsAt clock now + offset.toNat < 2 ^ 32 ∨
        2 ^ 32 - 1 ≤
          min (secondsAt clock now + offset.toNat) (2 ^ 64 - 1) % 2 ^ 32 + idx.toNat := by
  have hstamp : ∀ offset : UInt64,
      (saturatingAdd32 (expirySecondsFromNow clock now offset) idx).toNat =
        min (min (secondsAt clock now + offset.toNat) (2 ^ 64 - 1) % 2 ^ 32 + idx.toNat)
          (2 ^ 32 - 1) := by
    intro offset
    rw [saturatingAdd32_toNat, expirySecondsFromNow_toNat hnow]
  rw [expiryLaw_iff hnow]
  · rw [hstamp]
    omega
  · intro offset
    omega
  · intro a b hab
    have := UInt64.le_iff_toNat_le.mp hab
    omega
  · intro offset hlt
    rw [hstamp]
    omega

/-- The timestamps of the ring. -/
theorem ring_expiryLaw_iff (crates : Crates) (config : ClientConfig) (keyring : Keypair)
    (round : Nat) (sentCount : UInt32) (size : UInt64)
    (hnow : secondsAt clock now < 2 ^ 32) (statementExpiryMs : UInt64) :
    ExpiryLaw (secondsAt clock now) (ringDue clock now)
        (fun ms => (roundStatement crates clock { config with statementExpiryMs := ms } keyring
          round sentCount size now).expirationTimestampSecs) statementExpiryMs ↔
      ringDue clock now statementExpiryMs < 2 ^ 32 ∨
        ringDue clock now statementExpiryMs % 2 ^ 32 = 2 ^ 32 - 1 := by
  simp only [roundStatement_timestamp]
  rw [expiryLaw_iff hnow]
  · rw [UInt32.toNat_ofNat']
  · intro ms
    exact Nat.div_le_div_right (Nat.le_add_right ..)
  · intro a b hab
    have hms := UInt64.le_iff_toNat_le.mp hab
    have hdur : Duration.fromMillis a ≤ Duration.fromMillis b := Nat.mul_le_mul_right _ hms
    exact Nat.div_le_div_right (Nat.add_le_add_left hdur _)
  · intro ms hlt
    rw [UInt32.toNat_ofNat']
    exact Nat.mod_eq_of_lt hlt

/-- **When an expiry option means what it says.**  For the base of a phase, for
every index added to it, and for the ring: as long as the second asked for
fits into 32 bits; beyond, only by chance. -/
theorem expiry_law_iff (hnow : secondsAt clock now < 2 ^ 32) :
    (∀ offset : UInt64,
      ExpiryLaw (secondsAt clock now) (fun offset => secondsAt clock now + offset.toNat)
          (expirySecondsFromNow clock now) offset ↔
        secondsAt clock now + offset.toNat < 2 ^ 32 ∨
          min (secondsAt clock now + offset.toNat) (2 ^ 64 - 1) % 2 ^ 32 = 2 ^ 32 - 1) ∧
    (∀ (offset : UInt64) (idx : UInt32),
      ExpiryLaw (secondsAt clock now)
          (fun offset => secondsAt clock now + offset.toNat + idx.toNat)
          (fun offset => saturatingAdd32 (expirySecondsFromNow clock now offset) idx) offset ↔
        secondsAt clock now + offset.toNat < 2 ^ 32 ∨
          2 ^ 32 - 1 ≤
            min (secondsAt clock now + offset.toNat) (2 ^ 64 - 1) % 2 ^ 32 + idx.toNat) ∧
    ∀ (crates : Crates) (config : ClientConfig) (keyring : Keypair) (round : Nat)
      (sentCount : UInt32) (size statementExpiryMs : UInt64),
      ExpiryLaw (secondsAt clock now) (ringDue clock now)
          (fun ms => (roundStatement crates clock { config with statementExpiryMs := ms } keyring
            round sentCount size now).expirationTimestampSecs) statementExpiryMs ↔
        ringDue clock now statementExpiryMs < 2 ^ 32 ∨
          ringDue clock now statementExpiryMs % 2 ^ 32 = 2 ^ 32 - 1 := by
  refine ⟨fun offset => ?_, fun offset idx => phase_expiryLaw_iff hnow idx offset, ?_⟩
  · have hzero : ∀ base : UInt32, saturatingAdd32 base 0 = base := by
      intro base
      have := base.toNat_lt
      apply UInt32.toNat_inj.mp
      rw [saturatingAdd32_toNat]
      simp
      omega
    have hlaw := phase_expiryLaw_iff hnow 0 offset
    simp only [hzero, UInt32.toNat_zero, Nat.add_zero] at hlaw
    rw [hlaw]
    omega
  · intro crates config keyring round sentCount size ms
    exact ring_expiryLaw_iff crates config keyring round sentCount size hnow ms

end Law

/-- A clock that always reads 1 700 000 000 s. -/
def fixedClock : Clock := fun _ => 1700000000000000000

theorem expiry_law_iff_tenMinutes :
    ExpiryLaw 1700000000 (fun offset => 1700000000 + offset.toNat)
      (expirySecondsFromNow fixedClock 0) 600 := by
  have hnow : secondsAt fixedClock 0 < 2 ^ 32 := by decide
  exact ((expiry_law_iff hnow).1 600).mpr (Or.inl (by decide))

/-- **An expiry in the past.**  With the largest offset of 32 bits a statement
has expired before it is sent, and ten minutes would have lasted longer. -/
theorem expiry_in_the_past :
    (SubmitConfig.mk 1 1 1 4294967295 0 none).validate = .ok () ∧
      (expirySecondsFromNow fixedClock 0 4294967295).toNat = 1699999999 ∧
      (saturatingAdd32 (expirySecondsFromNow fixedClock 0 4294967295) 0).toNat < 1700000000 ∧
      expirySecondsFromNow fixedClock 0 4294967295 < expirySecondsFromNow fixedClock 0 600 ∧
      ¬ ExpiryLaw 1700000000 (fun offset => 1700000000 + offset.toNat)
        (expirySecondsFromNow fixedClock 0) 4294967295 := by
  refine ⟨rfl, by decide, by decide, by decide, ?_⟩
  intro hlaw
  have := hlaw.notBefore
  revert this
  decide

end StatementStore
