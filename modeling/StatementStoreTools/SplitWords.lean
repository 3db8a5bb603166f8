import Mathlib.Data.Nat.Bitwise
import Mathlib.Tactic.NormNum

/-!
# A 64-bit word made of two 32-bit halves

`pack hi lo` is the word with `hi` above and `lo` below.  Read as a number it
is `hi * 2 ^ 32 + lo`, so words are ordered like pairs of halves: by the upper
half first, by the lower one among equals (`pack_le_pack`, `pack_lt_pack`).
-/

namespace SplitWords

/-- The word with the halves `hi` and `lo`. -/
def pack (hi lo : UInt32) : UInt64 := hi.toUInt64 <<< 32 ||| lo.toUInt64

/-- The upper half. -/
def upper (word : UInt64) : UInt32 := (word >>> 32).toUInt32

/-- The lower half: what a cast to 32 bits keeps. -/
def lower (word : UInt64) : UInt32 := word.toUInt32

variable {hi lo hi' lo' : UInt32} {word word' : UInt64}

theorem pack_toNat (hi lo : UInt32) : (pack hi lo).toNat = hi.toNat * 2 ^ 32 + lo.toNat := by
  have hhi := hi.toNat_lt
  have hlo := lo.toNat_lt
  have hshift : hi.toNat <<< 32 % 2 ^ 64 = hi.toNat <<< 32 := by
    rw [Nat.shiftLeft_eq]
    exact Nat.mod_eq_of_lt (by omega)
  rw [pack, UInt64.toNat_or, UInt64.toNat_shiftLeft, UInt32.toNat_toUInt64, UInt32.toNat_toUInt64]
  change hi.toNat <<< 32 % 2 ^ 64 ||| lo.toNat = _
  rw [hshift, ← Nat.shiftLeft_add_eq_or_of_lt hlo, Nat.shiftLeft_eq]

theorem upper_toNat (word : UInt64) : (upper word).toNat = word.toNat / 2 ^ 32 := by
  have hword := word.toNat_lt
  have hsmall : word.toNat / 2 ^ 32 < 2 ^ 32 := by omega
  rw [upper, UInt64.toNat_toUInt32, UInt64.toNat_shiftRight]
  change word.toNat >>> 32 % 2 ^ 32 = _
  rw [Nat.shiftRight_eq_div_pow, Nat.mod_eq_of_lt hsmall]

theorem lower_toNat (word : UInt64) : (lower word).toNat = word.toNat % 2 ^ 32 :=
  UInt64.toNat_toUInt32 word

@[simp] theorem upper_pack (hi lo : UInt32) : upper (pack hi lo) = hi := by
  apply UInt32.toNat_inj.mp
  have hlo := lo.toNat_lt
  rw [upper_toNat, pack_toNat]
  omega

@[simp] theorem lower_pack (hi lo : UInt32) : lower (pack hi lo) = lo := by
  apply UInt32.toNat_inj.mp
  have hlo := lo.toNat_lt
  rw [lower_toNat, pack_toNat]
  omega

/-- Nothing of a word is lost in its halves. -/
theorem pack_upper_lower (word : UInt64) : pack (upper word) (lower word) = word := by
  apply UInt64.toNat_inj.mp
  rw [pack_toNat, upper_toNat, lower_toNat]
  exact Nat.div_add_mod' word.toNat (2 ^ 32)

/-- **Words are ordered like pairs of halves.** -/
theorem pack_lt_pack : pack hi lo < pack hi' lo' ↔ hi < hi' ∨ (hi = hi' ∧ lo < lo') := by
  have hlo := lo.toNat_lt
  have hlo' := lo'.toNat_lt
  rw [UInt64.lt_iff_toNat_lt, pack_toNat, pack_toNat, UInt32.lt_iff_toNat_lt,
    UInt32.lt_iff_toNat_lt, ← UInt32.toNat_inj]
  omega

theorem pack_le_pack : pack hi lo ≤ pack hi' lo' ↔ hi < hi' ∨ (hi = hi' ∧ lo ≤ lo') := by
  have hlo := lo.toNat_lt
  have hlo' := lo'.toNat_lt
  rw [UInt64.le_iff_toNat_le, pack_toNat, pack_toNat, UInt32.lt_iff_toNat_lt,
    UInt32.le_iff_toNat_le, ← UInt32.toNat_inj]
  omega

/-- The order of words, by their halves. -/
theorem le_iff_halves : word ≤ word' ↔
    upper word < upper word' ∨ (upper word = upper word' ∧ lower word ≤ lower word') := by
  rw [← pack_le_pack, pack_upper_lower, pack_upper_lower]

end SplitWords
