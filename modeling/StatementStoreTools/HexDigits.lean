import Mathlib.Data.List.Basic
import Mathlib.Tactic.IntervalCases

/-!
# Hex digits in UTF-8

A text of hex digits is one byte per digit, and denotes one byte for every two
of them.  A byte that is a hex digit stands for itself: in the encoding of any
other character no such byte occurs first.  So whether the bytes of a text are
hex digits can be read off the text (`utf8_hex_iff`).
-/

namespace HexDigits

/-- The hex digits of either case. -/
def digits : List Char :=
  ['0', '1', '2', '3', '4', '5', '6', '7', '8', '9', 'a', 'b', 'c', 'd', 'e', 'f',
    'A', 'B', 'C', 'D', 'E', 'F']

/-- The value of a hex digit. -/
def digitValue (c : Char) : Nat :=
  if c.toNat ≤ 57 then c.toNat - 48
  else if c.toNat ≤ 70 then c.toNat - 55
  else c.toNat - 87

/-- The bytes that a text of hex digits denotes, two digits each. -/
def denoted : List Char → List UInt8
  | hi :: lo :: rest => UInt8.ofNat (16 * digitValue hi + digitValue lo) :: denoted rest
  | _ => []

/-- The byte of an ASCII character. -/
def asciiByte (c : Char) : UInt8 := UInt8.ofNat c.toNat

/-- `str::as_bytes`. -/
def utf8 (text : List Char) : List UInt8 := text.flatMap String.utf8EncodeChar

variable {c : Char} {text rest : List Char}

theorem isHexDigit_bounds : c.isHexDigit = true ↔
    (48 ≤ c.toNat ∧ c.toNat ≤ 57) ∨ (97 ≤ c.toNat ∧ c.toNat ≤ 102) ∨
      (65 ≤ c.toNat ∧ c.toNat ≤ 70) := by
  simp only [Char.isHexDigit, Char.isDigit, Bool.or_eq_true, Bool.and_eq_true,
    decide_eq_true_eq, ge_iff_le, UInt32.le_iff_toNat_le, or_assoc]
  rfl

/-- **There are 22 hex digits.** -/
theorem isHexDigit_iff : c.isHexDigit = true ↔ c ∈ digits := by
  constructor
  · intro h
    have hbounds := isHexDigit_bounds.mp h
    have hofNat : c = Char.ofNat c.toNat := (Char.ofNat_toNat c).symm
    generalize c.toNat = n at hbounds hofNat
    subst hofNat
    rcases hbounds with ⟨hlo, hhi⟩ | ⟨hlo, hhi⟩ | ⟨hlo, hhi⟩ <;> interval_cases n <;> decide
  · intro h
    have hall : digits.all Char.isHexDigit = true := by decide
    exact List.all_eq_true.mp hall c h

theorem toLower_toNat (c : Char) : c.toLower.toNat =
    if 65 ≤ c.toNat ∧ c.toNat ≤ 90 then c.toNat + 32 else c.toNat := by
  unfold Char.toLower
  by_cases h : c.val ≥ 'A'.val ∧ c.val ≤ 'Z'.val
  · have hbounds : 65 ≤ c.toNat ∧ c.toNat ≤ 90 :=
      ⟨UInt32.le_iff_toNat_le.mp h.1, UInt32.le_iff_toNat_le.mp h.2⟩
    rw [dif_pos h, if_pos hbounds]
    change (c.val + ('a'.val - 'A'.val)).toNat = c.val.toNat + 32
    rw [UInt32.toNat_add]
    have hsmall : c.val.toNat ≤ 90 := hbounds.2
    have hdiff : ('a'.val - 'A'.val).toNat = 32 := rfl
    omega
  · have hbounds : ¬ (65 ≤ c.toNat ∧ c.toNat ≤ 90) := fun hb =>
      h ⟨UInt32.le_iff_toNat_le.mpr hb.1, UInt32.le_iff_toNat_le.mpr hb.2⟩
    rw [dif_neg h, if_neg hbounds]

theorem digitValue_lt (h : c.isHexDigit = true) : digitValue c < 16 := by
  have hall : (digits.all fun d => decide (digitValue d < 16)) = true := by decide
  exact of_decide_eq_true (List.all_eq_true.mp hall c (isHexDigit_iff.mp h))

/-! ## Bytes -/

theorem utf8EncodeChar_of_lt (h : c.toNat < 128) : String.utf8EncodeChar c = [asciiByte c] := by
  have hle : c.val.toNat ≤ 127 := Nat.le_of_lt_succ h
  rw [String.utf8EncodeChar, if_pos hle]
  rfl

/-- The encoding of any other character starts beyond ASCII. -/
theorem utf8EncodeChar_of_ge (h : 128 ≤ c.toNat) :
    ∃ b more, String.utf8EncodeChar c = b :: more ∧ 128 ≤ b.toNat := by
  have hgt : ¬ c.val.toNat ≤ 127 := Nat.not_le_of_lt h
  rw [String.utf8EncodeChar, if_neg hgt]
  split
  · refine ⟨_, _, rfl, ?_⟩
    rw [UInt8.toNat_ofNat']
    omega
  · split
    · refine ⟨_, _, rfl, ?_⟩
      rw [UInt8.toNat_ofNat']
      omega
    · refine ⟨_, _, rfl, ?_⟩
      rw [UInt8.toNat_ofNat']
      omega

theorem utf8_cons : utf8 (c :: text) = String.utf8EncodeChar c ++ utf8 text :=
  List.flatMap_cons

theorem isHexDigit_lt (h : c.isHexDigit = true) : c.toNat < 128 := by
  have hall : (digits.all fun d => decide (d.toNat < 128)) = true := by decide
  exact of_decide_eq_true (List.all_eq_true.mp hall c (isHexDigit_iff.mp h))

theorem asciiByte_toNat (h : c.toNat < 128) : (asciiByte c).toNat = c.toNat := by
  rw [asciiByte, UInt8.toNat_ofNat']
  omega

/-- **A text of hex digits** is one byte per digit. -/
theorem utf8_of_hex (h : ∀ c ∈ text, c.isHexDigit = true) : utf8 text = text.map asciiByte := by
  induction text with
  | nil => rfl
  | cons c text ih =>
      rw [utf8_cons, utf8EncodeChar_of_lt (isHexDigit_lt (h c List.mem_cons_self)),
        ih (fun d hd => h d (List.mem_cons_of_mem c hd))]
      rfl

/-- A byte that is a hex digit. -/
def IsHexByte (b : UInt8) : Prop := ∃ c, c.isHexDigit = true ∧ b = asciiByte c

/-- **Whether the bytes are hex digits** can be read off the text. -/
theorem utf8_hex_iff : (∀ b ∈ utf8 text, IsHexByte b) ↔ ∀ c ∈ text, c.isHexDigit = true := by
  constructor
  · intro h
    induction text with
    | nil => simp
    | cons c text ih =>
        rw [utf8_cons] at h
        intro d hd
        rcases List.mem_cons.mp hd with rfl | hd
        · rcases Nat.lt_or_ge d.toNat 128 with hlt | hge
          · rw [utf8EncodeChar_of_lt hlt] at h
            obtain ⟨e, he, heq⟩ := h _ List.mem_cons_self
            have hnat := congrArg UInt8.toNat heq
            rw [asciiByte_toNat hlt, asciiByte_toNat (isHexDigit_lt he)] at hnat
            rwa [Char.toNat_inj.mp hnat]
          · obtain ⟨b, more, henc, hb⟩ := utf8EncodeChar_of_ge hge
            rw [henc] at h
            obtain ⟨e, he, rfl⟩ := h b List.mem_cons_self
            have hlt := isHexDigit_lt he
            rw [asciiByte_toNat hlt] at hb
            omega
        · exact ih (fun b hb => h b (List.mem_append_right _ hb)) d hd
  · intro h b hb
    rw [utf8_of_hex h] at hb
    obtain ⟨c, hc, rfl⟩ := List.mem_map.mp hb
    exact ⟨c, h c hc, rfl⟩

/-! ## The denoted bytes -/

@[simp] theorem denoted_nil : denoted [] = [] := rfl

/-- The two halves of a byte. -/
theorem nibbles (hi lo : UInt8) (hhi : hi.toNat < 16) (hlo : lo.toNat < 16) :
    hi <<< 4 ||| lo = UInt8.ofNat (16 * hi.toNat + lo.toNat) := by
  apply UInt8.toNat_inj.mp
  have hshift : hi.toNat <<< 4 = 16 * hi.toNat := by
    rw [Nat.shiftLeft_eq, Nat.mul_comm]
  rw [UInt8.toNat_or, UInt8.toNat_shiftLeft, UInt8.toNat_ofNat',
    Nat.mod_eq_of_lt (show 16 * hi.toNat + lo.toNat < 256 by omega)]
  have hfour : (4 : UInt8).toNat % 8 = 4 := rfl
  rw [hfour, hshift, Nat.mod_eq_of_lt (show 16 * hi.toNat < 256 by omega), ← hshift]
  rw [← Nat.shiftLeft_add_eq_or_of_lt (show lo.toNat < 2 ^ 4 by omega)]

end HexDigits
