import Mathlib.Algebra.Ring.Nat
import StatementStoreTools.DashNames

/-!
# Numbers with units

A text such as `1d4h` is a list of decimal numbers, each with the letter of its
unit behind it.  As no letter is a digit, a number ends where its letter comes,
and the text can be read from the left.  A number is read without zeros in front:
`Units.read_eq_some` says that exactly what `Units.render` writes is read.

Units whose number is zero may be left out in front.  A writer that leaves them
out as long as nothing has been written is `foldl_pushField`.
-/

namespace UnitNumbers

open DashNames

/-- Units with their letters and weights. -/
structure Units (υ : Type) where
  letter : υ → Char
  ofLetter : Char → Option υ
  weight : υ → Nat
  ofLetter_eq_some : ∀ {c u}, ofLetter c = some u ↔ letter u = c
  letter_not_digit : ∀ u, (letter u).isDigit = false

/-! ## One number -/

/-- The number whose decimal the digits are. -/
def readDecimal (digits : List Char) : Option Nat :=
  if decimal (Nat.ofDigitChars 10 digits 0) = digits then some (Nat.ofDigitChars 10 digits 0)
  else none

theorem readDecimal_eq_some {digits : List Char} {n : Nat} :
    readDecimal digits = some n ↔ digits = decimal n := by
  unfold readDecimal
  constructor
  · intro h
    split at h
    · rename_i hdigits
      rw [← Option.some.inj h, hdigits]
    · cases h
  · intro h
    have hvalue : Nat.ofDigitChars 10 digits 0 = n := by
      rw [h]
      exact Nat.ofDigitChars_ten_toDigits
    rw [hvalue, if_pos h.symm]

theorem isDigit_of_mem_decimal {c : Char} {n : Nat} (h : c ∈ decimal n) : c.isDigit = true := by
  by_contra hc
  exact not_mem_decimal (Bool.eq_false_iff.mpr hc) n h

/-! ## Zeros in front -/

section Fields

variable {υ : Type}

/-- A number goes into the list if it is not zero, or if the list has begun. -/
def pushField (shown : List (Nat × υ)) (f : Nat × υ) : List (Nat × υ) :=
  if 0 < f.1 ∨ shown ≠ [] then shown ++ [f] else shown

theorem foldl_pushField_of_ne_nil {shown : List (Nat × υ)} (h : shown ≠ [])
    (fields : List (Nat × υ)) : fields.foldl pushField shown = shown ++ fields := by
  induction fields generalizing shown with
  | nil => simp
  | cons f fields ih =>
      rw [List.foldl_cons, pushField, if_pos (.inr h), ih (by simp), List.append_assoc]
      rfl

/-- So the zeros in front are left out, and no others. -/
theorem foldl_pushField (fields : List (Nat × υ)) :
    fields.foldl pushField [] = fields.dropWhile fun f => f.1 = 0 := by
  induction fields with
  | nil => rfl
  | cons f fields ih =>
      by_cases hf : f.1 = 0
      · rw [List.dropWhile_cons_of_pos (by simpa using hf), List.foldl_cons, pushField,
          if_neg (by simp [hf]), ih]
      · rw [List.dropWhile_cons_of_neg (by simpa using hf), List.foldl_cons, pushField,
          if_pos (.inl (Nat.pos_of_ne_zero hf)), List.nil_append,
          foldl_pushField_of_ne_nil (by simp)]
        rfl

end Fields

/-! ## The text -/

namespace Units

variable {υ : Type} (U : Units υ)

/-- Number by number, each in front of its letter. -/
def render (fields : List (Nat × υ)) : List Char :=
  fields.flatMap fun f => decimal f.1 ++ [U.letter f.2]

/-- Reads on behind the digits `digits`. -/
def readFrom (digits : List Char) : List Char → Option (List (Nat × υ))
  | [] => if digits = [] then some [] else none
  | c :: rest =>
      if c.isDigit then readFrom (digits ++ [c]) rest
      else do
        let n ← readDecimal digits
        let u ← U.ofLetter c
        let fields ← readFrom [] rest
        return (n, u) :: fields

def read (text : List Char) : Option (List (Nat × υ)) := U.readFrom [] text

variable {text digits front rest : List Char} {fields : List (Nat × υ)}

theorem render_cons (n : Nat) (u : υ) :
    U.render ((n, u) :: fields) = decimal n ++ U.letter u :: U.render fields := by
  simp [render]

theorem render_append (fields' : List (Nat × υ)) :
    U.render (fields ++ fields') = U.render fields ++ U.render fields' := by
  simp [render]

theorem render_eq_nil : U.render fields = [] ↔ fields = [] := by
  cases fields with
  | nil => simp [render]
  | cons f fields => simp [render]

theorem readFrom_digits (h : ∀ c ∈ front, c.isDigit = true) :
    U.readFrom digits (front ++ rest) = U.readFrom (digits ++ front) rest := by
  induction front generalizing digits with
  | nil => simp
  | cons c front ih =>
      rw [List.cons_append, readFrom, if_pos (h c (by simp)),
        ih (fun d hd => h d (List.mem_cons_of_mem _ hd)), List.append_assoc]
      rfl

/-- A number and its letter are read off the front. -/
theorem read_cons (n : Nat) (u : υ) :
    U.read (decimal n ++ U.letter u :: rest) = (U.read rest).map ((n, u) :: ·) := by
  have hletter : U.ofLetter (U.letter u) = some u := U.ofLetter_eq_some.mpr rfl
  have hnumber : readDecimal (decimal n) = some n := readDecimal_eq_some.mpr rfl
  rw [read, U.readFrom_digits fun c hc => isDigit_of_mem_decimal hc, List.nil_append, readFrom,
    U.letter_not_digit, hletter, hnumber]
  cases hrest : U.readFrom [] rest with
  | none => simp [read, hrest]
  | some fields => simp [read, hrest]

theorem read_render (fields : List (Nat × υ)) : U.read (U.render fields) = some fields := by
  induction fields with
  | nil => rfl
  | cons f fields ih =>
      obtain ⟨n, u⟩ := f
      rw [render_cons, read_cons, ih, Option.map_some]

/-- What has been read is the text that was given. -/
theorem readFrom_eq_some (h : U.readFrom digits text = some fields) :
    digits ++ text = U.render fields := by
  induction text generalizing digits fields with
  | nil =>
      rw [readFrom] at h
      split at h
      · rename_i hdigits
        obtain rfl := Option.some.inj h
        simp [hdigits, render]
      · cases h
  | cons c text ih =>
      rw [readFrom] at h
      split at h
      · rw [← ih h, List.append_assoc]
        rfl
      · obtain ⟨n, hn, h⟩ := Option.bind_eq_some_iff.mp h
        obtain ⟨u, hu, h⟩ := Option.bind_eq_some_iff.mp h
        obtain ⟨later, hlater, h⟩ := Option.bind_eq_some_iff.mp h
        obtain rfl := Option.some.inj h
        rw [render_cons, ← readDecimal_eq_some.mp hn, U.ofLetter_eq_some.mp hu, ← ih hlater,
          List.nil_append]

/-- **Exactly the rendered texts are read**, and as what they were rendered
from. -/
theorem read_eq_some : U.read text = some fields ↔ text = U.render fields := by
  constructor
  · intro h
    exact U.readFrom_eq_some h
  · intro h
    rw [h, read_render]

/-! ## The weighted sum -/

def total (fields : List (Nat × υ)) : Nat := (fields.map fun f => f.1 * U.weight f.2).sum

theorem total_append (fields fields' : List (Nat × υ)) :
    U.total (fields ++ fields') = U.total fields + U.total fields' := by
  simp [total]

/-- Zeros in front count nothing. -/
theorem total_dropWhile_zero (fields : List (Nat × υ)) :
    U.total (fields.dropWhile fun f => f.1 = 0) = U.total fields := by
  induction fields with
  | nil => rfl
  | cons f fields ih =>
      by_cases hf : f.1 = 0
      · rw [List.dropWhile_cons_of_pos (by simpa using hf), ih]
        simp [total, hf]
      · rw [List.dropWhile_cons_of_neg (by simpa using hf)]

end Units

end UnitNumbers
