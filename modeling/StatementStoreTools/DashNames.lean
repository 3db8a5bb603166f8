import Mathlib.Data.List.Basic
import Std.Data.String.ToNat

/-!
# Names joined by a separator

Fields joined by a separator can be read back from the left as long as the
left field is free of it, and from the right as long as the right field is:
`cut_first`, `cut_last`.  Decimal numbers are free of every character that is
not a digit, and determine the number.
-/

namespace DashNames

variable {α : Type*} {sep : α} {a b x y : List α}

/-- **Cutting at the first separator.** -/
theorem cut_first (ha : sep ∉ a) (hb : sep ∉ b) (h : a ++ sep :: x = b ++ sep :: y) :
    a = b ∧ x = y := by
  induction a generalizing b with
  | nil =>
      cases b with
      | nil => exact ⟨rfl, (List.cons.inj h).2⟩
      | cons c b => exact absurd (List.cons.inj h).1 (fun heq => by simp [heq] at hb)
  | cons c a ih =>
      cases b with
      | nil => exact absurd (List.cons.inj h).1 (fun heq => by simp [heq] at ha)
      | cons d b =>
          obtain ⟨rfl, htail⟩ := List.cons.inj h
          obtain ⟨rfl, hxy⟩ := ih (fun hm => ha (List.mem_cons_of_mem _ hm))
            (fun hm => hb (List.mem_cons_of_mem _ hm)) htail
          exact ⟨rfl, hxy⟩

/-- **Cutting at the last separator.** -/
theorem cut_last (hx : sep ∉ x) (hy : sep ∉ y) (h : a ++ sep :: x = b ++ sep :: y) :
    a = b ∧ x = y := by
  have hrev : x.reverse ++ sep :: a.reverse = y.reverse ++ sep :: b.reverse := by
    simpa using congrArg List.reverse h
  obtain ⟨hxy, hab⟩ := cut_first (by simpa using hx) (by simpa using hy) hrev
  exact ⟨List.reverse_injective hab, List.reverse_injective hxy⟩

/-- The characters of a decimal number. -/
def decimal (n : Nat) : List Char := Nat.toDigits 10 n

theorem toList_toString (n : Nat) : (toString n).toList = decimal n :=
  Nat.toList_repr

theorem decimal_injective : Function.Injective decimal := by
  intro m n h
  calc
    m = Nat.ofDigitChars 10 (Nat.toDigits 10 m) 0 := Nat.ofDigitChars_ten_toDigits.symm
    _ = Nat.ofDigitChars 10 (Nat.toDigits 10 n) 0 := congrArg (Nat.ofDigitChars 10 · 0) h
    _ = n := Nat.ofDigitChars_ten_toDigits

theorem not_mem_decimal {c : Char} (hc : c.isDigit = false) (n : Nat) : c ∉ decimal n := by
  intro h
  have hdigit := Nat.isDigit_of_mem_toDigits (by decide) (by decide) h
  rw [hc] at hdigit
  cases hdigit

/-- A number followed by the separator can be read off. -/
theorem decimal_cut_first {c : Char} (hc : c.isDigit = false) {m n : Nat} {x y : List Char}
    (h : decimal m ++ c :: x = decimal n ++ c :: y) : m = n ∧ x = y := by
  obtain ⟨hmn, hxy⟩ := cut_first (not_mem_decimal hc m) (not_mem_decimal hc n) h
  exact ⟨decimal_injective hmn, hxy⟩

/-- A number after the last separator can be read off. -/
theorem decimal_cut_last {c : Char} (hc : c.isDigit = false) {m n : Nat} {a b : List Char}
    (h : a ++ c :: decimal m = b ++ c :: decimal n) : a = b ∧ m = n := by
  obtain ⟨hab, hmn⟩ := cut_last (not_mem_decimal hc m) (not_mem_decimal hc n) h
  exact ⟨hab, decimal_injective hmn⟩

end DashNames
