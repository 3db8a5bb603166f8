import Mathlib.Data.List.Forall2
import StatementStoreTools.DashNames

/-!
# Texts with labelled fields

A line such as `n=3 size=10 ` is made by filling values into a template.  Each
value is ended by a character of its own, and a fixed label leads on to the next
one.  The values can be read back when each of them is free of the character
that ends it, whatever else it contains (`fill_inj`).

A list of values joined by one separator is told apart from every other such
list when the values are not empty and free of it (`intercalate_inj`).
-/

namespace LabelledFields

open DashNames

variable {α : Type*}

/-- Fill a template.  A field gives the character that ends its value, and the
label that follows. -/
def fill : List (α × List α) → List (List α) → List α
  | field :: template, value :: values => value ++ field.1 :: (field.2 ++ fill template values)
  | _, _ => []

/-- Every value is free of the character that ends it. -/
def Fits (template : List (α × List α)) (values : List (List α)) : Prop :=
  List.Forall₂ (fun field value => field.1 ∉ value) template values

/-- **The values of a filled template can be read back.** -/
theorem fill_inj {template : List (α × List α)} {values values' : List (List α)}
    (h : Fits template values) (h' : Fits template values')
    (heq : fill template values = fill template values') : values = values' := by
  unfold Fits at h h'
  induction h generalizing values' with
  | nil =>
      cases h'
      rfl
  | @cons field value template values hfree hrest ih =>
      cases h' with
      | @cons _ value' _ values' hfree' hrest' =>
          obtain ⟨hvalue, htail⟩ := cut_first hfree hfree' heq
          have hvalues := ih hrest' (List.append_cancel_left htail)
          rw [hvalue, hvalues]

/-- A joined list holds what its values hold, and the separator. -/
theorem mem_intercalate {sep c : α} {xs : List (List α)} (h : c ∈ [sep].intercalate xs) :
    c = sep ∨ ∃ x ∈ xs, c ∈ x := by
  induction xs with
  | nil => exact absurd h List.not_mem_nil
  | cons x xs ih =>
      by_cases hxs : xs = []
      · rw [hxs, List.intercalate_singleton] at h
        exact Or.inr ⟨x, List.mem_cons_self, h⟩
      · rw [List.intercalate_cons_of_ne_nil hxs, List.append_assoc, List.mem_append] at h
        rcases h with h | h
        · exact Or.inr ⟨x, List.mem_cons_self, h⟩
        · rcases List.mem_cons.mp h with h | h
          · exact Or.inl h
          · rcases ih h with h | h
            · exact Or.inl h
            · obtain ⟨y, hy, hc⟩ := h
              exact Or.inr ⟨y, List.mem_cons_of_mem x hy, hc⟩

/-- **The values of a joined list can be read back.** -/
theorem intercalate_inj [BEq α] [LawfulBEq α] {sep : α} {xs ys : List (List α)}
    (hx : ∀ x ∈ xs, x ≠ [] ∧ sep ∉ x) (hy : ∀ y ∈ ys, y ≠ [] ∧ sep ∉ y)
    (h : [sep].intercalate xs = [sep].intercalate ys) : xs = ys := by
  have hnil : ∀ zs : List (List α), (∀ z ∈ zs, z ≠ [] ∧ sep ∉ z) →
      [sep].intercalate zs = [] → zs = [] := by
    intro zs hz hempty
    by_contra hne
    -- cut again, the empty text is one empty value, and no value is empty
    have hcut := List.splitOn_intercalate sep (fun z hmem => (hz z hmem).2) hne
    rw [hempty, List.splitOn_nil] at hcut
    exact (hz [] (by rw [← hcut]; exact List.mem_singleton_self [])).1 rfl
  by_cases hxs : xs = []
  · subst hxs
    exact (hnil ys hy h.symm).symm
  · by_cases hys : ys = []
    · subst hys
      exact hnil xs hx h
    · rw [← List.splitOn_intercalate sep (fun x hmem => (hx x hmem).2) hxs, h,
        List.splitOn_intercalate sep (fun y hmem => (hy y hmem).2) hys]

end LabelledFields
