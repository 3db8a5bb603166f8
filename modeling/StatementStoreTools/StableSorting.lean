import Mathlib.Data.List.Basic

/-!
# Stable sorting

`StablySorted le xs ys` says what a stable sort makes of `xs`: the same
elements, in ascending order, and those that compare equal in the order they
had.  `mergeSort` does this for every total preorder, and a map that keeps the
comparison keeps the relation.
-/

namespace StableSorting

variable {α β : Type*}

/-- `a` and `b` are not told apart by `le`. -/
def ties (le : α → α → Bool) (a b : α) : Bool := le a b && le b a

/-- `ys` is `xs` in ascending order, and no two ties have changed places. -/
structure StablySorted (le : α → α → Bool) (xs ys : List α) : Prop where
  perm : ys.Perm xs
  ascending : ys.Pairwise fun a b => le a b = true
  stable : ∀ a ∈ xs, ys.filter (ties le a) = xs.filter (ties le a)

section MergeSort

variable {le : α → α → Bool} {xs ys : List α}
  (trans : ∀ a b c, le a b = true → le b c = true → le a c = true)
  (total : ∀ a b, (le a b || le b a) = true)

include trans

/-- The ties of one element are in order however they stand. -/
theorem pairwise_ties (a : α) : (xs.filter (ties le a)).Pairwise fun b c => le b c = true := by
  apply List.pairwise_of_forall_mem_list
  intro b hb c hc
  have hab := List.of_mem_filter hb
  have hac := List.of_mem_filter hc
  rw [ties, Bool.and_eq_true] at hab hac
  exact trans b a c hab.2 hac.1

include total

/-- **Merge sort is stable.** -/
theorem stablySorted_mergeSort (xs : List α) : StablySorted le xs (xs.mergeSort le) := by
  have hperm := List.mergeSort_perm xs le
  refine ⟨hperm, List.pairwise_mergeSort trans total xs, fun a _ => ?_⟩
  have hsub : (xs.filter (ties le a)).Sublist (xs.mergeSort le) :=
    List.sublist_mergeSort trans total (pairwise_ties trans a) List.filter_sublist
  have hties := hsub.filter (ties le a)
  simp only [List.filter_filter, Bool.and_self] at hties
  exact (hties.eq_of_length (hperm.filter _).length_eq.symm).symm

end MergeSort

/-- A map that keeps the comparison keeps the order. -/
theorem StablySorted.map {le : α → α → Bool} {le' : β → β → Bool} {f : α → β} {xs ys : List α}
    (h : StablySorted le xs ys) (hle : ∀ a b, le' (f a) (f b) = le a b) :
    StablySorted le' (xs.map f) (ys.map f) := by
  refine ⟨h.perm.map f, ?_, ?_⟩
  · rw [List.pairwise_map]
    exact h.ascending.imp fun hab => (hle _ _).trans hab
  · intro b hb
    obtain ⟨a, ha, rfl⟩ := List.mem_map.mp hb
    have hties : ties le' (f a) ∘ f = ties le a := by
      funext c
      simp [ties, hle]
    rw [List.filter_map, List.filter_map, hties, h.stable a ha]

end StableSorting
