import Mathlib.Algebra.BigOperators.Group.List.Lemmas
import Mathlib.Algebra.Order.BigOperators.Group.List
import Mathlib.Data.List.Dedup
import Mathlib.Tactic.Linarith

/-!
# Tallies

A tally of a list has one entry for each of its elements, with the number of
times it occurs.  `bump` counts one more element, so counting through a list
ends in a tally of it (`isTally_foldl`).

What a tally says is symmetric: the number of entries is the number of
different elements, the entries sum up to the length, and the largest of them
is the largest multiplicity, in whatever order the elements came.  The length
lies between `entries + largest - 1` and `entries * largest`.
-/

namespace Tallies

variable {α : Type*}

/-- The largest of the counted numbers. -/
def largest (counts : List (α × Nat)) : Nat :=
  (counts.map Prod.snd).foldl max 0

theorem largest_perm {counts counts' : List (α × Nat)} (hp : counts.Perm counts') :
    largest counts = largest counts' :=
  (hp.map Prod.snd).foldl_eq 0

variable [DecidableEq α]

/-- Count one more `a`. -/
def bump : List (α × Nat) → α → List (α × Nat)
  | [], a => [(a, 1)]
  | (key, n) :: counts, a =>
      if key = a then (key, n + 1) :: counts else (key, n) :: bump counts a

/-- `counts` has exactly one entry for each element of `xs`, its multiplicity. -/
structure IsTally (counts : List (α × Nat)) (xs : List α) : Prop where
  nodup : (counts.map Prod.fst).Nodup
  mem : ∀ a n, (a, n) ∈ counts ↔ a ∈ xs ∧ xs.count a = n

variable {counts : List (α × Nat)} {xs ys : List α} {a b : α} {n : Nat}

/-! ## Counting -/

theorem bump_keys : (bump counts a).map Prod.fst =
    if a ∈ counts.map Prod.fst then counts.map Prod.fst else counts.map Prod.fst ++ [a] := by
  induction counts with
  | nil => simp [bump]
  | cons entry counts ih =>
      obtain ⟨key, m⟩ := entry
      by_cases hkey : key = a
      · simp [bump, hkey]
      · have hne : a ≠ key := fun heq => hkey heq.symm
        rw [bump, if_neg hkey, List.map_cons, ih]
        by_cases hmem : a ∈ counts.map Prod.fst
        · rw [if_pos hmem, List.map_cons, if_pos (List.mem_cons_of_mem _ hmem)]
        · rw [if_neg hmem, List.map_cons, if_neg (by simp [hne, hmem]), List.cons_append]

theorem bump_keys_nodup (h : (counts.map Prod.fst).Nodup) :
    ((bump counts a).map Prod.fst).Nodup := by
  rw [bump_keys]
  split
  · exact h
  · rename_i hfresh
    apply h.append (List.nodup_singleton a)
    rwa [List.disjoint_singleton]

/-- The other entries are left alone. -/
theorem mem_bump_of_ne (hne : b ≠ a) : (b, n) ∈ bump counts a ↔ (b, n) ∈ counts := by
  induction counts with
  | nil => simp [bump, hne]
  | cons entry counts ih =>
      obtain ⟨key, m⟩ := entry
      by_cases hkey : key = a
      · subst hkey
        simp [bump, hne]
      · simp [bump, hkey, ih]

/-- The entry of the counted element goes up by one, or appears. -/
theorem mem_bump_self (h : (counts.map Prod.fst).Nodup) : (a, n) ∈ bump counts a ↔
    (∃ m, (a, m) ∈ counts ∧ n = m + 1) ∨ (a ∉ counts.map Prod.fst ∧ n = 1) := by
  induction counts with
  | nil => simp [bump]
  | cons entry counts ih =>
      obtain ⟨key, m⟩ := entry
      rw [List.map_cons, List.nodup_cons] at h
      by_cases hkey : key = a
      · subst hkey
        have hgone : ∀ k, (key, k) ∉ counts := fun k hk =>
          h.1 (List.mem_map.mpr ⟨(key, k), hk, rfl⟩)
        simp [bump, hgone]
      · have hne : a ≠ key := fun heq => hkey heq.symm
        rw [bump, if_neg hkey, List.mem_cons, ih h.2]
        simp [hne]

/-- **One more element.** -/
theorem IsTally.snoc (h : IsTally counts xs) : IsTally (bump counts a) (xs ++ [a]) := by
  refine ⟨bump_keys_nodup h.nodup, fun b n => ?_⟩
  by_cases hb : b = a
  · subst hb
    rw [mem_bump_self h.nodup]
    have hkey : b ∈ counts.map Prod.fst ↔ b ∈ xs := by simp [h.mem]
    rw [hkey]
    by_cases hmem : b ∈ xs
    · simp [h.mem, hmem, eq_comm]
    · simp [h.mem, hmem, List.count_eq_zero_of_not_mem, eq_comm]
  · rw [mem_bump_of_ne hb, h.mem, List.count_append, List.mem_append]
    have hother : [a].count b = 0 := List.count_eq_zero_of_not_mem (by simpa using hb)
    simp [hb, hother]

/-- **Counting through a list** ends in a tally of it. -/
theorem isTally_foldl (xs : List α) : IsTally (xs.foldl bump []) xs := by
  induction xs using List.reverseRecOn with
  | nil => exact ⟨List.nodup_nil, by simp⟩
  | append_singleton xs a ih =>
      rw [List.foldl_append]
      exact ih.snoc

/-! ## What a tally says -/

theorem le_foldl_max (ns : List Nat) (acc : Nat) :
    acc ≤ ns.foldl max acc ∧ ∀ n ∈ ns, n ≤ ns.foldl max acc := by
  induction ns generalizing acc with
  | nil => simp
  | cons m ns ih =>
      obtain ⟨hacc, hall⟩ := ih (max acc m)
      refine ⟨(le_max_left acc m).trans hacc, fun n hn => ?_⟩
      rcases List.mem_cons.mp hn with rfl | hn
      · exact (le_max_right acc n).trans hacc
      · exact hall n hn

theorem foldl_max_mem (ns : List Nat) (acc : Nat) :
    ns.foldl max acc = acc ∨ ns.foldl max acc ∈ ns := by
  induction ns generalizing acc with
  | nil => exact Or.inl rfl
  | cons m ns ih =>
      rw [List.foldl_cons]
      rcases ih (max acc m) with hacc | hmem
      · rw [hacc]
        rcases max_choice acc m with hleft | hright
        · exact Or.inl hleft
        · exact Or.inr (by simp [hright])
      · exact Or.inr (List.mem_cons_of_mem m hmem)

namespace IsTally

variable (h : IsTally counts xs)
include h

/-- The order of arrival does not show. -/
theorem perm (hp : xs.Perm ys) : IsTally counts ys where
  nodup := h.nodup
  mem a n := by rw [h.mem, hp.mem_iff, hp.count_eq]

theorem keys_perm : (counts.map Prod.fst).Perm xs.dedup := by
  rw [List.perm_ext_iff_of_nodup h.nodup (List.nodup_dedup xs)]
  intro a
  rw [List.mem_dedup]
  simp [h.mem]

theorem values : counts.map Prod.snd = (counts.map Prod.fst).map fun a => xs.count a := by
  rw [List.map_map]
  refine List.map_congr_left fun entry hentry => ?_
  exact ((h.mem entry.1 entry.2).mp hentry).2.symm

/-- As many entries as different elements. -/
theorem length_eq : counts.length = xs.dedup.length := by
  rw [← h.keys_perm.length_eq, List.length_map]

/-- The entries sum up to the length. -/
theorem sum_eq : (counts.map Prod.snd).sum = xs.length := by
  rw [h.values, (h.keys_perm.map _).sum_eq]
  exact List.sum_map_count_dedup_eq_length xs

/-- No element occurs more often than the largest entry says. -/
theorem count_le (a : α) : xs.count a ≤ largest counts := by
  by_cases hmem : a ∈ xs
  · have hentry : (a, xs.count a) ∈ counts := (h.mem a _).mpr ⟨hmem, rfl⟩
    exact (le_foldl_max _ 0).2 _ (List.mem_map_of_mem hentry)
  · rw [List.count_eq_zero_of_not_mem hmem]
    exact Nat.zero_le _

/-- One occurs as often. -/
theorem exists_count_eq (hne : xs ≠ []) : ∃ a ∈ xs, xs.count a = largest counts := by
  obtain ⟨a, ha⟩ := List.exists_mem_of_ne_nil xs hne
  rcases foldl_max_mem (counts.map Prod.snd) 0 with hzero | hmem
  · have hle := h.count_le a
    have hpos := List.count_pos_iff.mpr ha
    rw [largest, hzero] at hle
    omega
  · obtain ⟨entry, hentry, heq⟩ := List.mem_map.mp hmem
    obtain ⟨hin, hcount⟩ := (h.mem entry.1 entry.2).mp hentry
    exact ⟨entry.1, hin, hcount.trans heq⟩

/-- Two tallies of one list differ at most in the order of their entries. -/
theorem unique {counts' : List (α × Nat)} (h' : IsTally counts' xs) : counts.Perm counts' := by
  rw [List.perm_ext_iff_of_nodup h.nodup.of_map h'.nodup.of_map]
  intro entry
  exact (h.mem entry.1 entry.2).trans (h'.mem entry.1 entry.2).symm

/-- One entry stands for copies of one element. -/
theorem length_eq_one_iff (hne : xs ≠ []) :
    counts.length = 1 ↔ ∀ a ∈ xs, ∀ b ∈ xs, a = b := by
  rw [h.length_eq, List.length_eq_one_iff]
  constructor
  · intro hsingle a ha b hb
    obtain ⟨c, hc⟩ := hsingle
    have hall : ∀ d ∈ xs, d = c := fun d hd => by
      rw [← List.mem_dedup, hc] at hd
      exact List.mem_singleton.mp hd
    rw [hall a ha, hall b hb]
  · intro hall
    obtain ⟨a, ha⟩ := List.exists_mem_of_ne_nil xs hne
    refine ⟨a, List.perm_singleton.mp ?_⟩
    rw [List.perm_ext_iff_of_nodup (List.nodup_dedup xs) (List.nodup_singleton a)]
    intro b
    rw [List.mem_dedup, List.mem_singleton]
    exact ⟨fun hb => hall b hb a ha, fun heq => heq ▸ ha⟩

theorem largest_eq_one_iff (hne : xs ≠ []) : largest counts = 1 ↔ xs.Nodup := by
  rw [List.nodup_iff_count_le_one]
  constructor
  · intro hone a
    rw [← hone]
    exact h.count_le a
  · intro hall
    obtain ⟨a, ha, heq⟩ := h.exists_count_eq hne
    have hpos := List.count_pos_iff.mpr ha
    have hle := hall a
    omega

/-- **At most** all elements occur as often as the most frequent one. -/
theorem length_le : xs.length ≤ counts.length * largest counts := by
  have hle : ∀ n ∈ counts.map Prod.snd, n ≤ largest counts := (le_foldl_max _ 0).2
  have hsum := List.sum_le_card_nsmul _ _ hle
  rwa [h.sum_eq, List.length_map, nsmul_eq_mul, Nat.cast_id] at hsum

/-- **At least** the others occur once. -/
theorem le_length (hne : xs ≠ []) : counts.length + largest counts - 1 ≤ xs.length := by
  obtain ⟨a, ha, heq⟩ := h.exists_count_eq hne
  have hentry : largest counts ∈ counts.map Prod.snd :=
    List.mem_map.mpr ⟨(a, largest counts), (h.mem a _).mpr ⟨ha, heq⟩, rfl⟩
  have hpos : ∀ n ∈ (counts.map Prod.snd).erase (largest counts), 1 ≤ n := by
    intro n hn
    obtain ⟨entry, hmem, rfl⟩ := List.mem_map.mp (List.mem_of_mem_erase hn)
    obtain ⟨hin, hcount⟩ := (h.mem entry.1 entry.2).mp hmem
    have hone := List.count_pos_iff.mpr hin
    omega
  have hothers := List.card_nsmul_le_sum _ _ hpos
  have hsplit := (List.perm_cons_erase hentry).sum_eq
  rw [h.sum_eq, List.sum_cons] at hsplit
  rw [List.length_erase_of_mem hentry, List.length_map, nsmul_eq_mul, mul_one, Nat.cast_id]
    at hothers
  omega

end IsTally

end Tallies
