import Mathlib.Algebra.Order.Floor.Div
import Mathlib.Data.List.Basic

/-!
# Cutting a list into chunks

`chunks size xs` cuts `xs` into consecutive pieces of `size` elements, the last
of them perhaps shorter.  Nothing is lost, nothing is repeated and nothing
changes its place (`flatten_chunks`), no chunk is longer than `size`
(`length_le_of_mem_chunks`), there are as many as it takes
(`length_chunks`), and element `c * size + j` is the `j`-th of chunk `c`
(`getElem?_getElem?_chunks`).
-/

namespace Chunking

variable {α : Type*}

/-- At most `fuel` pieces of `size`. -/
def cut (size : Nat) : Nat → List α → List (List α)
  | 0, _ => []
  | _ + 1, [] => []
  | fuel + 1, x :: xs => (x :: xs).take size :: cut size fuel ((x :: xs).drop size)

/-- Consecutive pieces of `size` elements. -/
def chunks (size : Nat) (xs : List α) : List (List α) :=
  cut size xs.length xs

variable {size fuel fuel' : Nat} {xs : List α}

/-- Any bound that suffices gives the same pieces. -/
theorem cut_eq_cut (hsize : 0 < size) (h : xs.length ≤ fuel) (h' : xs.length ≤ fuel') :
    cut size fuel xs = cut size fuel' xs := by
  induction fuel generalizing xs fuel' with
  | zero =>
      obtain rfl := List.eq_nil_of_length_eq_zero (Nat.le_zero.mp h)
      cases fuel' <;> rfl
  | succ fuel ih =>
      cases xs with
      | nil => cases fuel' <;> rfl
      | cons x xs =>
          cases fuel' with
          | zero => simp at h'
          | succ fuel' =>
              have hshort : ((x :: xs).drop size).length ≤ xs.length := by
                rw [List.length_drop, List.length_cons]
                omega
              rw [List.length_cons] at h h'
              have hrest : cut size fuel ((x :: xs).drop size) =
                  cut size fuel' ((x :: xs).drop size) := ih (by omega) (by omega)
              rw [cut, cut, hrest]

@[simp] theorem chunks_nil : chunks size ([] : List α) = [] := rfl

/-- The first chunk, and the chunks of the rest. -/
theorem chunks_of_ne_nil (hsize : 0 < size) (h : xs ≠ []) :
    chunks size xs = xs.take size :: chunks size (xs.drop size) := by
  cases xs with
  | nil => exact absurd rfl h
  | cons x xs =>
      rw [chunks, List.length_cons, cut]
      refine congrArg _ (cut_eq_cut hsize ?_ (Nat.le_refl _))
      rw [List.length_drop, List.length_cons]
      omega

/-- Induction along the chunks. -/
theorem chunks_induction {motive : List α → Prop} (hsize : 0 < size) (nil : motive [])
    (cons : ∀ xs, xs ≠ [] → motive (xs.drop size) → motive xs) (xs : List α) : motive xs := by
  induction hlen : xs.length using Nat.strongRecOn generalizing xs with
  | ind n ih =>
      by_cases hxs : xs = []
      · exact hxs ▸ nil
      · have hpos := List.length_pos_iff.mpr hxs
        have hdrop : (xs.drop size).length < n := by
          rw [List.length_drop]
          omega
        exact cons xs hxs (ih _ hdrop _ rfl)

/-- **Nothing is lost or repeated.** -/
theorem flatten_chunks (hsize : 0 < size) (xs : List α) : (chunks size xs).flatten = xs := by
  induction xs using chunks_induction hsize with
  | nil => rfl
  | cons xs hne ih =>
      rw [chunks_of_ne_nil hsize hne, List.flatten_cons, ih, List.take_append_drop]

theorem length_le_of_mem_chunks (hsize : 0 < size) {chunk : List α} (h : chunk ∈ chunks size xs) :
    chunk.length ≤ size := by
  induction xs using chunks_induction hsize with
  | nil => cases h
  | cons xs hne ih =>
      rw [chunks_of_ne_nil hsize hne] at h
      rcases List.mem_cons.mp h with rfl | h
      · rw [List.length_take]
        exact Nat.min_le_left _ _
      · exact ih h

/-- **As many as it takes.** -/
theorem length_chunks (hsize : 0 < size) (xs : List α) :
    (chunks size xs).length = xs.length ⌈/⌉ size := by
  induction xs using chunks_induction hsize with
  | nil => exact (zero_ceilDiv size).symm
  | cons xs hne ih =>
      have hpos := List.length_pos_iff.mpr hne
      rw [chunks_of_ne_nil hsize hne, List.length_cons, ih, List.length_drop,
        Nat.ceilDiv_eq_add_pred_div, Nat.ceilDiv_eq_add_pred_div]
      have hone : (xs.length + size - 1) / size = (xs.length - 1) / size + 1 := by
        rw [← Nat.add_div_right _ hsize]
        congr 1
        omega
      rw [hone]
      by_cases hle : size ≤ xs.length
      · rw [Nat.sub_add_cancel hle]
      · have hfirst : xs.length - size + size - 1 < size := by omega
        have hlast : xs.length - 1 < size := by omega
        rw [Nat.div_eq_of_lt hfirst, Nat.div_eq_of_lt hlast]

/-- Chunk `c` starts at element `c * size`. -/
theorem getElem?_chunks (hsize : 0 < size) (xs : List α) (c : Nat) :
    (chunks size xs)[c]? =
      if c * size < xs.length then some ((xs.drop (c * size)).take size) else none := by
  induction xs using chunks_induction hsize generalizing c with
  | nil => simp
  | cons xs hne ih =>
      have hpos := List.length_pos_iff.mpr hne
      rw [chunks_of_ne_nil hsize hne]
      cases c with
      | zero => simp [hpos]
      | succ c =>
          rw [List.getElem?_cons_succ, ih c, List.length_drop, List.drop_drop, Nat.succ_mul,
            Nat.add_comm size]
          exact if_congr (by omega) rfl rfl

/-- **Every element in its place.** -/
theorem getElem?_getElem?_chunks (hsize : 0 < size) {x : α} {c j : Nat} :
    (∃ chunk, (chunks size xs)[c]? = some chunk ∧ chunk[j]? = some x) ↔
      j < size ∧ xs[c * size + j]? = some x := by
  rw [getElem?_chunks hsize]
  constructor
  · intro hin
    obtain ⟨chunk, hchunk, hx⟩ := hin
    split_ifs at hchunk
    obtain rfl := Option.some.inj hchunk
    rw [List.getElem?_take] at hx
    split_ifs at hx with hj
    rw [List.getElem?_drop] at hx
    exact ⟨hj, hx⟩
  · intro hat
    obtain ⟨hj, hx⟩ := hat
    have hlt : c * size < xs.length :=
      Nat.lt_of_le_of_lt (Nat.le_add_right ..) (List.getElem?_eq_some_iff.mp hx).1
    refine ⟨_, if_pos hlt, ?_⟩
    rw [List.getElem?_take, if_pos hj, List.getElem?_drop, hx]

theorem mem_getElem?_chunks (hsize : 0 < size) {x : α} {c : Nat} :
    (∃ chunk, (chunks size xs)[c]? = some chunk ∧ x ∈ chunk) ↔
      ∃ i, xs[i]? = some x ∧ i / size = c := by
  constructor
  · intro hin
    obtain ⟨chunk, hchunk, hx⟩ := hin
    obtain ⟨j, hj⟩ := List.mem_iff_getElem?.mp hx
    obtain ⟨hlt, hat⟩ := (getElem?_getElem?_chunks hsize).mp ⟨chunk, hchunk, hj⟩
    refine ⟨c * size + j, hat, ?_⟩
    rw [Nat.mul_comm, Nat.mul_add_div hsize, Nat.div_eq_of_lt hlt, Nat.add_zero]
  · intro hat
    obtain ⟨i, hi, rfl⟩ := hat
    obtain ⟨chunk, hchunk, hx⟩ := (getElem?_getElem?_chunks hsize).mpr
      ⟨Nat.mod_lt i hsize, (Nat.div_add_mod' i size).symm ▸ hi⟩
    exact ⟨chunk, hchunk, List.mem_iff_getElem?.mpr ⟨i % size, hx⟩⟩

end Chunking
