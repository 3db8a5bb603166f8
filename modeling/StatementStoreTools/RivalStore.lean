import Mathlib.Data.List.Perm.Basic
import StatementStoreTools.Loops

/-!
# Stores in which items replace each other

A store takes items one after the other.  An arriving item may have rivals
among the stored ones; then a policy decides between them: the newcomer takes
the place of its rivals, or it is turned away.

Whatever the policy, a store keeps everything it is given exactly when no two
of the items are rivals (`hold_eq_self_iff`); for a symmetric relation this
does not depend on the order of arrival (`hold_of_subperm`).
-/

namespace RivalStore

open Loops

variable {α : Type*} (rivals wins : α → α → Bool)

/-- Put `x` into the store.  `wins x old` lets `x` replace its rivals. -/
def insert (held : List α) (x : α) : List α :=
  match held.find? fun old => rivals old x with
  | none => held ++ [x]
  | some old => if wins x old then held.filter (fun y => !rivals y x) ++ [x] else held

/-- What the store holds after the arrivals. -/
def hold (arrivals : List α) : List α :=
  arrivals.foldl (insert rivals wins) []

/-- No item is a rival of a later one. -/
def Apart (items : List α) : Prop :=
  items.Pairwise fun old x => rivals old x = false

variable {rivals wins} {held items arrivals : List α} {x : α}

theorem insert_of_apart (h : ∀ old ∈ held, rivals old x = false) :
    insert rivals wins held x = held ++ [x] := by
  have hnone : (held.find? fun old => rivals old x) = none := by
    simpa using h
  rw [insert, hnone]

/-- The store never holds rivals. -/
theorem Apart.insert (h : Apart rivals held) : Apart rivals (insert rivals wins held x) := by
  unfold RivalStore.insert
  split
  · next hnone =>
    refine List.pairwise_append.mpr ⟨h, List.pairwise_singleton .., ?_⟩
    intro old hold y hy
    obtain rfl := List.mem_singleton.mp hy
    simpa using List.find?_eq_none.mp hnone old hold
  · split
    · refine List.pairwise_append.mpr ⟨List.Pairwise.filter _ h, List.pairwise_singleton .., ?_⟩
      intro old hold y hy
      obtain rfl := List.mem_singleton.mp hy
      simpa using (List.mem_filter.mp hold).2
    · exact h

theorem hold_apart (arrivals : List α) : Apart rivals (hold rivals wins arrivals) :=
  foldl_rule (insert rivals wins) arrivals (fun _ held => Apart rivals held)
    (fun _ _ _ _ _ hheld => hheld.insert) List.Pairwise.nil

/-- **A store keeps what has no rivals**, and nothing else keeps everything. -/
theorem hold_eq_self_iff : hold rivals wins items = items ↔ Apart rivals items := by
  constructor
  · intro h
    rw [← h]
    exact hold_apart items
  · intro h
    refine foldl_rule (insert rivals wins) items (fun done held => held = done) ?_ rfl
    intro done x rest held hitems heq
    obtain rfl := heq
    refine insert_of_apart fun old hmem => ?_
    rw [hitems] at h
    exact (List.pairwise_append.mp h).2.2 old hmem x (List.mem_cons_self ..)

/-- In whatever order some of the items arrive, they are all kept. -/
theorem hold_of_subperm (hsymm : ∀ a b, rivals a b = rivals b a) (h : Apart rivals items)
    (hsub : arrivals.Subperm items) : hold rivals wins arrivals = arrivals := by
  obtain ⟨l, hperm, hl⟩ := hsub
  have hpart : Apart rivals l := List.Pairwise.sublist hl h
  rw [hold_eq_self_iff]
  exact (hperm.pairwise_iff fun {a b} hab => (hsymm b a).trans hab).mp hpart

/-- The store holds nothing but arrivals. -/
theorem mem_of_mem_hold (h : x ∈ hold rivals wins arrivals) : x ∈ arrivals := by
  have hall := foldl_rule (insert rivals wins) arrivals (fun done held => ∀ y ∈ held, y ∈ done)
    ?turn (s := []) (fun y hy => by cases hy)
  · exact hall x h
  case turn =>
    intro done y rest held _ hheld z hz
    have hz' : z ∈ held ∨ z = y := by
      unfold RivalStore.insert at hz
      split at hz
      · simpa using hz
      · split at hz
        · rcases List.mem_append.mp hz with hz | hz
          · exact Or.inl (List.mem_of_mem_filter hz)
          · exact Or.inr (List.mem_singleton.mp hz)
        · exact Or.inl hz
    rcases hz' with hz | rfl
    · exact List.mem_append_left _ (hheld z hz)
    · simp

end RivalStore
