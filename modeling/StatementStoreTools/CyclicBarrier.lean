import Mathlib.Data.Fintype.Card
import Mathlib.Data.Finset.Card

/-!
# A reusable barrier whose arrivals cannot be taken back

`n` participants share one barrier.  Arriving increments `arrived`; the
arrival that makes it `n` resets it and opens the next generation.  Nothing
ever decrements `arrived`: a participant that gives up waiting leaves its
arrival behind.

The theory is about a usage discipline, not about who gives up: every
participant arrives at the generations in order, at most once at each.
`Accounts` relates the barrier to the number of arrivals of each participant
under this discipline, `Accounts.arrive` keeps it, and `Accounts.all_arrived`
draws the conclusion: when a generation has been released, every participant
has arrived at it, leaked arrivals included.
-/

namespace CyclicBarrier

/-- The shared state of the barrier. -/
structure Barrier where
  arrived : Nat
  generation : Nat
deriving DecidableEq, Repr

/-- A new barrier. -/
def Barrier.fresh : Barrier := ⟨0, 0⟩

/-- One arrival at a barrier of size `n`. -/
def Barrier.arrive (n : Nat) (b : Barrier) : Barrier :=
  if b.arrived + 1 = n then ⟨0, b.generation + 1⟩ else ⟨b.arrived + 1, b.generation⟩

theorem Barrier.generation_le_arrive (n : Nat) (b : Barrier) :
    b.generation ≤ (b.arrive n).generation := by
  unfold Barrier.arrive
  split
  · exact Nat.le_succ _
  · exact Nat.le_refl _

variable {ι : Type*} [Fintype ι]

/-- The participants that have arrived at the open generation. -/
def present (b : Barrier) (arrivals : ι → Nat) : Finset ι :=
  Finset.univ.filter (fun i => arrivals i = b.generation + 1)

/-- Every participant has arrived at all closed generations, some also at the
open one, and the barrier has counted exactly those. -/
structure Accounts (b : Barrier) (arrivals : ι → Nat) : Prop where
  lower : ∀ i, b.generation ≤ arrivals i
  upper : ∀ i, arrivals i ≤ b.generation + 1
  counted : (present b arrivals).card = b.arrived
  not_full : b.arrived < Fintype.card ι

theorem Accounts.fresh [Nonempty ι] :
    Accounts Barrier.fresh (fun _ : ι => 0) where
  lower _ := Nat.le_refl _
  upper _ := Nat.zero_le _
  counted := by simp [present, Barrier.fresh]
  not_full := Fintype.card_pos

variable {b : Barrier} {arrivals : ι → Nat} {i : ι}

private theorem present_update [DecidableEq ι] (hi : arrivals i = b.generation) :
    present b (Function.update arrivals i (arrivals i + 1)) =
      insert i (present b arrivals) := by
  ext j
  by_cases hj : j = i
  · subst hj; simp [present, hi]
  · simp [present, hj]

private theorem not_mem_present (hi : arrivals i = b.generation) :
    i ∉ present b arrivals := by
  simp [present, hi]

/-- **The discipline is kept.**  A participant that has not yet arrived at the
open generation may arrive at it. -/
theorem Accounts.arrive [DecidableEq ι] (h : Accounts b arrivals) (hi : arrivals i = b.generation) :
    Accounts (b.arrive (Fintype.card ι))
      (Function.update arrivals i (arrivals i + 1)) := by
  have hcard : (insert i (present b arrivals)).card = b.arrived + 1 := by
    rw [Finset.card_insert_of_notMem (not_mem_present hi), h.counted]
  by_cases hfull : b.arrived + 1 = Fintype.card ι
  · -- the last arrival: everybody has arrived at the generation it closes
    have hall : ∀ j, Function.update arrivals i (arrivals i + 1) j = b.generation + 1 := by
      intro j
      have hmem : j ∈ present b (Function.update arrivals i (arrivals i + 1)) := by
        rw [present_update hi, Finset.eq_univ_of_card _ (hcard.trans hfull)]
        exact Finset.mem_univ j
      simpa [present] using hmem
    simp only [Barrier.arrive, if_pos hfull]
    refine ⟨fun j => (hall j).ge, fun j => by rw [hall j]; exact Nat.le_succ _, ?_, ?_⟩
    · rw [present, Finset.card_eq_zero, Finset.filter_eq_empty_iff]
      intro j _
      rw [hall j]
      exact Nat.ne_of_lt (Nat.lt_succ_self _)
    · exact Fintype.card_pos_iff.mpr ⟨i⟩
  · simp only [Barrier.arrive, if_neg hfull]
    refine ⟨?_, ?_, ?_, ?_⟩
    · intro j
      by_cases hj : j = i
      · subst hj; simp [hi]
      · simpa [hj] using h.lower j
    · intro j
      by_cases hj : j = i
      · subst hj; simp [hi]
      · simpa [hj] using h.upper j
    · exact (congrArg Finset.card (present_update hi)).trans hcard
    · have := h.not_full
      show b.arrived + 1 < Fintype.card ι
      omega

/-- **No early release.**  A generation that has been released was arrived at
by every participant. -/
theorem Accounts.all_arrived (h : Accounts b arrivals) {g : Nat}
    (hg : g < b.generation) : ∀ j, g < arrivals j :=
  fun j => Nat.lt_of_lt_of_le hg (h.lower j)

end CyclicBarrier
