import Mathlib.Algebra.Ring.Nat
import Mathlib.Data.List.Basic
import Mathlib.Tactic.Common

/-!
# A `for` that makes one attempt after the other

The body of such a loop makes an attempt, in the state that the one before has
left, and pushes or counts its result.  `Chain link xs s ys u` is what remains
of the loop without its bookkeeping: `xs` are attempted one after the other,
from `s` to `u`, with the results `ys`, and `link` holds of every attempt.

* `foldlM_eq_some`, `foldlM_push_eq_some`, `foldl_eq` — the loop is the chain,
  with its results recorded or pushed in order;
* `Chain.map_eq`, `Chain.sum_eq` — what every link says, for the whole chain;
* `Chain.determined` — links that answer alike in states that are alike;
* `chain_returns` — attempts that may need a bound: one bound for all of them.
-/

namespace AttemptChains

variable {ι σ α τ γ : Type*}

/-- `xs` are attempted one after the other, with the results `ys`. -/
inductive Chain (link : ι → σ → α → σ → Prop) : List ι → σ → List α → σ → Prop
  | nil (s : σ) : Chain link [] s [] s
  | cons {x : ι} {s t u : σ} {y : α} {xs : List ι} {ys : List α}
      (head : link x s y t) (tail : Chain link xs t ys u) : Chain link (x :: xs) s (y :: ys) u

variable {link : ι → σ → α → σ → Prop} {xs : List ι} {ys ys' : List α} {s s' u u' : σ}

/-! ## The loop -/

/-- **A loop that records its results** is the chain of its attempts. -/
theorem foldlM_eq_some (attempt : ι → σ → Option (α × σ)) (record : τ → α → τ) {t t' : τ} :
    xs.foldlM (fun state x => (attempt x state.2).map fun out => (record state.1 out.1, out.2))
        (t, s) = some (t', u) ↔
      ∃ ys, Chain (fun x s y t => attempt x s = some (y, t)) xs s ys u ∧
        t' = ys.foldl record t := by
  induction xs generalizing s t with
  | nil =>
      constructor
      · intro h
        obtain ⟨rfl, rfl⟩ := Prod.mk.inj (Option.some.inj h)
        exact ⟨[], .nil s, rfl⟩
      · intro hgiven
        obtain ⟨ys, hchain, rfl⟩ := hgiven
        cases hchain
        rfl
  | cons x xs ih =>
      rw [List.foldlM_cons]
      constructor
      · intro h
        obtain ⟨⟨t₁, s₁⟩, hfirst, hrest⟩ := Option.bind_eq_some_iff.mp h
        obtain ⟨⟨y, v⟩, hattempt, heq⟩ := Option.map_eq_some_iff.mp hfirst
        obtain ⟨rfl, rfl⟩ := Prod.mk.inj heq
        obtain ⟨ys, hchain, hfold⟩ := ih.mp hrest
        exact ⟨y :: ys, .cons hattempt hchain, hfold⟩
      · intro hgiven
        obtain ⟨ys, hchain, rfl⟩ := hgiven
        cases hchain with
        | cons hattempt htail =>
            simp only [hattempt, Option.map_some]
            exact ih.mpr ⟨_, htail, rfl⟩

/-- The same for attempts that always end. -/
theorem foldl_eq (attempt : ι → σ → α × σ) (record : τ → α → τ) (xs : List ι) (t : τ) (s : σ) :
    ∃ ys u, Chain (fun x s y t => attempt x s = (y, t)) xs s ys u ∧
      xs.foldl (fun state x => (record state.1 (attempt x state.2).1, (attempt x state.2).2))
        (t, s) = (ys.foldl record t, u) := by
  induction xs generalizing s t with
  | nil => exact ⟨[], s, .nil s, rfl⟩
  | cons x xs ih =>
      obtain ⟨ys, u, hchain, hfold⟩ := ih (record t (attempt x s).1) (attempt x s).2
      exact ⟨(attempt x s).1 :: ys, u, .cons rfl hchain, hfold⟩

theorem foldl_push (ys : List α) (zs : List α) :
    ys.foldl (fun done y => done ++ [y]) zs = zs ++ ys := by
  induction ys generalizing zs with
  | nil => simp
  | cons y ys ih => simp [ih]

/-! ## The chain -/

theorem Chain.imp {link' : ι → σ → α → σ → Prop} (h : Chain link xs s ys u)
    (hlink : ∀ x s y t, link x s y t → link' x s y t) : Chain link' xs s ys u := by
  induction h with
  | nil s => exact .nil s
  | cons head _ ih => exact .cons (hlink _ _ _ _ head) ih

/-- **A loop that pushes its results**, and does something with each of them
first. -/
theorem foldlM_push_eq_some (attempt : ι → σ → Option (α × σ)) (post : α → σ → σ) :
    xs.foldlM (fun state x => (attempt x state.2).map fun out =>
        (state.1 ++ [out.1], post out.1 out.2)) ([], s) = some (ys, u) ↔
      Chain (fun x s y t => ∃ t', attempt x s = some (y, t') ∧ t = post y t') xs s ys u := by
  have hlink : ∀ x s y t, (attempt x s).map (fun out => (out.1, post out.1 out.2)) = some (y, t) ↔
      ∃ t', attempt x s = some (y, t') ∧ t = post y t' := by
    intro x s y t
    rw [Option.map_eq_some_iff]
    constructor
    · intro hgiven
      obtain ⟨⟨y', t'⟩, hattempt, heq⟩ := hgiven
      obtain ⟨rfl, rfl⟩ := Prod.mk.inj heq
      exact ⟨t', hattempt, rfl⟩
    · intro hgiven
      obtain ⟨t', hattempt, rfl⟩ := hgiven
      exact ⟨_, hattempt, rfl⟩
  have hbody : (fun (state : List α × σ) x => (attempt x state.2).map fun out =>
        (state.1 ++ [out.1], post out.1 out.2)) =
      fun state x => ((attempt x state.2).map fun out => (out.1, post out.1 out.2)).map fun out =>
        (state.1 ++ [out.1], out.2) := by
    funext state x
    rw [Option.map_map]
    rfl
  rw [hbody, foldlM_eq_some (fun x s => (attempt x s).map fun out => (out.1, post out.1 out.2))
    (fun done y => done ++ [y])]
  constructor
  · intro hgiven
    obtain ⟨zs, hchain, rfl⟩ := hgiven
    rw [foldl_push, List.nil_append]
    exact hchain.imp fun x s y t => (hlink x s y t).mp
  · intro hchain
    refine ⟨ys, hchain.imp fun x s y t => (hlink x s y t).mpr, ?_⟩
    rw [foldl_push, List.nil_append]

theorem Chain.length (h : Chain link xs s ys u) : ys.length = xs.length := by
  induction h with
  | nil s => rfl
  | cons _ _ ih => simp [ih]

/-- What a result has in common with its attempt. -/
theorem Chain.map_eq (f : α → γ) (g : ι → γ) (h : Chain link xs s ys u)
    (hlink : ∀ x s y t, link x s y t → f y = g x) : ys.map f = xs.map g := by
  induction h with
  | nil s => rfl
  | cons head _ ih => simp [ih, hlink _ _ _ _ head]

/-- What holds of every result. -/
theorem Chain.forall_mem {P : α → Prop} (h : Chain link xs s ys u)
    (hlink : ∀ x s y t, link x s y t → P y) : ∀ y ∈ ys, P y := by
  induction h with
  | nil s => simp
  | cons head _ ih =>
      exact List.forall_mem_cons.mpr ⟨hlink _ _ _ _ head, ih⟩

/-- What every attempt adds to a measure of the state. -/
theorem Chain.sum_eq (size : σ → Nat) (cost : α → Nat) (h : Chain link xs s ys u)
    (hlink : ∀ x s y t, link x s y t → size t = size s + cost y) :
    size u = size s + (ys.map cost).sum := by
  induction h with
  | nil s => rfl
  | cons head _ ih =>
      rw [ih, hlink _ _ _ _ head, List.map_cons, List.sum_cons, Nat.add_assoc]

/-- **Alike states, same results.** -/
theorem Chain.determined {link' : ι → σ → α → σ → Prop} (alike : σ → σ → Prop)
    (h : Chain link xs s ys u) (h' : Chain link' xs s' ys' u') (hstart : alike s s')
    (hlink : ∀ x s y t s' y' t', alike s s' → link x s y t → link' x s' y' t' →
      y = y' ∧ alike t t') :
    ys = ys' ∧ alike u u' := by
  induction h generalizing s' ys' with
  | nil s =>
      cases h'
      exact ⟨rfl, hstart⟩
  | cons head _ ih =>
      cases h' with
      | cons head' tail' =>
          obtain ⟨rfl, hnext⟩ := hlink _ _ _ _ _ _ _ hstart head head'
          obtain ⟨rfl, hend⟩ := ih tail' hnext
          exact ⟨rfl, hend⟩

/-- **One bound for all attempts.**  Each of them ends from where the ones
before have led, within some bound, and still does when the bound is raised. -/
theorem chain_returns (bounded : Nat → ι → σ → α → σ → Prop) (xs : List ι) (inv : σ → Prop)
    (mono : ∀ fuel fuel' x s y t, fuel ≤ fuel' → bounded fuel x s y t → bounded fuel' x s y t)
    (returns : ∀ x ∈ xs, ∀ s, inv s → ∃ fuel y t, bounded fuel x s y t ∧ inv t)
    (hs : inv s) : ∃ fuel ys u, Chain (bounded fuel) xs s ys u ∧ inv u := by
  induction xs generalizing s with
  | nil => exact ⟨0, [], s, .nil s, hs⟩
  | cons x xs ih =>
      obtain ⟨fuel, y, t, hfirst, ht⟩ := returns x (List.mem_cons_self ..) s hs
      obtain ⟨fuel', ys, u, hrest, hu⟩ :=
        ih (fun z hz => returns z (List.mem_cons_of_mem _ hz)) ht
      have hfirst' : bounded (max fuel fuel') x s y t :=
        mono _ _ _ _ _ _ (Nat.le_max_left ..) hfirst
      have hrest' : Chain (bounded (max fuel fuel')) xs t ys u :=
        hrest.imp fun x s y t h => mono _ _ _ _ _ _ (Nat.le_max_right ..) h
      exact ⟨max fuel fuel', y :: ys, u, .cons hfirst' hrest', hu⟩

end AttemptChains
