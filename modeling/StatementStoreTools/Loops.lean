import Mathlib.Logic.Relation
import Mathlib.Data.Nat.Init
import Mathlib.Data.List.Forall2

/-!
# Loops with an early return

A `loop { … }` that ends through a `return` or a `break` is given by its body:
one turn either goes round again with a new state (`inl`) or ends with a
result (`inr`).  Such a loop need not end, so `Loops.run` takes a bound on the
number of turns and answers `none` when the bound is used up.

The rules used by the developments over this file:

* `run_mono` — a larger bound never changes an answer;
* `run_rule` — the invariant rule, from one turn to the result;
* `reaches_rule` — the same for every state the loop passes through, whether
  it ends or not;
* `returns_of_rank` — a loop whose turns lower a rank ends;
* `run_simulates` — two loops whose turns match answer alike;
* `foldlM_rule` — the invariant rule of a bounded `for`, whose body may itself
  contain a loop that does not end; `foldl_rule` is the one for a plain body;
* `paired_snoc` — its use where the body pushes one result for each item;
* `not_mem_visited` — its use where no two items are alike;
* `mapM_ok`, `mapM_error` — a `collect` that stops at the first error.
-/

namespace Loops

variable {σ τ ρ δ : Type*}

/-- Run at most `fuel` turns of `body`; `none` says that the loop has not
ended within them. -/
def run (body : σ → σ ⊕ ρ) : Nat → σ → Option ρ
  | 0, _ => none
  | fuel+1, s =>
      match body s with
      | .inl s' => run body fuel s'
      | .inr r => some r

/-- The loop started in `s` ends with `r`. -/
def Returns (body : σ → σ ⊕ ρ) (s : σ) (r : ρ) : Prop :=
  ∃ fuel, run body fuel s = some r

/-- The state `t` is met at the head of the loop started in `s`. -/
def Reaches (body : σ → σ ⊕ ρ) : σ → σ → Prop :=
  Relation.ReflTransGen (fun s t => body s = .inl t)

variable {body : σ → σ ⊕ ρ} {fuel fuel' : Nat} {s t : σ} {r r' : ρ}

theorem run_succ_inl (h : body s = .inl t) :
    run body (fuel + 1) s = run body fuel t := by
  simp [run, h]

theorem run_succ_inr (h : body s = .inr r) :
    run body (fuel + 1) s = some r := by
  simp [run, h]

/-- A larger bound never changes an answer. -/
theorem run_mono (hle : fuel ≤ fuel') (h : run body fuel s = some r) :
    run body fuel' s = some r := by
  induction fuel generalizing fuel' s with
  | zero => simp [run] at h
  | succ n ih =>
      obtain ⟨m, rfl⟩ : ∃ m, fuel' = m + 1 := ⟨fuel' - 1, by omega⟩
      cases hb : body s with
      | inl t =>
          rw [run_succ_inl hb] at h ⊢
          exact ih (by omega) h
      | inr r' =>
          rw [run_succ_inr hb] at h ⊢
          exact h

/-- Whatever the bounds, a loop has one answer only. -/
theorem run_unique (h : run body fuel s = some r)
    (h' : run body fuel' s = some r') : r = r' := by
  rcases Nat.le_total fuel fuel' with hle | hle
  · exact Option.some.inj ((run_mono hle h).symm.trans h')
  · exact Option.some.inj (h.symm.trans (run_mono hle h'))

/-- **The invariant rule.**  What one turn keeps, and what its ending makes of
it, holds of the answer. -/
theorem run_rule (inv : σ → Prop) (post : ρ → Prop)
    (turn : ∀ s s', inv s → body s = .inl s' → inv s')
    (exit : ∀ s r, inv s → body s = .inr r → post r)
    (hs : inv s) (h : run body fuel s = some r) : post r := by
  induction fuel generalizing s with
  | zero => simp [run] at h
  | succ n ih =>
      cases hb : body s with
      | inl t =>
          rw [run_succ_inl hb] at h
          exact ih (turn s t hs hb) h
      | inr r' =>
          rw [run_succ_inr hb] at h
          exact Option.some.inj h ▸ exit s r' hs hb

/-- The invariant rule for the states a loop passes through. -/
theorem reaches_rule (inv : σ → Prop)
    (turn : ∀ s s', inv s → body s = .inl s' → inv s')
    (hs : inv s) (h : Reaches body s t) : inv t := by
  induction h with
  | refl => exact hs
  | tail _ hstep ih => exact turn _ _ ih hstep

/-- A loop that reaches a state in which it ends answers. -/
theorem returns_of_reaches (h : Reaches body s t) (hexit : body t = .inr r) :
    Returns body s r := by
  induction h using Relation.ReflTransGen.head_induction_on with
  | refl => exact ⟨1, run_succ_inr hexit⟩
  | head hstep _ ih =>
      obtain ⟨fuel, hrun⟩ := ih
      exact ⟨fuel + 1, (run_succ_inl hstep).trans hrun⟩

/-- A loop ends when every turn that goes round again lowers a rank. -/
theorem returns_of_rank (inv : σ → Prop) (rank : σ → Nat)
    (turn : ∀ s s', inv s → body s = .inl s' → inv s' ∧ rank s' < rank s) (hs : inv s) :
    ∃ r, Returns body s r := by
  induction hrank : rank s using Nat.strong_induction_on generalizing s with
  | _ n ih =>
      cases hb : body s with
      | inr r => exact ⟨r, 1, run_succ_inr hb⟩
      | inl t =>
          obtain ⟨ht, hlt⟩ := turn s t hs hb
          obtain ⟨r, fuel, hrun⟩ := ih (rank t) (hrank ▸ hlt) ht rfl
          exact ⟨r, fuel + 1, (run_succ_inl hb).trans hrun⟩

/-- **Simulation.**  If the turns of two loops match through `rel` and their
endings through `out`, then within one bound both answer alike. -/
theorem run_simulates {other : τ → τ ⊕ δ} (rel : σ → τ → Prop) (out : ρ → δ → Prop)
    (turn : ∀ s t, rel s t → Sum.LiftRel rel out (body s) (other t))
    {t : τ} (hst : rel s t) :
    Option.Rel out (run body fuel s) (run other fuel t) := by
  induction fuel generalizing s t with
  | zero => exact Option.Rel.none
  | succ n ih =>
      have hturn := turn s t hst
      simp only [run]
      cases hb : body s with
      | inl s' =>
          cases ho : other t with
          | inl t' =>
              rw [hb, ho] at hturn
              exact ih (Sum.liftRel_inl_inl.mp hturn)
          | inr d => rw [hb, ho] at hturn; cases hturn
      | inr r' =>
          cases ho : other t with
          | inl t' => rw [hb, ho] at hturn; cases hturn
          | inr d =>
              rw [hb, ho] at hturn
              exact Option.Rel.some (Sum.liftRel_inr_inr.mp hturn)

/-- **The rule of a bounded `for`.**  An invariant indexed by what has been
visited holds of the result. -/
theorem foldlM_rule {ι : Type*} {f : σ → ι → Option σ} {xs : List ι}
    (inv : List ι → σ → Prop)
    (turn : ∀ done x rest s s', xs = done ++ x :: rest → inv done s →
      f s x = some s' → inv (done ++ [x]) s')
    {s s' : σ} (hs : inv [] s) (h : xs.foldlM f s = some s') : inv xs s' := by
  have aux : ∀ rest done s, xs = done ++ rest → inv done s →
      rest.foldlM f s = some s' → inv xs s' := by
    intro rest
    induction rest with
    | nil =>
        intro done s hxs hinv hrun
        have hsame : s = s' := by simpa using hrun
        rw [hxs, List.append_nil, ← hsame]
        exact hinv
    | cons x rest ih =>
        intro done s hxs hinv hrun
        rw [List.foldlM_cons] at hrun
        obtain ⟨t, ht, hrest⟩ := Option.bind_eq_some_iff.mp hrun
        exact ih (done ++ [x]) t (by simp [hxs]) (turn done x rest s t hxs hinv ht) hrest
  exact aux xs [] s rfl hs h

/-- A `for` over items that differ in `f` meets each of them for the first time. -/
theorem not_mem_visited {α β : Type*} {f : α → β} {xs done rest : List α} {x : α}
    (hnodup : (xs.map f).Nodup) (hsplit : xs = done ++ x :: rest) : f x ∉ done.map f := by
  rw [hsplit, List.map_append, List.map_cons] at hnodup
  intro hmem
  exact (List.nodup_append.mp hnodup).2.2 _ hmem _ List.mem_cons_self rfl

theorem foldl_rule {ι : Type*} (f : σ → ι → σ) (xs : List ι) (inv : List ι → σ → Prop)
    (turn : ∀ done x rest s, xs = done ++ x :: rest → inv done s → inv (done ++ [x]) (f s x))
    {s : σ} (hs : inv [] s) : inv xs (xs.foldl f s) := by
  have aux : ∀ rest done s, xs = done ++ rest → inv done s → inv xs (rest.foldl f s) := by
    intro rest
    induction rest with
    | nil =>
        intro done s hxs hinv
        rw [hxs, List.append_nil]
        exact hinv
    | cons x rest ih =>
        intro done s hxs hinv
        exact ih (done ++ [x]) (f s x) (by simp [hxs]) (turn done x rest s hxs hinv)
  exact aux xs [] s rfl hs

/-- A loop that pushes one result for each item it visits: what holds of every
item and its result still holds after one more of both. -/
theorem paired_snoc {α β : Type*} {xs : List α} {ys : List β} {x : α} {y : β} {P : α → β → Prop}
    (hlen : ys.length = xs.length)
    (h : ∀ (i : Nat) a b, xs[i]? = some a → ys[i]? = some b → P a b) (hlast : P x y) (i : Nat)
    (a : α) (b : β) (ha : (xs ++ [x])[i]? = some a) (hb : (ys ++ [y])[i]? = some b) : P a b := by
  rcases Nat.lt_or_ge i xs.length with hi | hi
  · rw [List.getElem?_append_left hi] at ha
    rw [List.getElem?_append_left (hlen ▸ hi)] at hb
    exact h i a b ha hb
  · have hi' : i = xs.length := by
      have hlt := (List.getElem?_eq_some_iff.mp ha).1
      simp only [List.length_append, List.length_singleton] at hlt
      omega
    subst hi'
    rw [List.getElem?_concat_length] at ha
    rw [← hlen, List.getElem?_concat_length] at hb
    cases ha
    cases hb
    exact hlast

section Collect

variable {α β ε : Type*} {f : α → Except ε β} {xs : List α} {ys : List β}

/-- Collecting succeeds when every item does, with the results in order. -/
theorem mapM_ok : xs.mapM f = .ok ys ↔ List.Forall₂ (fun x y => f x = .ok y) xs ys := by
  induction xs generalizing ys with
  | nil => cases ys <;> simp [pure, Except.pure]
  | cons x xs ih =>
      rw [List.mapM_cons]
      cases hx : f x with
      | error e => cases ys <;> simp [bind, Except.bind, hx]
      | ok y =>
          cases hxs : xs.mapM f with
          | error e => cases ys <;> simp [bind, Except.bind, hx, ← ih, hxs]
          | ok rest => cases ys <;> simp [bind, Except.bind, pure, Except.pure, hx, ← ih, hxs]

/-- It fails when one item does. -/
theorem mapM_error : (∃ e, xs.mapM f = .error e) ↔ ∃ x ∈ xs, ∃ e, f x = .error e := by
  induction xs with
  | nil => simp [pure, Except.pure]
  | cons x xs ih =>
      rw [List.mapM_cons]
      cases hx : f x with
      | error e => simp [bind, Except.bind, hx]
      | ok y =>
          cases hxs : xs.mapM f with
          | error e => simpa [bind, Except.bind, hx, hxs] using ih
          | ok rest => simpa [bind, Except.bind, pure, Except.pure, hx, hxs] using ih

end Collect

end Loops
