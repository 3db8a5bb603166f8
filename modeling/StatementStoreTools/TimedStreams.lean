import Mathlib.Data.Nat.Find
import Mathlib.Data.Stream.Init
import StatementStoreTools.Loops

/-!
# Reading a stream of events under a timeout

A stream that is read by `timeout(window, stream.next())` is modelled by what
each of its polls will meet: an item after a gap, the end of the stream after
a gap, or silence for ever.  Time is a natural number of ticks; a gap is
counted from the moment the poll is made.  A timeout polls the future before
it looks at its deadline, so an item that comes with the deadline is delivered,
and one that is already there even through an empty window.

A `Reader` is a loop around such a poll: it keeps an accumulator and decides,
for each of the three things a timed poll can answer, whether it goes on.
`Reader.read_some` and `Reader.read_of_after` describe it without its bound:
the loop ends at poll `n` exactly when the first `n` polls are items that keep
it going and the next one stops it.  `Reader.read_simulates` compares two
readers of one stream.
-/

namespace TimedStreams

open Loops

/-- What the next poll of a stream of `ι` meets. -/
inductive Poll (ι : Type*)
  | item (gap : Nat) (x : ι)
  | closed (gap : Nat)
  | silent

/-- A stream, given by the answers to its successive polls. -/
abbrev Timed (ι : Type*) := Stream' (Poll ι)

/-- The answer of a timed poll: `Err(Elapsed)`, `Ok(None)` or `Ok(Some(x))`. -/
inductive Next (ι : Type*)
  | elapsed
  | closed
  | item (x : ι)
deriving DecidableEq

/-- A gap fits a window when it is not longer: at the deadline the item wins. -/
def Fits (gap window : Nat) : Prop := gap ≤ window

/-- What is already there is told apart without a look at the window. -/
instance : (gap window : Nat) → Decidable (Fits gap window)
  | 0, window => .isTrue (Nat.zero_le window)
  | gap + 1, window => inferInstanceAs (Decidable (gap < window))

variable {ι α ρ : Type*}

/-- What a poll answers when it is given `window` ticks. -/
def Poll.within (window : Nat) : Poll ι → Next ι
  | .item gap x => if Fits gap window then .item x else .elapsed
  | .closed gap => if Fits gap window then .closed else .elapsed
  | .silent => .elapsed

/-- The ticks a poll takes when it is given `window` of them. -/
def Poll.wait (window : Nat) : Poll ι → Nat
  | .item gap _ => if Fits gap window then gap else window
  | .closed gap => if Fits gap window then gap else window
  | .silent => window

/-- The stream after a timed poll: an abandoned poll consumes nothing, and
what it waited for is that much nearer. -/
def restAfter (window : Nat) (s : Timed ι) : Timed ι :=
  match s.head with
  | .item gap x =>
      if Fits gap window then s.tail else Stream'.cons (.item (gap - window) x) s.tail
  | .closed gap =>
      if Fits gap window then s.tail else Stream'.cons (.closed (gap - window)) s.tail
  | .silent => s

/-- The item a poll meets, whenever it comes. -/
def Poll.item? : Poll ι → Option ι
  | .item _ x => some x
  | _ => none

theorem Poll.item?_of_within {window : Nat} {p : Poll ι} {x : ι}
    (h : p.within window = .item x) : p.item? = some x := by
  cases p with
  | item gap y => by_cases hfit : Fits gap window <;> simp_all [Poll.within, Poll.item?]
  | closed gap => by_cases hfit : Fits gap window <;> simp_all [Poll.within]
  | silent => simp [Poll.within] at h

/-- The items among the first `n` polls. -/
def taken (s : Timed ι) (n : Nat) : List ι :=
  (List.range n).filterMap (fun i => (s.get i).item?)

@[simp] theorem taken_zero (s : Timed ι) : taken s 0 = [] := rfl

theorem taken_succ_head {s : Timed ι} {x : ι} (h : s.head.item? = some x) (n : Nat) :
    taken s (n + 1) = x :: taken s.tail n := by
  simp only [taken, List.range_succ_eq_map, List.filterMap_cons, List.filterMap_map]
  rw [show (s.get 0).item? = some x from h]
  rfl

theorem taken_succ (s : Timed ι) (n : Nat) :
    taken s (n + 1) = taken s n ++ ((s.get n).item?).toList := by
  simp only [taken, List.range_succ, List.filterMap_append]
  cases h : (s.get n).item? <;> simp [h]

theorem taken_add (s : Timed ι) (m n : Nat) :
    taken s (m + n) = taken s m ++ taken (s.drop m) n := by
  induction n with
  | zero => simp
  | succ n ih =>
      rw [← Nat.add_assoc, taken_succ, taken_succ, ih, List.append_assoc, Stream'.get_drop]

/-- An item is answered only by consuming it. -/
theorem restAfter_item {window : Nat} {s : Timed ι} {x : ι}
    (h : s.head.within window = .item x) : restAfter window s = s.tail := by
  unfold restAfter
  cases hp : s.head with
  | item gap y =>
      by_cases hfit : Fits gap window <;> simp_all [Poll.within]
  | closed gap =>
      by_cases hfit : Fits gap window <;> simp_all [Poll.within]
  | silent => simp [Poll.within, hp] at h

/-- A loop around a timed poll. -/
structure Reader (ι α ρ : Type*) where
  elapsed : α → ρ
  closed : α → ρ
  item : α → ι → α ⊕ ρ

/-- What a read leaves behind. -/
structure Reading (ι ρ : Type*) where
  result : ρ
  rest : Timed ι
  spent : Nat

/-- One turn of the loop: poll, then go on or end. -/
def Reader.turn (rd : Reader ι α ρ) (window : Nat) :
    α × Timed ι × Nat → (α × Timed ι × Nat) ⊕ Reading ι ρ
  | (acc, s, spent) =>
      let spent' := spent + s.head.wait window
      let rest := restAfter window s
      match s.head.within window with
      | .elapsed => .inr ⟨rd.elapsed acc, rest, spent'⟩
      | .closed => .inr ⟨rd.closed acc, rest, spent'⟩
      | .item x =>
          match rd.item acc x with
          | .inl acc' => .inl (acc', rest, spent')
          | .inr r => .inr ⟨r, rest, spent'⟩

/-- Run the loop from `acc`, for at most `fuel` turns. -/
def Reader.read (rd : Reader ι α ρ) (fuel window : Nat) (acc : α) (s : Timed ι) :
    Option (Reading ι ρ) :=
  run (rd.turn window) fuel (acc, s, 0)

/-- The accumulator after `n` items that keep the loop going; `none` when the
loop ends before. -/
def Reader.after (rd : Reader ι α ρ) (window : Nat) : α → Timed ι → Nat → Option α
  | acc, _, 0 => some acc
  | acc, s, n+1 =>
      match s.head.within window with
      | .item x =>
          match rd.item acc x with
          | .inl acc' => rd.after window acc' s.tail n
          | .inr _ => none
      | _ => none

/-- The result with which a poll ends the loop, if it does. -/
def Reader.ending (rd : Reader ι α ρ) (window : Nat) (acc : α) (p : Poll ι) : Option ρ :=
  match p.within window with
  | .elapsed => some (rd.elapsed acc)
  | .closed => some (rd.closed acc)
  | .item x =>
      match rd.item acc x with
      | .inl _ => none
      | .inr r => some r

section Read

variable {rd : Reader ι α ρ} {window fuel n spent : Nat} {acc acc' : α} {s : Timed ι} {r : ρ}

theorem Reader.turn_ending (h : rd.ending window acc s.head = some r) :
    rd.turn window (acc, s, spent) =
      .inr ⟨r, restAfter window s, spent + s.head.wait window⟩ := by
  cases hw : s.head.within window with
  | elapsed => simp_all [Reader.ending, Reader.turn]
  | closed => simp_all [Reader.ending, Reader.turn]
  | item x => cases hx : rd.item acc x <;> simp_all [Reader.ending, Reader.turn]

theorem Reader.turn_going {x : ι} (hx : s.head.within window = .item x)
    (hacc : rd.item acc x = .inl acc') :
    rd.turn window (acc, s, spent) =
      .inl (acc', s.tail, spent + s.head.wait window) := by
  simp [Reader.turn, hx, hacc, restAfter_item hx]

/-- A poll either ends the loop or is an item that keeps it going. -/
theorem Reader.ending_or_going (rd : Reader ι α ρ) (window : Nat) (acc : α) (p : Poll ι) :
    (∃ r, rd.ending window acc p = some r) ∨
      ∃ x acc', p.within window = .item x ∧ rd.item acc x = .inl acc' := by
  unfold Reader.ending
  cases hp : p.within window with
  | elapsed => exact Or.inl ⟨_, rfl⟩
  | closed => exact Or.inl ⟨_, rfl⟩
  | item x =>
      cases hx : rd.item acc x with
      | inl acc' => exact Or.inr ⟨x, acc', rfl, hx⟩
      | inr r => exact Or.inl ⟨r, by simp [hx]⟩

/-- **What an answer says.**  The loop has gone on over `n` items and the poll
after them has ended it; if that poll was an item, exactly `n + 1` polls have
been consumed. -/
theorem Reader.read_some_aux :
    ∀ {acc : α} {s : Timed ι} {spent : Nat} {out : Reading ι ρ},
      run (rd.turn window) fuel (acc, s, spent) = some out →
      ∃ n acc', rd.after window acc s n = some acc' ∧
        rd.ending window acc' (s.get n) = some out.result ∧
        out.rest = restAfter window (s.drop n) ∧ spent ≤ out.spent := by
  induction fuel with
  | zero => intro acc s spent out h; simp [run] at h
  | succ k ih =>
      intro acc s spent out h
      rcases rd.ending_or_going window acc s.head with ⟨r, hr⟩ | ⟨x, acc1, hx, hacc⟩
      · rw [run_succ_inr (Reader.turn_ending hr)] at h
        obtain rfl := Option.some.inj h
        exact ⟨0, acc, rfl, hr, rfl, Nat.le_add_right _ _⟩
      · rw [run_succ_inl (Reader.turn_going hx hacc)] at h
        obtain ⟨n, acc', hafter, hend, hrest, hspent⟩ := ih h
        refine ⟨n + 1, acc', ?_, hend, hrest, by omega⟩
        simpa [Reader.after, hx, hacc] using hafter

theorem Reader.read_some {out : Reading ι ρ} (h : rd.read fuel window acc s = some out) :
    ∃ n acc', rd.after window acc s n = some acc' ∧
      rd.ending window acc' (s.get n) = some out.result ∧
      out.rest = restAfter window (s.drop n) := by
  obtain ⟨n, acc', hafter, hend, hrest, _⟩ := Reader.read_some_aux h
  exact ⟨n, acc', hafter, hend, hrest⟩

/-- **When the loop answers.**  Items that keep the loop going, followed by a
poll that ends it, make it answer within one turn for each of them. -/
theorem Reader.read_of_after_aux :
    ∀ {n : Nat} {acc : α} {s : Timed ι} {spent : Nat},
      rd.after window acc s n = some acc' →
      rd.ending window acc' (s.get n) = some r →
      ∃ t, run (rd.turn window) (n + 1) (acc, s, spent) =
        some ⟨r, restAfter window (s.drop n), t⟩ := by
  intro n
  induction n with
  | zero =>
      intro acc s spent hafter hend
      have hacc : acc = acc' := by simpa [Reader.after] using hafter
      subst hacc
      exact ⟨_, run_succ_inr (Reader.turn_ending hend)⟩
  | succ n ih =>
      intro acc s spent hafter hend
      simp only [Reader.after] at hafter
      split at hafter
      · rename_i x hx
        split at hafter
        · rename_i acc1 hacc
          obtain ⟨t, ht⟩ := @ih _ _ (spent + s.head.wait window) hafter hend
          exact ⟨t, by rw [run_succ_inl (Reader.turn_going hx hacc)]; exact ht⟩
        · cases hafter
      · cases hafter

theorem Reader.read_of_after (hafter : rd.after window acc s n = some acc')
    (hend : rd.ending window acc' (s.get n) = some r) :
    ∃ t, rd.read (n + 1) window acc s = some ⟨r, restAfter window (s.drop n), t⟩ :=
  Reader.read_of_after_aux hafter hend

/-- Two reads of one stream answer alike, whatever their bounds. -/
theorem Reader.read_unique {fuel' : Nat} {out out' : Reading ι ρ}
    (h : rd.read fuel window acc s = some out)
    (h' : rd.read fuel' window acc s = some out') : out = out' :=
  run_unique h h'

/-- A reader that goes on or stops by looking at the item alone has taken `n`
items exactly when all of them keep it going, and has folded them up. -/
theorem Reader.after_fold (keeps : ι → Prop) (add : α → ι → α)
    (hitem : ∀ acc x acc', rd.item acc x = .inl acc' ↔ keeps x ∧ add acc x = acc') :
    rd.after window acc s n = some acc' ↔
      (∀ i < n, ∃ x, (s.get i).within window = .item x ∧ keeps x) ∧
        acc' = (taken s n).foldl add acc := by
  induction n generalizing acc s with
  | zero => simp [Reader.after, eq_comm]
  | succ n ih =>
      constructor
      · intro h
        simp only [Reader.after] at h
        split at h
        · rename_i x hx
          split at h
          · rename_i acc1 hacc
            obtain ⟨hkeep, rfl⟩ := (hitem acc x acc1).mp hacc
            obtain ⟨hall, hfold⟩ := ih.mp h
            refine ⟨?_, ?_⟩
            · intro i hi
              cases i with
              | zero => exact ⟨x, hx, hkeep⟩
              | succ i => exact hall i (by omega)
            · rw [taken_succ_head (Poll.item?_of_within hx), List.foldl_cons, hfold]
          · cases h
        · cases h
      · intro hgiven
        obtain ⟨hall, hfold⟩ := hgiven
        obtain ⟨x, hx, hkeep⟩ := hall 0 (by omega)
        rw [taken_succ_head (Poll.item?_of_within hx), List.foldl_cons] at hfold
        have htail : rd.after window (add acc x) s.tail n = some acc' :=
          ih.mpr ⟨fun i hi => hall (i + 1) (by omega), hfold⟩
        simpa [Reader.after, hx, (hitem acc x _).mpr ⟨hkeep, rfl⟩] using htail

/-- A reader answers as soon as a poll is not an item that keeps it going. -/
theorem Reader.read_returns (keeps : ι → Prop) (add : α → ι → α)
    (hitem : ∀ acc x acc', rd.item acc x = .inl acc' ↔ keeps x ∧ add acc x = acc')
    (h : ∃ n, ¬ ∃ x, (s.get n).within window = .item x ∧ keeps x) (acc : α) :
    ∃ fuel out, rd.read fuel window acc s = some out := by
  classical
  have hbefore : ∀ i < Nat.find h, ∃ x, (s.get i).within window = .item x ∧ keeps x :=
    fun i hi => not_not.mp (Nat.find_min h hi)
  have hafter : rd.after window acc s (Nat.find h) =
      some ((taken s (Nat.find h)).foldl add acc) :=
    (Reader.after_fold keeps add hitem).mpr ⟨hbefore, rfl⟩
  rcases rd.ending_or_going window ((taken s (Nat.find h)).foldl add acc) (s.get (Nat.find h)) with
    ⟨r, hend⟩ | ⟨x, acc', hx, hgo⟩
  · obtain ⟨t, ht⟩ := Reader.read_of_after hafter hend
    exact ⟨_, _, ht⟩
  · exact absurd ⟨x, hx, ((hitem _ _ _).mp hgo).1⟩ (Nat.find_spec h)

/-- **Two readers of one stream.**  When related accumulators stay related over
every item that keeps a reader going, and give related results where one ends,
both readers answer within the same bound, and leave the same behind. -/
theorem Reader.read_simulates {β δ : Type*} {other : Reader ι β δ} (rel : α → β → Prop)
    (out : ρ → δ → Prop) (helapsed : ∀ a b, rel a b → out (rd.elapsed a) (other.elapsed b))
    (hclosed : ∀ a b, rel a b → out (rd.closed a) (other.closed b))
    (hitem : ∀ a b x, rel a b → Sum.LiftRel rel out (rd.item a x) (other.item b x))
    {b : β} (hacc : rel acc b) :
    Option.Rel (fun o o' => out o.result o'.result ∧ o.rest = o'.rest ∧ o.spent = o'.spent)
      (rd.read fuel window acc s) (other.read fuel window b s) := by
  apply run_simulates (fun st st' => rel st.1 st'.1 ∧ st.2 = st'.2)
  · intro st st' hst
    obtain ⟨a, s, spent⟩ := st
    obtain ⟨a', s', spent'⟩ := st'
    obtain ⟨hrel, heq⟩ := hst
    obtain ⟨rfl, rfl⟩ := Prod.mk.inj heq
    simp only [Reader.turn]
    cases s.head.within window with
    | elapsed => exact Sum.LiftRel.inr ⟨helapsed a a' hrel, rfl, rfl⟩
    | closed => exact Sum.LiftRel.inr ⟨hclosed a a' hrel, rfl, rfl⟩
    | item x =>
        have hx := hitem a a' x hrel
        cases hleft : rd.item a x with
        | inl a₁ =>
            cases hright : other.item a' x with
            | inl b₁ =>
                rw [hleft, hright] at hx
                simp only [hleft, hright]
                exact Sum.LiftRel.inl ⟨Sum.liftRel_inl_inl.mp hx, rfl⟩
            | inr d =>
                rw [hleft, hright] at hx
                cases hx
        | inr r =>
            cases hright : other.item a' x with
            | inl b₁ =>
                rw [hleft, hright] at hx
                cases hx
            | inr d =>
                rw [hleft, hright] at hx
                simp only [hleft, hright]
                exact Sum.LiftRel.inr ⟨Sum.liftRel_inr_inr.mp hx, rfl, rfl⟩
  · exact ⟨hacc, rfl⟩

end Read

end TimedStreams
