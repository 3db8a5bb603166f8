import Mathlib.Data.List.Basic

/-!
# Stores under a history of commands

A command takes a store to a store, and it is known what it may write: under
each key the store holds what it held before, or a value that the command writes
there.  From this one step, whole histories are followed.

* `Writer.after_untouched` — a key that no command writes stays as it is;
* `Writer.after_cases` — whatever is found in the end was there at the start or
  was written by a command of the history;
* `Writer.after_holds` — so what holds at the start and of all that is written
  holds in the end.
-/

namespace WriteHistories

variable {κ ν ω : Type*}

/-- Commands over a store, with what each of them may write. -/
structure Writer (κ ν ω : Type*) where
  apply : ω → (κ → ν) → κ → ν
  writes : ω → κ → ν → Prop
  frame : ∀ (command : ω) (store : κ → ν) (key : κ),
    apply command store key = store key ∨ writes command key (apply command store key)

namespace Writer

variable (W : Writer κ ν ω) {commands before rest : List ω} {command : ω} {store : κ → ν} {key : κ}

/-- The store after a history, oldest command first. -/
def after (store : κ → ν) (commands : List ω) : κ → ν :=
  commands.foldl (fun store command => W.apply command store) store

@[simp] theorem after_cons :
    W.after store (command :: rest) = W.after (W.apply command store) rest := rfl

theorem after_append (store : κ → ν) (before rest : List ω) :
    W.after store (before ++ rest) = W.after (W.after store before) rest :=
  List.foldl_append ..

/-- **What nobody writes stays.** -/
theorem after_untouched (h : ∀ command ∈ commands, ∀ value, ¬ W.writes command key value) :
    W.after store commands key = store key := by
  induction commands generalizing store with
  | nil => rfl
  | cons command rest ih =>
      rw [after_cons, ih (fun other hother => h other (List.mem_cons_of_mem _ hother))]
      rcases W.frame command store key with hsame | hwrites
      · exact hsame
      · exact absurd hwrites (h command List.mem_cons_self _)

/-- **Whatever is found was there, or has been written.** -/
theorem after_cases (store : κ → ν) (commands : List ω) (key : κ) :
    W.after store commands key = store key ∨
      ∃ command ∈ commands, W.writes command key (W.after store commands key) := by
  induction commands generalizing store with
  | nil => exact Or.inl rfl
  | cons command rest ih =>
      rw [after_cons]
      rcases ih (W.apply command store) with hsame | hlater
      · rw [hsame]
        rcases W.frame command store key with hkept | hwrites
        · exact Or.inl hkept
        · exact Or.inr ⟨command, List.mem_cons_self, hwrites⟩
      · obtain ⟨later, hmem, hwrites⟩ := hlater
        exact Or.inr ⟨later, List.mem_cons_of_mem _ hmem, hwrites⟩

/-- What holds at the start, and of every value that is written, holds in the end. -/
theorem after_holds {P : ν → Prop} (hstart : P (store key))
    (hwrites : ∀ command ∈ commands, ∀ value, W.writes command key value → P value) :
    P (W.after store commands key) := by
  rcases W.after_cases store commands key with hsame | hwritten
  · rw [hsame]
    exact hstart
  · obtain ⟨command, hmem, hvalue⟩ := hwritten
    exact hwrites command hmem _ hvalue

end Writer

end WriteHistories
