import StatementStoreTools.PeriodicLoop

/-!
# What one turn of the loop can do

`loopTurn_cases`: a turn stops at once, or it starts one iteration, which
waits forever, is interrupted by `cancel`, or is closed: counted, checked and
slept after.  `Ran` collects what holds of a started iteration in every case.
`loopTurn_rule` is the same as a rule for an invariant of the loop head.
-/

namespace StatementStore

variable {connector : Future Endpoints} {work : UInt64 → String → Endpoints → Future CycleReport}
  {config : LoopConfig} {cancel : Option Instant} {begun : Instant} {s s' : LoopState}

/-! ## Attempts -/

section Attempts

variable {α : Type}

def Attempt.isPending : Attempt α → Bool
  | .pending => true
  | _ => false

def Attempt.isCancelled : Attempt α → Bool
  | .cancelled _ => true
  | _ => false

/-- The result of an attempt that has succeeded. -/
def Attempt.value? : Attempt α → Option α
  | .finished _ (.ok a) => some a
  | _ => none

/-- The three ways out of a `select!`: nothing ever happens, `cancel` fires, or
the future is ready before. -/
inductive Selected (cancel : Option Instant) (future : Future α) (w : World) :
    Attempt α → World → Prop
  | pending : Selected cancel future w .pending w
  | cancelled {at_ c : Instant} {w' : World} (hcancel : cancel = some c)
      (hfired : c ≤ w'.now) (hnow : w.now ≤ w'.now) :
      Selected cancel future w (.cancelled at_) w'
  | finished {out : Except String α} {w' : World} (hrun : future.run w = some (out, w'))
      (hlate : ∀ c, cancel = some c → w'.now < c) :
      Selected cancel future w (.finished w'.now out) w'

theorem Selected.now_le {future : Future α} {w w' : World} {a : Attempt α}
    (h : Selected cancel future w a w') : w.now ≤ w'.now := by
  cases h with
  | pending => exact Nat.le_refl _
  | cancelled hcancel hfired hnow => exact hnow
  | finished hrun hlate => exact future.now_le hrun

theorem select_cases {future : Future α} {w w' : World} {a : Attempt α}
    (h : select cancel future w = (a, w')) : Selected cancel future w a w' := by
  unfold select at h
  cases hrun : future.run w with
  | none =>
      cases cancel with
      | none =>
          rw [hrun] at h
          obtain ⟨rfl, rfl⟩ := Prod.mk.inj h
          exact .pending
      | some c =>
          rw [hrun] at h
          obtain ⟨rfl, rfl⟩ := Prod.mk.inj h
          exact .cancelled rfl (Nat.le_max_right ..) (Nat.le_max_left ..)
  | some ready =>
      obtain ⟨out, v⟩ := ready
      have hnow := future.now_le hrun
      cases cancel with
      | none =>
          rw [hrun] at h
          obtain ⟨rfl, rfl⟩ := Prod.mk.inj h
          exact .finished hrun fun c hc => by cases hc
      | some c =>
          rw [hrun] at h
          by_cases hc : c ≤ v.now
          · simp only [if_pos hc] at h
            obtain ⟨rfl, rfl⟩ := Prod.mk.inj h
            exact .cancelled rfl (Nat.le_max_right ..) (Nat.le_max_left ..)
          · simp only [if_neg hc] at h
            obtain ⟨rfl, rfl⟩ := Prod.mk.inj h
            refine .finished hrun ?_
            intro c' hc'
            obtain rfl := Option.some.inj hc'
            exact Nat.lt_of_not_le hc

/-- A future that is ready before `cancel` wins. -/
theorem select_finished {future : Future α} {w w' : World} {out : Except String α}
    (hrun : future.run w = some (out, w')) (hlate : ∀ c, cancel = some c → w'.now < c) :
    select cancel future w = (.finished w'.now out, w') := by
  unfold select
  rw [hrun]
  cases cancel with
  | none => rfl
  | some c => exact if_neg (Nat.not_le.mpr (hlate c rfl))

end Attempts

def Iteration.pending (it : Iteration) : Bool :=
  it.reconnect.any (·.2.isPending) || it.body.any (·.2.isPending)

/-- `cancel` interrupted the reconnect or the body. -/
def Iteration.interrupted (it : Iteration) : Bool :=
  it.reconnect.any (·.2.isCancelled) || it.body.any (·.2.isCancelled)

/-- The reports of an iteration whose body has succeeded. -/
def Iteration.reports (it : Iteration) : Option CycleReport :=
  it.body.bind (·.2.value?)

/-- `last_submit`, `last_propagation` and `last_subscribe`. -/
abbrev LastReports := Option (List SubmitEndpointReport) ×
  Option (List PropagationPairReport) × Option (List SubscribeEndpointReport)

def LoopState.last (s : LoopState) : LastReports :=
  (s.lastSubmit, s.lastPropagation, s.lastSubscribe)

def LoopReport.last (r : LoopReport) : LastReports :=
  (r.lastSubmit, r.lastPropagation, r.lastSubscribe)

/-- All three from the same cycle. -/
def CycleReport.last (r : CycleReport) : LastReports :=
  (some r.submit, some r.propagation, some r.subscribe)

/-- What holds of the iteration `it` started in `s`; `s'` is the state when it
is recorded. -/
structure Ran (connector : Future Endpoints)
    (work : UInt64 → String → Endpoints → Future CycleReport) (config : LoopConfig)
    (cancel : Option Instant) (s : LoopState) (it : Iteration) (s' : LoopState) : Prop where
  start : it.start = s.world.now
  now_le : s.world.now ≤ s'.world.now
  completed : s'.iterationsCompleted = s.iterationsCompleted
  history : s'.history = s.history ++ [it]
  last : s'.last = (it.reports.map CycleReport.last).getD s.last
  kept : config.newConnectionPerIteration = false → s'.endpoints = s.endpoints
  reconnects : it.reconnect.isSome ↔
    config.newConnectionPerIteration = true ∧ 0 < s.iterationsCompleted
  held : ∀ {eps a}, it.reconnect = some (eps, a) → eps = []
  answered : ∀ {held at_ eps}, it.reconnect = some (held, .finished at_ (.ok eps)) →
    ∃ w w', connector.run w = some (.ok eps, w')
  bodyless : it.body = none ↔ ∃ held a, it.reconnect = some (held, a) ∧ a.value? = none
  used : ∀ {eps a}, it.body = some (eps, a) →
    (it.reconnect = none ∧ eps = s.endpoints) ∨
      ∃ held at_, it.reconnect = some (held, .finished at_ (.ok eps))
  ran : ∀ {eps at_ out}, it.body = some (eps, .finished at_ out) →
    ∃ runId tag w w', (work runId tag eps).run w = some (out, w')
  inTime : ∀ {eps at_ out c}, it.body = some (eps, .finished at_ out) → cancel = some c → at_ < c

/-- The reconnect, made or not, has left endpoints to run the body with. -/
structure Reconnected (connector : Future Endpoints) (config : LoopConfig) (s : LoopState)
    (reconnect : Option (Endpoints × Attempt Endpoints)) (s' : LoopState) : Prop where
  now_le : s.world.now ≤ s'.world.now
  completed : s'.iterationsCompleted = s.iterationsCompleted
  history : s'.history = s.history
  last : s'.last = s.last
  reconnects : reconnect.isSome ↔
    config.newConnectionPerIteration = true ∧ 0 < s.iterationsCompleted
  held : ∀ {eps a}, reconnect = some (eps, a) → eps = []
  answered : ∀ {held at_ eps}, reconnect = some (held, .finished at_ (.ok eps)) →
    ∃ w w', connector.run w = some (.ok eps, w')
  used : (reconnect = none ∧ s'.endpoints = s.endpoints) ∨
    ∃ held at_, reconnect = some (held, .finished at_ (.ok s'.endpoints))

/-- How a turn leaves the recorded iteration `it`. -/
inductive Leaves (config : LoopConfig) (cancel : Option Instant) (begun : Instant)
    (it : Iteration) (s : LoopState) : LoopState ⊕ LoopEnd → Prop
  | waits (hwaits : it.pending = true) (hwhole : it.interrupted = false) :
      Leaves config cancel begun it s (.inr (s.waits begun))
  | interrupted {c : Instant} (hcancel : cancel = some c) (hfired : c ≤ s.world.now)
      (hover : it.pending = false) (hinterrupted : it.interrupted = true) :
      Leaves config cancel begun it s (.inr (s.stop begun .cancelled))
  | closed (hover : it.pending = false) (hwhole : it.interrupted = false) :
      Leaves config cancel begun it s (closeIteration config cancel begun it.start s)

/-! ## The body -/

/-- A body that has been awaited, whatever became of it. -/
theorem Reconnected.ran {reconnect : Option (Endpoints × Attempt Endpoints)} {iterRunId : UInt64}
    {tag : String} {a : Attempt CycleReport} {w : World} {s'' : LoopState}
    (h : Reconnected connector config s reconnect s')
    (hselect : select cancel (work iterRunId tag s'.endpoints) s'.world = (a, w))
    (hworld : s''.world.now = w.now) (hcompleted : s''.iterationsCompleted = s'.iterationsCompleted)
    (hhistory : s''.history = s'.history ++
      [⟨s.world.now, reconnect, some (s'.endpoints, a)⟩])
    (hendpoints : s''.endpoints = s'.endpoints)
    (hlast : s''.last = (a.value?.map CycleReport.last).getD s'.last) :
    Ran connector work config cancel s ⟨s.world.now, reconnect, some (s'.endpoints, a)⟩ s'' := by
  have hselected := select_cases hselect
  refine {
    start := rfl
    now_le := hworld ▸ h.now_le.trans hselected.now_le
    completed := hcompleted.trans h.completed
    history := by rw [hhistory, h.history]
    last := by rw [hlast, h.last]; rfl
    kept := ?_
    reconnects := h.reconnects
    held := h.held
    answered := h.answered
    bodyless := ?_
    used := ?_
    ran := ?_
    inTime := ?_ }
  · intro hoff
    rcases h.used with ⟨-, hsame⟩ | ⟨held, at_, hsome⟩
    · exact hendpoints.trans hsame
    · have := h.reconnects.mp (by rw [hsome]; rfl)
      rw [hoff] at this
      exact absurd this.1 (by simp)
  · refine ⟨fun hnone => (by cases hnone), ?_⟩
    intro hgiven
    obtain ⟨held, a', hsome, hvalue⟩ := hgiven
    rcases h.used with ⟨hnone, -⟩ | ⟨held', at_, hsome'⟩
    · cases hsome.symm.trans hnone
    · obtain ⟨-, rfl⟩ := Prod.mk.inj (Option.some.inj (hsome.symm.trans hsome'))
      cases hvalue
  · intro eps a' hbody
    obtain ⟨rfl, -⟩ := Prod.mk.inj (Option.some.inj hbody)
    exact h.used
  · intro eps at_ out hbody
    obtain ⟨rfl, rfl⟩ := Prod.mk.inj (Option.some.inj hbody)
    cases hselected with
    | finished hrun hlate => exact ⟨iterRunId, tag, s'.world, w, hrun⟩
  · intro eps at_ out c hbody hc
    obtain ⟨rfl, rfl⟩ := Prod.mk.inj (Option.some.inj hbody)
    cases hselected with
    | finished hrun hlate => exact hlate c hc

/-- A reconnect that has left endpoints is over: the body decides. -/
theorem Reconnected.over {reconnect : Option (Endpoints × Attempt Endpoints)} {t : Instant}
    {eps : Endpoints} {a : Attempt CycleReport} (h : Reconnected connector config s reconnect s') :
    (Iteration.mk t reconnect (some (eps, a))).pending = a.isPending ∧
      (Iteration.mk t reconnect (some (eps, a))).interrupted = a.isCancelled := by
  rcases h.used with ⟨hnone, -⟩ | ⟨held, at_, hsome⟩
  · rw [hnone]
    exact ⟨rfl, rfl⟩
  · rw [hsome]
    exact ⟨rfl, rfl⟩

theorem bodyTurn_leaves {reconnect : Option (Endpoints × Attempt Endpoints)}
    (h : Reconnected connector config s reconnect s') (iterRunId : UInt64) (tag : String) :
    ∃ it s'', Ran connector work config cancel s it s'' ∧
      Leaves config cancel begun it s''
        (bodyTurn work config cancel begun s.world.now reconnect iterRunId tag s') := by
  rcases hselect : select cancel (work iterRunId tag s'.endpoints) s'.world with ⟨a, w⟩
  refine ⟨⟨s.world.now, reconnect, some (s'.endpoints, a)⟩, ?_⟩
  simp only [bodyTurn, hselect]
  cases select_cases hselect with
  | pending =>
      refine ⟨_, ?_, .waits h.over.1 h.over.2⟩
      exact h.ran hselect rfl rfl rfl rfl rfl
  | cancelled hcancel hfired hnow =>
      refine ⟨_, ?_, .interrupted hcancel hfired h.over.1 h.over.2⟩
      exact h.ran hselect rfl rfl rfl rfl rfl
  | @finished out w hrun hlate =>
      cases out with
      | error e =>
          refine ⟨_, ?_, .closed h.over.1 h.over.2⟩
          exact h.ran hselect rfl rfl rfl rfl rfl
      | ok r =>
          refine ⟨_, ?_, .closed h.over.1 h.over.2⟩
          exact h.ran hselect rfl rfl rfl rfl rfl

/-! ## The turn -/

/-- An iteration that has come no further than its reconnect. -/
theorem ran_of_reconnect {a : Attempt Endpoints} {s'' : LoopState} (hvalue : a.value? = none)
    (hwhen : config.newConnectionPerIteration = true ∧ 0 < s.iterationsCompleted)
    (hnow : s.world.now ≤ s''.world.now)
    (hcompleted : s''.iterationsCompleted = s.iterationsCompleted)
    (hhistory : s''.history = s.history ++ [⟨s.world.now, some ([], a), none⟩])
    (hlast : s''.last = s.last) :
    Ran connector work config cancel s ⟨s.world.now, some ([], a), none⟩ s'' where
  start := rfl
  now_le := hnow
  completed := hcompleted
  history := hhistory
  last := hlast
  kept hoff := by
    rw [hoff] at hwhen
    cases hwhen.1
  reconnects := ⟨fun _ => hwhen, fun _ => rfl⟩
  held hsome := by
    obtain ⟨rfl, -⟩ := Prod.mk.inj (Option.some.inj hsome)
    rfl
  answered hsome := by
    obtain ⟨-, rfl⟩ := Prod.mk.inj (Option.some.inj hsome)
    cases hvalue
  bodyless := ⟨fun _ => ⟨[], a, rfl, hvalue⟩, fun _ => rfl⟩
  used hbody := by cases hbody
  ran hbody := by cases hbody
  inTime hbody := by cases hbody

/-- A reconnect that has brought endpoints. -/
theorem reconnected_of_finished {endpoints : Endpoints} {w : World}
    (hwhen : config.newConnectionPerIteration = true ∧ 0 < s.iterationsCompleted)
    (hrun : connector.run s.startIteration.world = some (.ok endpoints, w)) :
    Reconnected connector config s (some ([], .finished w.now (.ok endpoints)))
      { s.startIteration with endpoints := endpoints, world := w } where
  now_le := by
    have hnow : s.startIteration.world.now ≤ w.now := connector.now_le hrun
    exact hnow
  completed := rfl
  history := rfl
  last := rfl
  reconnects := ⟨fun _ => hwhen, fun _ => rfl⟩
  held hsome := by
    cases hsome
    rfl
  answered hsome := by
    cases hsome
    exact ⟨_, _, hrun⟩
  used := Or.inr ⟨[], w.now, rfl⟩

/-- No reconnect is due. -/
theorem reconnected_of_not
    (hnot : ¬ (config.newConnectionPerIteration = true ∧ 0 < s.iterationsCompleted)) :
    Reconnected connector config s none s.startIteration where
  now_le := Nat.le_refl _
  completed := rfl
  history := rfl
  last := rfl
  reconnects := ⟨fun hsome => (by cases hsome), fun hthen => absurd hthen hnot⟩
  held hsome := by cases hsome
  answered hsome := by cases hsome
  used := Or.inl ⟨rfl, rfl⟩

/-- **One turn.**  It stops at once, or it runs one iteration and leaves it in
one of the three ways. -/
theorem loopTurn_cases (connector : Future Endpoints)
    (work : UInt64 → String → Endpoints → Future CycleReport) (config : LoopConfig)
    (cancel : Option Instant) (begun : Instant) (s : LoopState) :
    (∃ reason, stopCheck config begun s.world.now s.iterationsCompleted = some reason ∧
      loopTurn connector work config cancel begun s = .inr (s.stop begun reason)) ∨
    (stopCheck config begun s.world.now s.iterationsCompleted = none ∧
      ∃ it s', Ran connector work config cancel s it s' ∧
        Leaves config cancel begun it s' (loopTurn connector work config cancel begun s)) := by
  cases hcheck : stopCheck config begun s.world.now s.iterationsCompleted with
  | some reason =>
      refine Or.inl ⟨reason, rfl, ?_⟩
      simp only [loopTurn, hcheck]
  | none =>
      refine Or.inr ⟨rfl, ?_⟩
      simp only [loopTurn, hcheck]
      split_ifs with hwhen
      · rcases hselect : select cancel connector s.startIteration.world with ⟨a, w⟩
        cases select_cases hselect with
        | pending =>
            refine ⟨⟨s.world.now, some ([], .pending), none⟩, _, ?_, .waits rfl rfl⟩
            exact ran_of_reconnect rfl hwhen (Nat.le_refl _) rfl rfl rfl
        | @cancelled at_ c w hcancel hfired hnow =>
            refine ⟨⟨s.world.now, some ([], .cancelled at_), none⟩, _, ?_,
              .interrupted hcancel hfired rfl rfl⟩
            exact ran_of_reconnect rfl hwhen hnow rfl rfl rfl
        | @finished out w hrun hlate =>
            have hnow : s.startIteration.world.now ≤ w.now := connector.now_le hrun
            cases out with
            | error e =>
                refine ⟨⟨s.world.now, some ([], .finished w.now (.error e)), none⟩, _, ?_,
                  .closed rfl rfl⟩
                exact ran_of_reconnect rfl hwhen hnow rfl rfl rfl
            | ok endpoints =>
                have hready : Reconnected connector config s
                    (some ([], .finished w.now (.ok endpoints)))
                    { s.startIteration with endpoints := endpoints, world := w } :=
                  reconnected_of_finished hwhen hrun
                exact bodyTurn_leaves hready ..
      · have hready : Reconnected connector config s none s.startIteration :=
          reconnected_of_not hwhen
        exact bodyTurn_leaves hready ..

/-! ## The checks and the sleep -/

/-- The three outcomes of the checks, with what each of them means. -/
theorem stopCheck_cases (config : LoopConfig) (begun now : Instant) (completed : UInt32) :
    (stopCheck config begun now completed = some .maxIterations ∧
      ∃ max, config.maxIterations = some max ∧ max ≤ completed) ∨
    (∀ max, config.maxIterations = some max → completed < max) ∧
      ((stopCheck config begun now completed = some .maxDuration ∧
          ∃ max, config.maxDurationSecs = some max ∧ Duration.fromSecs max ≤ now - begun) ∨
        (stopCheck config begun now completed = none ∧
          ∀ max, config.maxDurationSecs = some max → now - begun < Duration.fromSecs max)) := by
  unfold stopCheck
  by_cases hcount : (config.maxIterations.any fun max => max ≤ completed) = true
  · obtain ⟨max, hmax, hle⟩ := (Option.any_eq_true ..).mp hcount
    exact Or.inl ⟨if_pos hcount, max, hmax, of_decide_eq_true hle⟩
  · have hbelow : ∀ max, config.maxIterations = some max → completed < max := by
      intro max hmax
      by_contra hle
      exact hcount ((Option.any_eq_true ..).mpr
        ⟨max, hmax, decide_eq_true (UInt32.not_lt.mp hle)⟩)
    rw [if_neg hcount]
    refine Or.inr ⟨hbelow, ?_⟩
    by_cases hdur : (config.maxDurationSecs.any fun max =>
        Duration.fromSecs max ≤ now - begun) = true
    · obtain ⟨max, hmax, hle⟩ := (Option.any_eq_true ..).mp hdur
      exact Or.inl ⟨if_pos hdur, max, hmax, of_decide_eq_true hle⟩
    · refine Or.inr ⟨if_neg hdur, fun max hmax => ?_⟩
      by_contra hle
      exact hdur ((Option.any_eq_true ..).mpr
        ⟨max, hmax, decide_eq_true (Nat.not_lt.mp hle)⟩)

theorem stopCheck_none {now : Instant} {completed : UInt32}
    (h : stopCheck config begun now completed = none) :
    (∀ max, config.maxIterations = some max → completed < max) ∧
      ∀ max, config.maxDurationSecs = some max → now - begun < Duration.fromSecs max := by
  rcases stopCheck_cases config begun now completed with
    ⟨hmaxi, -⟩ | ⟨hbelow, ⟨hdur, -⟩ | ⟨-, hshort⟩⟩
  · cases h.symm.trans hmaxi
  · cases h.symm.trans hdur
  · exact ⟨hbelow, hshort⟩

/-- What closing an iteration keeps. -/
structure Closed (s s' : LoopState) : Prop where
  completed : s'.iterationsCompleted = s.iterationsCompleted + 1
  history : s'.history = s.history
  endpoints : s'.endpoints = s.endpoints
  last : s'.last = s.last
  now_le : s.world.now ≤ s'.world.now

private theorem sleep_covers {start now interval : Nat} (hstart : start ≤ now)
    (hshort : now - start < interval) : start + interval ≤ now + (interval - (now - start)) := by
  omega

private theorem no_sleep_needed {start now interval : Nat} (hstart : start ≤ now)
    (hlong : ¬ now - start < interval) : start + interval ≤ now := by
  omega

/-- **Closing an iteration.**  The loop stops because a check fires or because
`cancel` fires during the sleep; or it goes on, and the interval is over. -/
theorem closeIteration_cases (config : LoopConfig) (cancel : Option Instant)
    (begun : Instant) {iterStart : Instant} (hstart : iterStart ≤ s.world.now) :
    ∃ s', Closed s s' ∧
      ((∃ reason, closeIteration config cancel begun iterStart s = .inr (s'.stop begun reason) ∧
          stopCheck config begun s'.world.now s'.iterationsCompleted = some reason) ∨
        (stopCheck config begun s.world.now s'.iterationsCompleted = none ∧
          ((closeIteration config cancel begun iterStart s = .inr (s'.stop begun .cancelled) ∧
              ∃ c, cancel = some c ∧ c ≤ s'.world.now) ∨
            (closeIteration config cancel begun iterStart s = .inl s' ∧
              iterStart + Duration.fromSecs config.intervalSecs ≤ s'.world.now)))) := by
  simp only [closeIteration]
  cases hcheck : stopCheck config begun s.count.world.now s.count.iterationsCompleted with
  | some reason =>
      exact ⟨s.count, ⟨rfl, rfl, rfl, rfl, Nat.le_refl _⟩, Or.inl ⟨reason, rfl, hcheck⟩⟩
  | none =>
      simp only
      split_ifs with hshort
      · cases hcancel : cancel.filter fun c => decide (c ≤ s.count.world.now +
            (Duration.fromSecs config.intervalSecs - (s.count.world.now - iterStart))) with
        | some c =>
            have hc : cancel = some c := (Option.filter_eq_some_iff.mp hcancel).1
            exact ⟨s.count.sleepUntil (max s.count.world.now c),
              ⟨rfl, rfl, rfl, rfl, Nat.le_max_left ..⟩,
              Or.inr ⟨hcheck, Or.inl ⟨rfl, c, hc, Nat.le_max_right ..⟩⟩⟩
        | none =>
            refine ⟨s.count.sleepUntil (s.count.world.now +
              (Duration.fromSecs config.intervalSecs - (s.count.world.now - iterStart))),
              ⟨rfl, rfl, rfl, rfl, Nat.le_add_right ..⟩, Or.inr ⟨hcheck, Or.inr ⟨rfl, ?_⟩⟩⟩
            exact sleep_covers hstart hshort
      · refine ⟨s.count, ⟨rfl, rfl, rfl, rfl, Nat.le_refl _⟩,
          Or.inr ⟨hcheck, Or.inr ⟨rfl, ?_⟩⟩⟩
        exact no_sleep_needed hstart hshort

section Turn

variable {it : Iteration} {s'' : LoopState}

theorem Ran.length (hran : Ran connector work config cancel s it s') :
    s'.history.length = s.history.length + 1 := by
  rw [hran.history, List.length_append]
  rfl

theorem Closed.length (hclosed : Closed s' s'')
    (hran : Ran connector work config cancel s it s') :
    s''.history.length = s.history.length + 1 := by
  rw [hclosed.history, hran.length]

/-- Closing an iteration counts it. -/
theorem Closed.counter (hclosed : Closed s' s'')
    (hran : Ran connector work config cancel s it s')
    (hcounter : s.iterationsCompleted.toNat = s.history.length % 2 ^ 32) :
    s''.iterationsCompleted.toNat = s''.history.length % 2 ^ 32 := by
  rw [hclosed.completed, hran.completed, UInt32.toNat_add, hcounter, hclosed.length hran,
    show (1 : UInt32).toNat = 1 from rfl, Nat.mod_add_mod]

/-- **The rule of a turn.**  The loop stops before an iteration, waits in it
forever, is interrupted in it, or closes it; then it stops or goes round
again. -/
theorem loopTurn_rule (inv : LoopState → Prop) (post : LoopEnd → Prop)
    (stopped : ∀ reason, stopCheck config begun s.world.now s.iterationsCompleted = some reason →
      post (s.stop begun reason))
    (waits : ∀ it s', Ran connector work config cancel s it s' → post (s'.waits begun))
    (interrupted : stopCheck config begun s.world.now s.iterationsCompleted = none →
      ∀ it s', Ran connector work config cancel s it s' → it.interrupted = true →
        (∃ c, cancel = some c ∧ c ≤ s'.world.now) → post (s'.stop begun .cancelled))
    (closed : stopCheck config begun s.world.now s.iterationsCompleted = none →
      ∀ it s' s'' reason, Ran connector work config cancel s it s' → it.interrupted = false →
        Closed s' s'' →
        (stopCheck config begun s''.world.now s''.iterationsCompleted = some reason ∨
          reason = .cancelled ∧ (∃ c, cancel = some c ∧ c ≤ s''.world.now) ∧
            stopCheck config begun s'.world.now s''.iterationsCompleted = none) →
        post (s''.stop begun reason))
    (next : stopCheck config begun s.world.now s.iterationsCompleted = none →
      ∀ it s' s'', Ran connector work config cancel s it s' → it.interrupted = false →
        Closed s' s'' → stopCheck config begun s'.world.now s''.iterationsCompleted = none →
        it.start + Duration.fromSecs config.intervalSecs ≤ s''.world.now → inv s'') :
    (∀ s', loopTurn connector work config cancel begun s = .inl s' → inv s') ∧
      ∀ e, loopTurn connector work config cancel begun s = .inr e → post e := by
  have hstop : ∀ {e}, post e →
      (∀ s', (.inr e : LoopState ⊕ LoopEnd) = .inl s' → inv s') ∧
        ∀ e', (.inr e : LoopState ⊕ LoopEnd) = .inr e' → post e' := by
    intro e he
    refine ⟨fun s' heq => (by cases heq), fun e' heq => ?_⟩
    rwa [← Sum.inr.inj heq]
  rcases loopTurn_cases connector work config cancel begun s with
    ⟨reason, hcheck, hturn⟩ | ⟨hcheck, it, s', hran, hleaves⟩
  · rw [hturn]
    exact hstop (stopped reason hcheck)
  · generalize loopTurn connector work config cancel begun s = r at hleaves
    cases hleaves with
    | waits _ _ => exact hstop (waits it s' hran)
    | interrupted hcancel hfired _ hinterrupted =>
        exact hstop (interrupted hcheck it s' hran hinterrupted ⟨_, hcancel, hfired⟩)
    | closed _ hwhole =>
        have hstart : it.start ≤ s'.world.now := hran.start ▸ hran.now_le
        obtain ⟨s'', hclosed, ⟨reason, hclose, hwhy⟩ | ⟨hagain, ⟨hclose, hfired⟩ |
          ⟨hclose, hslept⟩⟩⟩ := closeIteration_cases config cancel begun hstart
        · rw [hclose]
          exact hstop (closed hcheck it s' s'' reason hran hwhole hclosed (Or.inl hwhy))
        · rw [hclose]
          exact hstop (closed hcheck it s' s'' .cancelled hran hwhole hclosed
            (Or.inr ⟨rfl, hfired, hagain⟩))
        · rw [hclose]
          refine ⟨fun t heq => ?_, fun e heq => (by cases heq)⟩
          rw [← Sum.inl.inj heq]
          exact next hcheck it s' s'' hran hwhole hclosed hagain hslept

end Turn

/-- A run of the loop comes after an accepted configuration and an initial
connect to at least one endpoint. -/
theorem periodicLoop_ok {fuel : Nat} {entropy : Stream' UInt64} {w : World} {out : LoopEnd}
    (h : periodicLoop connector work config cancel fuel entropy w = some (.ok out)) :
    config.validate = .ok () ∧ ∃ endpoints w₀, connector.run w = some (.ok endpoints, w₀) ∧
      endpoints ≠ [] ∧
      Loops.run (loopTurn connector work config cancel w₀.now) fuel
        (.initial endpoints entropy w₀) = some out := by
  unfold periodicLoop at h
  cases hvalid : config.validate with
  | error e =>
      rw [hvalid] at h
      cases h
  | ok u =>
      rw [hvalid] at h
      rcases hconnect : connector.run w with _ | ⟨e | endpoints, w₀⟩ <;> rw [hconnect] at h
      · cases h
      · cases h
      · by_cases hne : endpoints = []
        · simp only [if_pos hne] at h
          cases h
        · simp only [if_neg hne] at h
          obtain ⟨out', hrun, heq⟩ := Option.map_eq_some_iff.mp h
          obtain rfl := Except.ok.inj heq
          exact ⟨rfl, endpoints, w₀, rfl, hne, hrun⟩

end StatementStore
