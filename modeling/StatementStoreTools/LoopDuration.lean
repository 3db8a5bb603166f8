import StatementStoreTools.LoopCounters

/-!
# The duration limit of the loop

`--duration-secs` is the maximum duration of the loop.  It is looked at before
an iteration and after its body; the sleep in between is `interval - elapsed`,
whatever is left of the duration, and a reconnect is waited for however long
it takes.  So the loop ends by the limit, or with the body in progress then,
unless an iteration ends before the limit and its interval after it, or the
limit finds the loop in a reconnect.

Without `cancel` an iteration starts when the intervals and the longer
iterations before it are over, `startOffset`, and the loop head is reached at
that time: `OnSchedule` is the invariant, `loop_in_time_iff` the result.
-/

namespace StatementStore

open Loops

/-! ## Schedules -/

/-- How long an iteration took: its reconnect, if it made one, and the whole of
it. -/
structure Span where
  reconnect : Duration
  whole : Duration

/-- When the next iteration starts, counted from the start of the loop: every
iteration before it has taken its time, and an interval at least. -/
def startOffset (interval : Duration) (spans : List Span) : Duration :=
  (spans.map fun span => max interval span.whole).sum

/-- An iteration that is not the last one ends before the limit `d`, and its
interval ends after it. -/
def Oversleeps (config : LoopConfig) (d : Duration) (spans : List Span) : Prop :=
  ∃ k span, spans[k]? = some span ∧
    startOffset (Duration.fromSecs config.intervalSecs) (spans.take k) + span.whole < d ∧
    d < startOffset (Duration.fromSecs config.intervalSecs) (spans.take k) +
      Duration.fromSecs config.intervalSecs ∧
    ∀ max, config.maxIterations = some max → k + 1 < max.toNat

/-- A reconnect is in progress at the limit `d`. -/
def Reconnecting (config : LoopConfig) (d : Duration) (spans : List Span) : Prop :=
  ∃ k span, spans[k]? = some span ∧
    startOffset (Duration.fromSecs config.intervalSecs) (spans.take k) < d ∧
    d < startOffset (Duration.fromSecs config.intervalSecs) (spans.take k) + span.reconnect

section Schedules

variable {interval d : Duration} {span : Span} {spans : List Span} {k : Nat}

theorem startOffset_append (before after : List Span) :
    startOffset interval (before ++ after) =
      startOffset interval before + startOffset interval after := by
  simp [startOffset]

theorem startOffset_snoc :
    startOffset interval (spans ++ [span]) =
      startOffset interval spans + max interval span.whole := by
  simp [startOffset]

/-- The interval of an iteration is over when the next one starts. -/
theorem startOffset_take_add_le (hk : spans[k]? = some span) :
    startOffset interval (spans.take k) + interval ≤ startOffset interval spans := by
  have htake : spans.take (k + 1) = spans.take k ++ [span] := by
    rw [List.take_add_one, hk]
    rfl
  calc startOffset interval (spans.take k) + interval
      ≤ startOffset interval (spans.take k) + max interval span.whole :=
        Nat.add_le_add_left (Nat.le_max_left ..) _
    _ = startOffset interval (spans.take (k + 1)) := by rw [htake, startOffset_snoc]
    _ ≤ startOffset interval (spans.take (k + 1)) +
        startOffset interval (spans.drop (k + 1)) := Nat.le_add_right ..
    _ = startOffset interval spans := by
        rw [← startOffset_append, List.take_append_drop]

/-- When every iteration has ended before the limit, the next one starts after
it just if an interval ends after it. -/
theorem lt_startOffset_iff
    (hpunctual : ∀ k span, spans[k]? = some span →
      startOffset interval (spans.take k) + span.whole < d) :
    d < startOffset interval spans ↔ ∃ k span, spans[k]? = some span ∧
      d < startOffset interval (spans.take k) + interval := by
  constructor
  · intro hlate
    rcases List.eq_nil_or_concat' spans with rfl | ⟨before, span, rfl⟩
    · exact absurd hlate (Nat.not_lt_zero d)
    · have hlast := hpunctual before.length span List.getElem?_concat_length
      refine ⟨before.length, span, List.getElem?_concat_length, ?_⟩
      rw [List.take_left] at hlast ⊢
      rw [startOffset_snoc] at hlate
      rcases Nat.le_total interval span.whole with hle | hle
      · rw [Nat.max_eq_right hle] at hlate
        exact absurd hlast (Nat.lt_asymm hlate)
      · rwa [Nat.max_eq_left hle] at hlate
  · intro hlong
    obtain ⟨k, span, hk, hlate⟩ := hlong
    exact Nat.lt_of_lt_of_le hlate (startOffset_take_add_le hk)

/-- A schedule with one more iteration. -/
theorem getElem?_snoc_cases {span' : Span} (hk : (spans ++ [span])[k]? = some span') :
    (spans[k]? = some span' ∧ (spans ++ [span]).take k = spans.take k) ∨
      (k = spans.length ∧ span' = span ∧ (spans ++ [span]).take k = spans) := by
  rcases Nat.lt_or_ge k spans.length with hlt | hge
  · rw [List.getElem?_append_left hlt] at hk
    exact Or.inl ⟨hk, List.take_append_of_le_length (Nat.le_of_lt hlt)⟩
  · have hlast : k = spans.length := by
      have hlt := (List.getElem?_eq_some_iff.mp hk).1
      simp only [List.length_append, List.length_singleton] at hlt
      omega
    subst hlast
    rw [List.getElem?_concat_length] at hk
    exact Or.inr ⟨rfl, (Option.some.inj hk).symm, List.take_left⟩

end Schedules

theorem fromSecs_pos {secs : UInt64} (h : 0 < secs) : 0 < Duration.fromSecs secs :=
  Nat.mul_pos (UInt64.lt_iff_toNat_lt.mp h) (by decide)

/-! ## The times of an iteration -/

/-- When an awaited future became ready. -/
def Attempt.finishedAt {α : Type} : Attempt α → Option Instant
  | .finished at_ _ => some at_
  | _ => none

/-- When the body ended; without a body, when the reconnect failed. -/
def Iteration.finish (it : Iteration) : Option Instant :=
  match it.body with
  | some (_, a) => a.finishedAt
  | none => it.reconnect.bind (·.2.finishedAt)

/-- When the reconnect was over; at once, if none was made. -/
def Iteration.ready (it : Iteration) : Option Instant :=
  match it.reconnect with
  | some (_, a) => a.finishedAt
  | none => some it.start

def Iteration.span (it : Iteration) : Option Span :=
  it.ready.bind fun ready => it.finish.map fun finish => ⟨ready - it.start, finish - it.start⟩

/-- How long the iterations took that are over. -/
def LoopEnd.spans (e : LoopEnd) : List Span :=
  e.history.filterMap Iteration.span

/-- If the loop has returned, then by `limit`, or by the end of the body in
progress at `limit`. -/
def InTime (limit : Instant) (e : LoopEnd) : Prop :=
  e.report.isSome → e.ended ≤ limit ∨ ∃ it ∈ e.history, ∃ eps a ready finish,
    it.body = some (eps, a) ∧ it.ready = some ready ∧ a.finishedAt = some finish ∧
      ready ≤ limit ∧ limit ≤ finish ∧ e.ended ≤ finish

section Turns

variable {connector : Future Endpoints} {work : UInt64 → String → Endpoints → Future CycleReport}
  {config : LoopConfig} {begun : Instant} {s s' : LoopState} {it : Iteration}

/-- `s'` is reached from the loop head `s` by running the iteration `it`. -/
structure Timed (s : LoopState) (it : Iteration) (s' : LoopState) : Prop where
  start : it.start = s.world.now
  now_le : s.world.now ≤ s'.world.now
  completed : s'.iterationsCompleted = s.iterationsCompleted
  history : s'.history = s.history ++ [it]

/-- The iteration is over at `finish`, and its reconnect was at `ready`. -/
structure Over (it : Iteration) (ready finish : Instant) : Prop where
  reconnected : it.ready = some ready
  finished : it.finish = some finish
  start_le : it.start ≤ ready
  le_finish : ready ≤ finish
  bodyless : it.body = none → ready = finish

theorem Over.span {ready finish : Instant} (h : Over it ready finish) :
    it.span = some ⟨ready - it.start, finish - it.start⟩ := by
  rw [Iteration.span, h.reconnected, h.finished]
  rfl

/-- An iteration without `cancel`: it waits forever, or it is closed when it is
over. -/
def RunsOut (config : LoopConfig) (begun : Instant) (s : LoopState)
    (turn : LoopState ⊕ LoopEnd) : Prop :=
  ∃ it s', Timed s it s' ∧
    ((it.finish = none ∧ turn = .inr (s'.waits begun)) ∨
      ∃ ready, Over it ready s'.world.now ∧
        turn = closeIteration config none begun it.start s')

theorem select_uncancelled {α : Type} (future : Future α) (w : World) :
    (future.run w = none ∧ select none future w = (.pending, w)) ∨
      ∃ out w', future.run w = some (out, w') ∧ w.now ≤ w'.now ∧
        select none future w = (.finished w'.now out, w') := by
  unfold select
  cases hrun : future.run w with
  | none => exact Or.inl ⟨rfl, rfl⟩
  | some ready => exact Or.inr ⟨ready.1, ready.2, rfl, future.now_le hrun, rfl⟩

theorem bodyTurn_runsOut {reconnect : Option (Endpoints × Attempt Endpoints)}
    (iterRunId : UInt64) (tag : String) (hnow : s.world.now ≤ s'.world.now)
    (hcompleted : s'.iterationsCompleted = s.iterationsCompleted)
    (hhistory : s'.history = s.history)
    (hready : ∀ body, (Iteration.mk s.world.now reconnect body).ready = some s'.world.now) :
    RunsOut config begun s
      (bodyTurn work config none begun s.world.now reconnect iterRunId tag s') := by
  rcases select_uncancelled (work iterRunId tag s'.endpoints) s'.world with
    ⟨-, hselect⟩ | ⟨e | r, w, -, hle, hselect⟩ <;> simp only [bodyTurn, hselect]
  · refine ⟨⟨s.world.now, reconnect, some (s'.endpoints, .pending)⟩, _, ?_,
      Or.inl ⟨rfl, rfl⟩⟩
    exact ⟨rfl, hnow, hcompleted, congrArg (· ++ _) hhistory⟩
  · refine ⟨⟨s.world.now, reconnect, some (s'.endpoints, .finished w.now (.error e))⟩, _, ?_,
      Or.inr ⟨s'.world.now, ⟨hready _, rfl, hnow, hle, fun hnone => (by cases hnone)⟩, rfl⟩⟩
    exact ⟨rfl, hnow.trans hle, hcompleted, congrArg (· ++ _) hhistory⟩
  · refine ⟨⟨s.world.now, reconnect, some (s'.endpoints, .finished w.now (.ok r))⟩, _, ?_,
      Or.inr ⟨s'.world.now, ⟨hready _, rfl, hnow, hle, fun hnone => (by cases hnone)⟩, rfl⟩⟩
    exact ⟨rfl, hnow.trans hle, hcompleted, congrArg (· ++ _) hhistory⟩

/-- **One turn without `cancel`.** -/
theorem loopTurn_runsOut (connector : Future Endpoints)
    (work : UInt64 → String → Endpoints → Future CycleReport) (config : LoopConfig)
    (begun : Instant) (s : LoopState) :
    (∃ reason, stopCheck config begun s.world.now s.iterationsCompleted = some reason ∧
      loopTurn connector work config none begun s = .inr (s.stop begun reason)) ∨
    (stopCheck config begun s.world.now s.iterationsCompleted = none ∧
      RunsOut config begun s (loopTurn connector work config none begun s)) := by
  cases hcheck : stopCheck config begun s.world.now s.iterationsCompleted with
  | some reason =>
      refine Or.inl ⟨reason, rfl, ?_⟩
      simp only [loopTurn, hcheck]
  | none =>
      refine Or.inr ⟨rfl, ?_⟩
      simp only [loopTurn, hcheck]
      split_ifs
      · rcases select_uncancelled connector s.startIteration.world with
          ⟨-, hselect⟩ | ⟨e | endpoints, w, -, hle, hselect⟩ <;> simp only [hselect]
        · refine ⟨⟨s.world.now, some ([], .pending), none⟩, _, ?_, Or.inl ⟨rfl, rfl⟩⟩
          exact ⟨rfl, Nat.le_refl _, rfl, rfl⟩
        · refine ⟨⟨s.world.now, some ([], .finished w.now (.error e)), none⟩, _, ?_,
            Or.inr ⟨w.now, ⟨rfl, rfl, hle, Nat.le_refl _, fun _ => rfl⟩, rfl⟩⟩
          exact ⟨rfl, hle, rfl, rfl⟩
        · exact bodyTurn_runsOut _ _ hle rfl rfl fun _ => rfl
      · exact bodyTurn_runsOut _ _ (Nat.le_refl _) rfl rfl fun _ => rfl

/-- The loop head after the iteration `it`, counted and slept after. -/
def LoopState.slept (config : LoopConfig) (it : Iteration) (s : LoopState) : LoopState :=
  s.count.sleepUntil
    (it.start + max (Duration.fromSecs config.intervalSecs) (s.world.now - it.start))

private theorem woken_at {start now interval : Nat} (hstart : start ≤ now)
    (hshort : now - start < interval) : now + (interval - (now - start)) = start + interval := by
  omega

/-- Closing an iteration without `cancel`: a check fires, or the loop sleeps
until the interval is over. -/
theorem closeIteration_uncancelled (config : LoopConfig) (begun : Instant)
    (hstart : it.start ≤ s.world.now) :
    (∃ reason, stopCheck config begun s.world.now (s.iterationsCompleted + 1) = some reason ∧
      closeIteration config none begun it.start s = .inr (s.count.stop begun reason)) ∨
    (stopCheck config begun s.world.now (s.iterationsCompleted + 1) = none ∧
      closeIteration config none begun it.start s = .inl (s.slept config it)) := by
  have hnow : s.count.world.now = s.world.now := rfl
  have hcount : s.count.iterationsCompleted = s.iterationsCompleted + 1 := rfl
  simp only [closeIteration, LoopState.slept, hnow, hcount, Option.filter_none]
  cases hcheck : stopCheck config begun s.world.now (s.iterationsCompleted + 1) with
  | some reason => exact Or.inl ⟨reason, rfl, rfl⟩
  | none =>
      refine Or.inr ⟨rfl, ?_⟩
      simp only
      split_ifs with hshort
      · rw [Nat.max_eq_left (Nat.le_of_lt hshort), woken_at hstart hshort]
      · rw [Nat.max_eq_right (Nat.le_of_not_lt hshort), Nat.add_sub_cancel' hstart]
        rfl

/-! ## The schedule of a run -/

/-- The invariant of the loop head: `spans` are those of the iterations so far,
all of which ended before the limit. -/
structure OnSchedule (config : LoopConfig) (begun : Instant) (d : Duration)
    (spans : List Span) (s : LoopState) : Prop where
  counted : Counted config none begun s
  measured : s.history.map Iteration.span = spans.map some
  now : s.world.now = begun + startOffset (Duration.fromSecs config.intervalSecs) spans
  punctual : ∀ k span, spans[k]? = some span →
    startOffset (Duration.fromSecs config.intervalSecs) (spans.take k) + span.whole < d
  reconnects : ∀ span ∈ spans, span.reconnect ≤ span.whole
  finishes : ∀ it ∈ s.history, ∀ f, it.finish = some f → f < begun + d

variable {d : Duration} {spans : List Span}

theorem onSchedule_initial (endpoints : Endpoints) (entropy : Stream' UInt64) (w : World) :
    OnSchedule config w.now d [] (.initial endpoints entropy w) where
  counted := counted_initial endpoints entropy w
  measured := rfl
  now := rfl
  punctual k span hk := by cases hk
  reconnects span hspan := by cases hspan
  finishes it hit := by cases hit

theorem OnSchedule.length (h : OnSchedule config begun d spans s) :
    spans.length = s.history.length := by
  simpa using (congrArg List.length h.measured).symm

theorem filterMap_measured {history : List Iteration}
    (h : history.map Iteration.span = spans.map some) :
    history.filterMap Iteration.span = spans := by
  calc history.filterMap Iteration.span
      = (history.map Iteration.span).filterMap id := by rw [List.filterMap_map]; rfl
    _ = (spans.map some).filterMap id := by rw [h]
    _ = spans := by rw [List.filterMap_map]; exact List.filterMap_some

/-- At the loop head the loop has overslept just if it is past the limit. -/
theorem OnSchedule.oversleeps_iff (h : OnSchedule config begun d spans s) :
    Oversleeps config d spans ↔ begun + d < s.world.now := by
  rw [h.now, Nat.add_lt_add_iff_left, lt_startOffset_iff h.punctual]
  constructor
  · intro hover
    obtain ⟨k, span, hk, -, hlate, -⟩ := hover
    exact ⟨k, span, hk, hlate⟩
  · intro hlate
    obtain ⟨k, span, hk, hlate⟩ := hlate
    have hlt : k < s.history.length := h.length ▸ (List.getElem?_eq_some_iff.mp hk).1
    refine ⟨k, span, hk, h.punctual k span hk, hlate, fun max hmax => ?_⟩
    have hne : s.history ≠ [] := List.ne_nil_of_length_pos (Nat.zero_lt_of_lt hlt)
    exact Nat.lt_of_le_of_lt hlt (h.counted.below max hmax hne)

/-- The reconnects of these iterations were over before the limit. -/
theorem OnSchedule.not_reconnecting (h : OnSchedule config begun d spans s) :
    ¬ Reconnecting config d spans := by
  intro hreconnecting
  obtain ⟨k, span, hk, -, hlate⟩ := hreconnecting
  have hle := h.reconnects span (List.mem_of_getElem? hk)
  exact absurd (h.punctual k span hk)
    (Nat.not_lt.mpr ((Nat.le_of_lt hlate).trans (Nat.add_le_add_left hle _)))

/-- Nor is one of their bodies in progress at the limit. -/
theorem OnSchedule.body_before (h : OnSchedule config begun d spans s) (hit : it ∈ s.history)
    {eps : Endpoints} {a : Attempt CycleReport} {finish : Instant}
    (hbody : it.body = some (eps, a)) (ha : a.finishedAt = some finish) :
    finish < begun + d := by
  refine h.finishes it hit finish ?_
  rw [Iteration.finish, hbody]
  exact ha

/-- Stopping at the loop head. -/
theorem OnSchedule.stopped (h : OnSchedule config begun d spans s)
    (reason : LoopStopReason) :
    InTime (begun + d) (s.stop begun reason) ↔
      ¬ Oversleeps config d (s.stop begun reason).spans ∧
        ¬ Reconnecting config d (s.stop begun reason).spans := by
  rw [show (s.stop begun reason).spans = spans from filterMap_measured h.measured,
    h.oversleeps_iff, Nat.not_lt, and_iff_left h.not_reconnecting]
  constructor
  · intro hinTime
    rcases hinTime rfl with
      hle | ⟨it, hit, eps, a, ready, finish, hbody, -, ha, -, hlate, -⟩
    · exact hle
    · exact absurd (h.body_before hit hbody ha) (Nat.not_lt.mpr hlate)
  · intro hle _
    exact Or.inl hle

section Iterations

variable {max : UInt64} {reason : LoopStopReason} {ready : Instant}

/-- An iteration is started before the limit only. -/
theorem OnSchedule.early (h : OnSchedule config begun (Duration.fromSecs max) spans s)
    (hmax : config.maxDurationSecs = some max)
    (hcheck : stopCheck config begun s.world.now s.iterationsCompleted = none) :
    startOffset (Duration.fromSecs config.intervalSecs) spans < Duration.fromSecs max := by
  have hlt := (stopCheck_none hcheck).2 max hmax
  rwa [h.now, Nat.add_sub_cancel_left] at hlt

/-- An iteration that is never over. -/
theorem OnSchedule.waiting (h : OnSchedule config begun d spans s)
    (hearly : startOffset (Duration.fromSecs config.intervalSecs) spans < d)
    (htimed : Timed s it s') (hfinish : it.finish = none) :
    InTime (begun + d) (s'.waits begun) ↔
      ¬ Oversleeps config d (s'.waits begun).spans ∧
        ¬ Reconnecting config d (s'.waits begun).spans := by
  have hspan : it.span = none := by
    rw [Iteration.span, hfinish]
    cases it.ready <;> rfl
  have hspans : (s'.waits begun).spans = spans := by
    change s'.history.filterMap Iteration.span = spans
    rw [htimed.history, List.filterMap_append, filterMap_measured h.measured]
    simp [hspan]
  rw [hspans, h.oversleeps_iff, h.now]
  apply iff_of_true
  · intro hreport
    cases hreport
  · exact ⟨Nat.not_lt.mpr (Nat.add_le_add_left (Nat.le_of_lt hearly) begun),
      h.not_reconnecting⟩

theorem OnSchedule.measured_ran (h : OnSchedule config begun d spans s)
    (htimed : Timed s it s') (hover : Over it ready s'.world.now) :
    s'.history.map Iteration.span =
      (spans ++ [Span.mk (ready - s.world.now) (s'.world.now - s.world.now)]).map some := by
  simp [htimed.history, h.measured, hover.span, htimed.start]

/-- A time since the iteration began, counted from the start of the loop. -/
theorem OnSchedule.since (h : OnSchedule config begun d spans s) {at_ : Instant}
    (hle : s.world.now ≤ at_) :
    begun + (startOffset (Duration.fromSecs config.intervalSecs) spans +
      (at_ - s.world.now)) = at_ := by
  rw [← Nat.add_assoc, ← h.now, Nat.add_sub_cancel' hle]

/-- Below the maximum, the counter does not wrap. -/
theorem OnSchedule.counter_lt {most : UInt32} (h : OnSchedule config begun d spans s)
    (hcheck : stopCheck config begun s.world.now s.iterationsCompleted = none)
    (htimed : Timed s it s') (hmost : config.maxIterations = some most)
    (hroom : spans.length + 1 < most.toNat) : s'.iterationsCompleted + 1 < most := by
  have hlt := h.counted.room hcheck hmost
  rw [UInt32.lt_iff_toNat_lt, UInt32.toNat_add, htimed.completed, h.counted.counter, ← h.length,
    show (1 : UInt32).toNat = 1 from rfl, Nat.mod_add_mod,
    Nat.mod_eq_of_lt (Nat.lt_of_lt_of_le hroom (Nat.le_of_lt most.toNat_lt))]
  exact hroom

/-- Stopping after an iteration, no sleep comes after it. -/
theorem OnSchedule.closed_awake
    (h : OnSchedule config begun (Duration.fromSecs max) spans s)
    (hmax : config.maxDurationSecs = some max)
    (hcheck : stopCheck config begun s.world.now s.iterationsCompleted = none)
    (htimed : Timed s it s')
    (hstop : stopCheck config begun s'.world.now (s'.iterationsCompleted + 1) = some reason) :
    ¬ Oversleeps config (Duration.fromSecs max)
      (spans ++ [⟨ready - s.world.now, s'.world.now - s.world.now⟩]) := by
  intro hover
  obtain ⟨k, span, hk, hended, hlate, hmore⟩ := hover
  rcases getElem?_snoc_cases hk with ⟨hk, htake⟩ | ⟨rfl, rfl, htake⟩ <;>
    rw [htake] at hended hlate
  -- the interval of an earlier iteration was over when this one started
  · exact absurd (h.early hmax hcheck) (Nat.not_lt.mpr
      ((Nat.le_of_lt hlate).trans (startOffset_take_add_le hk)))
  · rcases stopCheck_cases config begun s'.world.now (s'.iterationsCompleted + 1) with
      ⟨-, most, hmost, hle⟩ | ⟨-, ⟨-, max', hmax', hlong⟩ | ⟨hnone, -⟩⟩
    · exact absurd (h.counter_lt hcheck htimed hmost (hmore most hmost)) (UInt32.not_lt.mpr hle)
    · obtain rfl := Option.some.inj (hmax.symm.trans hmax')
      rw [← h.since htimed.now_le, Nat.add_sub_cancel_left] at hlong
      exact absurd hended (Nat.not_lt.mpr hlong)
    · cases hstop.symm.trans hnone

/-- Only the reconnect of the last iteration can be in progress at the limit. -/
theorem OnSchedule.reconnecting_iff
    (h : OnSchedule config begun d spans s) {whole : Duration}
    (hearly : startOffset (Duration.fromSecs config.intervalSecs) spans < d)
    (hready : s.world.now ≤ ready) :
    Reconnecting config d (spans ++ [⟨ready - s.world.now, whole⟩]) ↔ begun + d < ready := by
  have hsince := h.since hready
  constructor
  · intro hreconnecting
    obtain ⟨k, span, hk, hstart, hlate⟩ := hreconnecting
    rcases getElem?_snoc_cases hk with ⟨hk, htake⟩ | ⟨rfl, rfl, htake⟩ <;>
      rw [htake] at hstart hlate
    · exact absurd ⟨k, span, hk, hstart, hlate⟩ h.not_reconnecting
    · rw [← hsince]
      exact Nat.add_lt_add_left hlate begun
  · intro hlate
    refine ⟨spans.length, _, List.getElem?_concat_length, ?_, ?_⟩ <;> rw [List.take_left]
    · exact hearly
    · rw [← hsince] at hlate
      exact Nat.lt_of_add_lt_add_left hlate

/-- Stopping after an iteration is in time just if its reconnect was over by the
limit: then its body ended by the limit, or was in progress then. -/
theorem OnSchedule.closed_inTime_iff (h : OnSchedule config begun d spans s)
    (htimed : Timed s it s') (hover : Over it ready s'.world.now) :
    InTime (begun + d) (s'.count.stop begun reason) ↔ ready ≤ begun + d := by
  have hhistory : (s'.count.stop begun reason).history = s.history ++ [it] := htimed.history
  have hlast : it ∈ (s'.count.stop begun reason).history := by
    rw [hhistory]
    exact List.mem_append_right _ (List.mem_singleton.mpr rfl)
  constructor
  · intro hinTime
    rcases hinTime rfl with
      hle | ⟨i, hi, eps, a, ready', finish, hbody, hready, ha, hle, hlate, -⟩
    · exact hover.le_finish.trans hle
    · rw [hhistory] at hi
      rcases List.mem_append.mp hi with hi | hi
      · exact absurd (h.body_before hi hbody ha) (Nat.not_lt.mpr hlate)
      · obtain rfl := List.mem_singleton.mp hi
        obtain rfl := Option.some.inj (hready.symm.trans hover.reconnected)
        exact hle
  · intro hle _
    rcases Nat.le_total s'.world.now (begun + d) with hnow | hlate
    · exact Or.inl hnow
    · cases hbody : it.body with
      | none =>
          rw [hover.bodyless hbody] at hle
          exact Or.inl hle
      | some body =>
          obtain ⟨eps, a⟩ := body
          have hfinish : a.finishedAt = some s'.world.now := by
            have hfinish := hover.finished
            rwa [Iteration.finish, hbody] at hfinish
          exact Or.inr ⟨it, hlast, eps, a, ready, s'.world.now, hbody, hover.reconnected, hfinish,
            hle, hlate, Nat.le_refl _⟩

/-- Stopping after an iteration. -/
theorem OnSchedule.closed (h : OnSchedule config begun (Duration.fromSecs max) spans s)
    (hmax : config.maxDurationSecs = some max)
    (hcheck : stopCheck config begun s.world.now s.iterationsCompleted = none)
    (htimed : Timed s it s') (hover : Over it ready s'.world.now)
    (hstop : stopCheck config begun s'.world.now (s'.iterationsCompleted + 1) = some reason) :
    InTime (begun + Duration.fromSecs max) (s'.count.stop begun reason) ↔
      ¬ Oversleeps config (Duration.fromSecs max) (s'.count.stop begun reason).spans ∧
        ¬ Reconnecting config (Duration.fromSecs max) (s'.count.stop begun reason).spans := by
  have hspans : (s'.count.stop begun reason).spans =
      spans ++ [⟨ready - s.world.now, s'.world.now - s.world.now⟩] := by
    change s'.history.filterMap Iteration.span = _
    exact filterMap_measured (h.measured_ran htimed hover)
  have hready : s.world.now ≤ ready := htimed.start ▸ hover.start_le
  rw [hspans, and_iff_right (h.closed_awake hmax hcheck htimed hstop),
    h.reconnecting_iff (h.early hmax hcheck) hready, Nat.not_lt]
  exact h.closed_inTime_iff htimed hover

/-- The loop goes round again, when the interval is over. -/
theorem OnSchedule.next (h : OnSchedule config begun (Duration.fromSecs max) spans s)
    (hmax : config.maxDurationSecs = some max)
    (htimed : Timed s it s') (hover : Over it ready s'.world.now)
    (hagain : stopCheck config begun s'.world.now (s'.iterationsCompleted + 1) = none)
    (hcounted : Counted config none begun (s'.slept config it)) :
    OnSchedule config begun (Duration.fromSecs max)
      (spans ++ [⟨ready - s.world.now, s'.world.now - s.world.now⟩]) (s'.slept config it) := by
  have hended := h.since htimed.now_le
  have hinTime := (stopCheck_none hagain).2 max hmax
  rw [← hended, Nat.add_sub_cancel_left] at hinTime
  refine {
    counted := hcounted
    measured := ?_
    now := ?_
    punctual := ?_
    reconnects := ?_
    finishes := ?_ }
  · change s'.history.map Iteration.span = _
    exact h.measured_ran htimed hover
  · rw [startOffset_snoc, ← Nat.add_assoc, ← h.now, ← htimed.start]
    rfl
  · intro k span hk
    rcases getElem?_snoc_cases hk with ⟨hk, htake⟩ | ⟨rfl, rfl, htake⟩ <;> rw [htake]
    · exact h.punctual k span hk
    · exact hinTime
  · intro span hspan
    rcases List.mem_append.mp hspan with hspan | hspan
    · exact h.reconnects span hspan
    · obtain rfl := List.mem_singleton.mp hspan
      exact Nat.sub_le_sub_right hover.le_finish _
  · intro i hi f hf
    change i ∈ s'.history at hi
    rw [htimed.history] at hi
    rcases List.mem_append.mp hi with hi | hi
    · exact h.finishes i hi f hf
    · obtain rfl := List.mem_singleton.mp hi
      obtain rfl := Option.some.inj (hf.symm.trans hover.finished)
      rw [← hended]
      exact Nat.add_lt_add_left hinTime begun

/-- **One turn.**  It goes round again on schedule and later than before; or the
loop ends, in time just if it has not overslept and was not in a reconnect at
the limit. -/
theorem OnSchedule.turn (h : OnSchedule config begun (Duration.fromSecs max) spans s)
    (hinterval : 0 < config.intervalSecs) (hmax : config.maxDurationSecs = some max) :
    (∀ s', loopTurn connector work config none begun s = .inl s' →
      (∃ spans', OnSchedule config begun (Duration.fromSecs max) spans' s') ∧
        s.world.now < begun + Duration.fromSecs max ∧ s.world.now < s'.world.now) ∧
    ∀ e, loopTurn connector work config none begun s = .inr e → e.begun = begun ∧
      (InTime (begun + Duration.fromSecs max) e ↔
        ¬ Oversleeps config (Duration.fromSecs max) e.spans ∧
          ¬ Reconnecting config (Duration.fromSecs max) e.spans) := by
  have hcounted : ∀ s', loopTurn connector work config none begun s = .inl s' →
      Counted config none begun s' := h.counted.turn.1
  rcases loopTurn_runsOut connector work config begun s with
    ⟨reason, -, hturn⟩ | ⟨hcheck, it, s', htimed, ⟨hfinish, hturn⟩ | ⟨ready, hover, hturn⟩⟩
  · rw [hturn]
    refine ⟨fun s' heq => (by cases heq), fun e heq => ?_⟩
    obtain rfl := Sum.inr.inj heq
    exact ⟨rfl, h.stopped reason⟩
  · rw [hturn]
    refine ⟨fun s' heq => (by cases heq), fun e heq => ?_⟩
    obtain rfl := Sum.inr.inj heq
    exact ⟨rfl, h.waiting (h.early hmax hcheck) htimed hfinish⟩
  · have hstart : it.start ≤ s'.world.now := htimed.start ▸ htimed.now_le
    rcases closeIteration_uncancelled config begun hstart with
      ⟨reason, hstop, hclose⟩ | ⟨hagain, hclose⟩
    · rw [hturn, hclose]
      refine ⟨fun s'' heq => (by cases heq), fun e heq => ?_⟩
      obtain rfl := Sum.inr.inj heq
      exact ⟨rfl, h.closed hmax hcheck htimed hover hstop⟩
    · have hnext := h.next hmax htimed hover hagain (hcounted _ (hturn.trans hclose))
      rw [hturn, hclose]
      refine ⟨fun s'' heq => ?_, fun e heq => (by cases heq)⟩
      obtain rfl := Sum.inl.inj heq
      refine ⟨⟨_, hnext⟩, ?_, ?_⟩
      · rw [h.now]
        exact Nat.add_lt_add_left (h.early hmax hcheck) begun
      · change s.world.now < it.start + Nat.max _ _
        rw [htimed.start]
        exact Nat.lt_add_of_pos_right
          (Nat.lt_of_lt_of_le (fromSecs_pos hinterval) (Nat.le_max_left ..))

end Iterations

/-- **The duration limit.**  Without `cancel` the loop ends, and it ends in time
just if no iteration but the last ends before the limit and has its interval
end after it, and no reconnect is in progress at the limit.  A sleep past the
limit is the end of the run, so this is also when the loop never sleeps past
it. -/
theorem loop_in_time_iff {entropy : Stream' UInt64} {w w₀ : World} {endpoints : Endpoints}
    {max : UInt64} (hvalid : config.validate = .ok ())
    (hmax : config.maxDurationSecs = some max)
    (hconnect : connector.run w = some (.ok endpoints, w₀)) (hne : endpoints ≠ []) :
    ∃ fuel e, periodicLoop connector work config none fuel entropy w = some (.ok e) ∧
      e.begun = w₀.now ∧
      (InTime (w₀.now + Duration.fromSecs max) e ↔
        ¬ Oversleeps config (Duration.fromSecs max) e.spans ∧
          ¬ Reconnecting config (Duration.fromSecs max) e.spans) := by
  have hinterval := (LoopConfig.validate_ok.mp hvalid).1
  let inv (s : LoopState) : Prop :=
    ∃ spans, OnSchedule config w₀.now (Duration.fromSecs max) spans s
  have hinitial : inv (.initial endpoints entropy w₀) :=
    ⟨[], onSchedule_initial endpoints entropy w₀⟩
  have hturn : ∀ s s', inv s → loopTurn connector work config none w₀.now s = .inl s' →
      inv s' ∧ w₀.now + Duration.fromSecs max - s'.world.now <
        w₀.now + Duration.fromSecs max - s.world.now := by
    intro s s' hs hturn
    obtain ⟨spans, hs⟩ := hs
    obtain ⟨hs', hbefore, hlater⟩ := (hs.turn hinterval hmax).1 s' hturn
    exact ⟨hs', Nat.sub_lt_sub_left hbefore hlater⟩
  have hexit : ∀ s e, inv s → loopTurn connector work config none w₀.now s = .inr e →
      e.begun = w₀.now ∧ (InTime (w₀.now + Duration.fromSecs max) e ↔
        ¬ Oversleeps config (Duration.fromSecs max) e.spans ∧
          ¬ Reconnecting config (Duration.fromSecs max) e.spans) := by
    intro s e hs hturn
    obtain ⟨spans, hs⟩ := hs
    exact (hs.turn hinterval hmax).2 e hturn
  obtain ⟨e, fuel, hrun⟩ := returns_of_rank inv
    (fun s => w₀.now + Duration.fromSecs max - s.world.now) hturn hinitial
  have hend := run_rule inv _ (fun s s' hs heq => (hturn s s' hs heq).1) hexit hinitial hrun
  refine ⟨fuel, e, ?_, hend⟩
  simp only [periodicLoop, hvalid, hconnect, if_neg hne, hrun, Option.map_some]

end Turns

/-- A second at most, a cycle every thirty seconds. -/
def sleepyConfig : LoopConfig :=
  { lossyConfig with intervalSecs := 30, maxDurationSecs := some 1 }

theorem loop_in_time_iff_sleepy : ∃ fuel e,
    runLoop lossyEnv 1 (connector ["ws://a"]) sleepyConfig none fuel (Stream'.const 0)
      lossyWorld = some (.ok e) ∧ e.begun = 0 ∧
    (InTime (0 + Duration.fromSecs 1) e ↔
      ¬ Oversleeps sleepyConfig (Duration.fromSecs 1) e.spans ∧
        ¬ Reconnecting sleepyConfig (Duration.fromSecs 1) e.spans) :=
  have hconnect : (connector ["ws://a"]).run lossyWorld =
    some (.ok [("ws://a", 0)], lossyStart.world) := rfl
  loop_in_time_iff rfl rfl hconnect (by simp)

/-- The first cycle takes no time, and the loop returns twenty-nine seconds
late. -/
theorem loop_oversleeps : ∃ e,
    runLoop lossyEnv 1 (connector ["ws://a"]) sleepyConfig none 2 (Stream'.const 0)
      lossyWorld = some (.ok e) ∧
    e.begun = 0 ∧ e.ended = Duration.fromSecs 30 ∧ ¬ InTime (e.begun + Duration.fromSecs 1) e := by
  refine ⟨_, rfl, rfl, rfl, fun hinTime => ?_⟩
  rcases hinTime rfl with hle | ⟨it, hit, eps, a, ready, finish, hbody, -, hfinish, -, hlate, -⟩
  · exact absurd hle (by decide)
  · obtain rfl := List.mem_singleton.mp hit
    obtain ⟨rfl, rfl⟩ := Prod.mk.inj (Option.some.inj hbody)
    obtain rfl := Option.some.inj hfinish
    exact absurd hlate (by decide)

end StatementStore
