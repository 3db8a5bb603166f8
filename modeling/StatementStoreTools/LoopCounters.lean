import StatementStoreTools.LoopTurns

/-!
# The counter, the reason and the clock of the loop

Whenever the loop returns, its report fits its history: `loop_laws`.  The
counter is a `u32` that is never checked for overflow, so without a maximum
number of iterations it counts modulo `2 ^ 32`; with one it is exact.

The invariant of the loop head, `Counted`, is kept by every turn that goes
round again; what a turn that stops makes of it is `LoopLaws`.
-/

namespace StatementStore

open Loops

/-- The number of iterations that `cancel` interrupted. -/
def interruptions (history : List Iteration) : Nat :=
  history.countP Iteration.interrupted

/-- What holds of the history at any time: no iteration starts after the
duration is over, no body ends after `cancel` has fired, and the starts are an
interval apart. -/
structure Orderly (config : LoopConfig) (cancel : Option Instant) (begun : Instant)
    (history : List Iteration) : Prop where
  early : ∀ it ∈ history, ∀ max, config.maxDurationSecs = some max →
    it.start < begun + Duration.fromSecs max
  inTime : ∀ it ∈ history, ∀ eps at_ out c, it.body = some (eps, .finished at_ out) →
    cancel = some c → at_ < c
  apart : history.IsChain fun a b =>
    a.start + Duration.fromSecs config.intervalSecs ≤ b.start

/-- How a returned report fits the history of its run. -/
structure LoopLaws (config : LoopConfig) (cancel : Option Instant) (report : LoopReport)
    (out : LoopEnd) : Prop where
  orderly : Orderly config cancel out.begun out.history
  atMost : ∀ max, config.maxIterations = some max → report.iterationsCompleted ≤ max ∧
    (report.stoppedReason = .maxIterations ↔ report.iterationsCompleted = max)
  unlimited : config.maxIterations = none → report.stoppedReason ≠ .maxIterations
  lasted : report.stoppedReason = .maxDuration → ∃ max, config.maxDurationSecs = some max ∧
    out.begun + Duration.fromSecs max ≤ out.ended
  fired : report.stoppedReason = .cancelled → ∃ c, cancel = some c ∧ c ≤ out.ended
  once : interruptions out.history ≤ 1
  interrupted : interruptions out.history ≠ 0 → report.stoppedReason = .cancelled
  counted : report.iterationsCompleted.toNat =
    (out.history.length - interruptions out.history) % 2 ^ 32
  exact : config.maxIterations.isSome ∨ out.history.length < 2 ^ 32 →
    report.iterationsCompleted.toNat = out.history.length - interruptions out.history

/-- The invariant of the loop head. -/
structure Counted (config : LoopConfig) (cancel : Option Instant) (begun : Instant)
    (s : LoopState) : Prop where
  orderly : Orderly config cancel begun s.history
  begun_le : begun ≤ s.world.now
  whole : interruptions s.history = 0
  counter : s.iterationsCompleted.toNat = s.history.length % 2 ^ 32
  slept : ∀ it ∈ s.history.getLast?,
    it.start + Duration.fromSecs config.intervalSecs ≤ s.world.now
  below : ∀ max, config.maxIterations = some max → s.history ≠ [] →
    s.history.length < max.toNat

section Turns

variable {connector : Future Endpoints} {work : UInt64 → String → Endpoints → Future CycleReport}
  {config : LoopConfig} {cancel : Option Instant} {begun : Instant} {s s' : LoopState}
  {it : Iteration}

theorem counted_initial (endpoints : Endpoints) (entropy : Stream' UInt64) (w : World) :
    Counted config cancel w.now (.initial endpoints entropy w) where
  orderly := ⟨fun it hit => (by cases hit), fun it hit => (by cases hit), List.isChain_nil⟩
  begun_le := Nat.le_refl _
  whole := rfl
  counter := rfl
  slept it hit := by cases hit
  below max _ hne := absurd rfl hne

/-- The checks before an iteration: the history is shorter than the maximum. -/
theorem Counted.room (h : Counted config cancel begun s)
    (hcheck : stopCheck config begun s.world.now s.iterationsCompleted = none) {max : UInt32}
    (hmax : config.maxIterations = some max) : s.history.length < max.toNat := by
  by_cases hne : s.history = []
  · rw [hne]
    have hlt := UInt32.lt_iff_toNat_lt.mp ((stopCheck_none hcheck).1 max hmax)
    exact Nat.lt_of_le_of_lt (Nat.zero_le _) hlt
  · exact h.below max hmax hne

/-- A started iteration leaves the history orderly. -/
theorem Counted.orderly_ran (h : Counted config cancel begun s)
    (hcheck : stopCheck config begun s.world.now s.iterationsCompleted = none)
    (hran : Ran connector work config cancel s it s') :
    Orderly config cancel begun s'.history := by
  rw [hran.history]
  refine ⟨?_, ?_, ?_⟩
  · intro i hi max hmax
    rcases List.mem_append.mp hi with hi | hi
    · exact h.orderly.early i hi max hmax
    · obtain rfl := List.mem_singleton.mp hi
      rw [hran.start]
      exact (Nat.sub_lt_iff_lt_add' h.begun_le).mp ((stopCheck_none hcheck).2 max hmax)
  · intro i hi eps at_ out c hbody hc
    rcases List.mem_append.mp hi with hi | hi
    · exact h.orderly.inTime i hi eps at_ out c hbody hc
    · obtain rfl := List.mem_singleton.mp hi
      exact hran.inTime hbody hc
  · refine List.isChain_append.mpr ⟨h.orderly.apart, List.isChain_singleton _, ?_⟩
    intro x hx y hy
    obtain rfl : it = y := by simpa using hy
    rw [hran.start]
    exact h.slept x hx

theorem Counted.interruptions_ran (h : Counted config cancel begun s)
    (hran : Ran connector work config cancel s it s') :
    interruptions s'.history = if it.interrupted then 1 else 0 := by
  rw [hran.history, interruptions, List.countP_append, List.countP_singleton,
    show List.countP Iteration.interrupted s.history = 0 from h.whole, Nat.zero_add]

/-- Why the loop may stop in `s` with `reason`: a check has fired, or `cancel`
has, before the maximum was reached. -/
def Justified (config : LoopConfig) (cancel : Option Instant) (begun : Instant) (s : LoopState)
    (reason : LoopStopReason) : Prop :=
  stopCheck config begun s.world.now s.iterationsCompleted = some reason ∨
    (reason = .cancelled ∧ (∃ c, cancel = some c ∧ c ≤ s.world.now) ∧
      ∀ max, config.maxIterations = some max → s.iterationsCompleted < max)

theorem Justified.maxIterations {reason : LoopStopReason}
    (h : Justified config cancel begun s reason)
    {max : UInt32} (hmax : config.maxIterations = some max) (hle : s.iterationsCompleted ≤ max) :
    reason = .maxIterations ↔ s.iterationsCompleted = max := by
  have hreached : ¬ s.iterationsCompleted < max ↔ s.iterationsCompleted = max :=
    ⟨fun hge => UInt32.le_antisymm hle (UInt32.not_lt.mp hge), fun heq => heq ▸ UInt32.lt_irrefl _⟩
  rw [← hreached]
  rcases h with hcheck | ⟨rfl, -, hbelow⟩
  · rcases stopCheck_cases config begun s.world.now s.iterationsCompleted with
      ⟨hmaxi, m, hm, hge⟩ | ⟨hbelow, ⟨hdur, -⟩ | ⟨hnone, -⟩⟩
    · obtain rfl := Option.some.inj (hcheck.symm.trans hmaxi)
      obtain rfl := Option.some.inj (hm.symm.trans hmax)
      exact ⟨fun _ => UInt32.not_lt.mpr hge, fun _ => rfl⟩
    · obtain rfl := Option.some.inj (hcheck.symm.trans hdur)
      exact ⟨fun heq => (by cases heq), fun hge => absurd (hbelow max hmax) hge⟩
    · cases hcheck.symm.trans hnone
  · exact ⟨fun heq => (by cases heq), fun hge => absurd (hbelow max hmax) hge⟩

theorem Justified.reason_cases {reason : LoopStopReason}
    (h : Justified config cancel begun s reason) :
    (reason = .maxIterations → config.maxIterations ≠ none) ∧
      (reason = .maxDuration → ∃ max, config.maxDurationSecs = some max ∧
        Duration.fromSecs max ≤ s.world.now - begun) ∧
      (reason = .cancelled → ∃ c, cancel = some c ∧ c ≤ s.world.now) := by
  rcases h with hcheck | ⟨rfl, hfired, -⟩
  · rcases stopCheck_cases config begun s.world.now s.iterationsCompleted with
      ⟨hmaxi, m, hm, -⟩ | ⟨-, ⟨hdur, hlasted⟩ | ⟨hnone, -⟩⟩
    · obtain rfl := Option.some.inj (hcheck.symm.trans hmaxi)
      exact ⟨fun _ hno => (by cases hno.symm.trans hm), fun heq => (by cases heq),
        fun heq => (by cases heq)⟩
    · obtain rfl := Option.some.inj (hcheck.symm.trans hdur)
      exact ⟨fun heq => (by cases heq), fun _ => hlasted, fun heq => (by cases heq)⟩
    · cases hcheck.symm.trans hnone
  · exact ⟨fun heq => (by cases heq), fun heq => (by cases heq), fun _ => hfired⟩

/-- The state in which the loop stops: the counter leaves out what `cancel`
interrupted. -/
structure Stopping (config : LoopConfig) (cancel : Option Instant) (begun : Instant)
    (s : LoopState) (reason : LoopStopReason) : Prop where
  orderly : Orderly config cancel begun s.history
  begun_le : begun ≤ s.world.now
  once : interruptions s.history ≤ 1
  interrupted : interruptions s.history ≠ 0 → reason = .cancelled
  counter : s.iterationsCompleted.toNat =
    (s.history.length - interruptions s.history) % 2 ^ 32
  atMost : ∀ max, config.maxIterations = some max →
    s.history.length - interruptions s.history ≤ max.toNat
  justified : Justified config cancel begun s reason

theorem Stopping.laws {reason : LoopStopReason} {report : LoopReport}
    (h : Stopping config cancel begun s reason)
    (hreport : (s.stop begun reason).report = some report) :
    LoopLaws config cancel report (s.stop begun reason) := by
  obtain rfl := Option.some.inj hreport
  obtain ⟨hmaxi, hdur, hfired⟩ := h.justified.reason_cases
  have hexact : config.maxIterations.isSome ∨ s.history.length < 2 ^ 32 →
      s.iterationsCompleted.toNat = s.history.length - interruptions s.history := by
    intro hsmall
    rw [h.counter]
    apply Nat.mod_eq_of_lt
    rcases hsmall with hsome | hlen
    · obtain ⟨max, hmax⟩ := Option.isSome_iff_exists.mp hsome
      exact Nat.lt_of_le_of_lt (h.atMost max hmax) max.toNat_lt
    · exact Nat.lt_of_le_of_lt (Nat.sub_le ..) hlen
  have hle : ∀ max, config.maxIterations = some max → s.iterationsCompleted ≤ max := by
    intro max hmax
    rw [UInt32.le_iff_toNat_le, hexact (Or.inl (by rw [hmax]; rfl))]
    exact h.atMost max hmax
  exact {
    orderly := h.orderly
    atMost := fun max hmax => ⟨hle max hmax, h.justified.maxIterations hmax (hle max hmax)⟩
    unlimited := fun hnone heq => hmaxi heq hnone
    lasted := fun heq => by
      obtain ⟨max, hmax, hlasted⟩ := hdur heq
      exact ⟨max, hmax, Nat.add_le_of_le_sub' h.begun_le hlasted⟩
    fired := hfired
    once := h.once
    interrupted := h.interrupted
    counted := h.counter
    exact := hexact }

/-- The checks before an iteration have fired. -/
theorem Counted.stopping (h : Counted config cancel begun s) {reason : LoopStopReason}
    (hcheck : stopCheck config begun s.world.now s.iterationsCompleted = some reason) :
    Stopping config cancel begun s reason where
  orderly := h.orderly
  begun_le := h.begun_le
  once := h.whole ▸ Nat.zero_le _
  interrupted hne := absurd h.whole hne
  counter := by rw [h.counter, h.whole, Nat.sub_zero]
  atMost max hmax := by
    rw [h.whole, Nat.sub_zero]
    by_cases hne : s.history = []
    · rw [hne]
      exact Nat.zero_le _
    · exact Nat.le_of_lt (h.below max hmax hne)
  justified := Or.inl hcheck

/-- `cancel` has interrupted the iteration: it is not counted. -/
theorem Counted.stopping_interrupted (h : Counted config cancel begun s)
    (hcheck : stopCheck config begun s.world.now s.iterationsCompleted = none)
    (hran : Ran connector work config cancel s it s') (hinterrupted : it.interrupted = true)
    (hfired : ∃ c, cancel = some c ∧ c ≤ s'.world.now) :
    Stopping config cancel begun s' .cancelled := by
  have hone : interruptions s'.history = 1 := by
    rw [h.interruptions_ran hran, if_pos hinterrupted]
  have hleft : s'.history.length - interruptions s'.history = s.history.length := by
    rw [hran.length, hone, Nat.add_sub_cancel]
  refine {
    orderly := h.orderly_ran hcheck hran
    begun_le := h.begun_le.trans hran.now_le
    once := hone.le
    interrupted := fun _ => rfl
    counter := by rw [hran.completed, h.counter, hleft]
    atMost := fun max hmax => hleft ▸ Nat.le_of_lt (h.room hcheck hmax)
    justified := Or.inr ⟨rfl, hfired, fun max hmax => ?_⟩ }
  rw [hran.completed]
  exact (stopCheck_none hcheck).1 max hmax

section Closing

variable {s'' : LoopState}

theorem Counted.whole_closed (h : Counted config cancel begun s)
    (hran : Ran connector work config cancel s it s') (hwhole : it.interrupted = false)
    (hclosed : Closed s' s'') : interruptions s''.history = 0 := by
  rw [hclosed.history, h.interruptions_ran hran, hwhole]
  rfl

/-- The loop stops after an iteration has been counted. -/
theorem Counted.stopping_closed (h : Counted config cancel begun s)
    (hcheck : stopCheck config begun s.world.now s.iterationsCompleted = none)
    (hran : Ran connector work config cancel s it s') (hwhole : it.interrupted = false)
    (hclosed : Closed s' s'') {reason : LoopStopReason}
    (hjustified : Justified config cancel begun s'' reason) :
    Stopping config cancel begun s'' reason := by
  have hnone := h.whole_closed hran hwhole hclosed
  exact {
    orderly := hclosed.history ▸ h.orderly_ran hcheck hran
    begun_le := (h.begun_le.trans hran.now_le).trans hclosed.now_le
    once := hnone ▸ Nat.zero_le _
    interrupted := fun hne => absurd hnone hne
    counter := by
      rw [hnone, Nat.sub_zero]
      exact hclosed.counter hran h.counter
    atMost := fun max hmax => by
      rw [hnone, Nat.sub_zero, hclosed.length hran]
      exact h.room hcheck hmax
    justified := hjustified }

/-- The loop goes round again. -/
theorem Counted.next (h : Counted config cancel begun s)
    (hcheck : stopCheck config begun s.world.now s.iterationsCompleted = none)
    (hran : Ran connector work config cancel s it s') (hwhole : it.interrupted = false)
    (hclosed : Closed s' s'')
    (hagain : stopCheck config begun s'.world.now s''.iterationsCompleted = none)
    (hslept : it.start + Duration.fromSecs config.intervalSecs ≤ s''.world.now) :
    Counted config cancel begun s'' where
  orderly := hclosed.history ▸ h.orderly_ran hcheck hran
  begun_le := (h.begun_le.trans hran.now_le).trans hclosed.now_le
  whole := h.whole_closed hran hwhole hclosed
  counter := hclosed.counter hran h.counter
  slept i hi := by
    rw [hclosed.history, hran.history] at hi
    obtain rfl : it = i := by simpa using hi
    exact hslept
  below max hmax _ := by
    have hlt := UInt32.lt_iff_toNat_lt.mp ((stopCheck_none hagain).1 max hmax)
    have hsmall : s''.history.length ≤ max.toNat := by
      rw [hclosed.length hran]
      exact h.room hcheck hmax
    rwa [hclosed.counter hran h.counter,
      Nat.mod_eq_of_lt (Nat.lt_of_le_of_lt hsmall max.toNat_lt)] at hlt

end Closing

/-- **One turn.**  It keeps the invariant of the loop head, or it ends; if with
a report, then with one that fits the history. -/
theorem Counted.turn (h : Counted config cancel begun s) :
    (∀ s', loopTurn connector work config cancel begun s = .inl s' →
      Counted config cancel begun s') ∧
    ∀ e, loopTurn connector work config cancel begun s = .inr e →
      ∀ report, e.report = some report → LoopLaws config cancel report e := by
  apply loopTurn_rule (Counted config cancel begun)
    (fun e => ∀ report, e.report = some report → LoopLaws config cancel report e)
  case stopped =>
    intro reason hcheck report hreport
    exact (h.stopping hcheck).laws hreport
  case waits =>
    intro it s' hran report hreport
    cases hreport
  case interrupted =>
    intro hcheck it s' hran hinterrupted hfired report hreport
    exact (h.stopping_interrupted hcheck hran hinterrupted hfired).laws hreport
  case closed =>
    intro hcheck it s' s'' reason hran hwhole hclosed hwhy report hreport
    have hjustified : Justified config cancel begun s'' reason :=
      hwhy.imp_right fun ⟨hreason, hfired, hagain⟩ =>
        ⟨hreason, hfired, (stopCheck_none hagain).1⟩
    exact (h.stopping_closed hcheck hran hwhole hclosed hjustified).laws hreport
  case next =>
    intro hcheck it s' s'' hran hwhole hclosed hagain hslept
    exact h.next hcheck hran hwhole hclosed hagain hslept

/-- **The laws of the loop.**  Whenever it returns, the counter, the reason and
the clock fit the iterations that were started. -/
theorem loop_laws {fuel : Nat} {entropy : Stream' UInt64} {w : World} {out : LoopEnd}
    {report : LoopReport}
    (h : periodicLoop connector work config cancel fuel entropy w = some (.ok out))
    (hreport : out.report = some report) : LoopLaws config cancel report out := by
  obtain ⟨-, endpoints, w₀, -, -, hrun⟩ := periodicLoop_ok h
  exact run_rule (Counted config cancel w₀.now)
    (fun e => ∀ report, e.report = some report → LoopLaws config cancel report e)
    (fun _ s' hinv hturn => hinv.turn.1 s' hturn) (fun _ e hinv hturn => hinv.turn.2 e hturn)
    (counted_initial endpoints entropy w₀) hrun report hreport

end Turns

/-! ## As many iterations as a `u32` can count

One good cycle, and after it a node that refuses every connection: the loop
goes on and counts the lost iterations, second by second. -/

def lossyConfig : LoopConfig where
  intervalSecs := 1
  maxIterations := none
  maxDurationSecs := none
  newConnectionPerIteration := true
  submitConfig := ⟨1, 1, 1, 600, 0, none⟩
  propagationConfig := ⟨1, 1, 600, 0, 500, 500, none⟩
  subscribeConfig := ⟨1, 1, 600, 0, 0, 500, none, false⟩

def lossyEnv : OpsEnv := ⟨plainCrates, id, ⟨Vector.replicate 32 1⟩⟩

/-- Only the first attempt to connect succeeds. -/
def lossyWorld : World :=
  { steadyWorld (.error "refused") (.ok .new) with
    dials := Stream'.cons (0, .ok ()) (Stream'.const (0, .error "connection refused")) }

/-- Every attempt to connect succeeds. -/
def openWorld : World := steadyWorld (.error "refused") (.ok .new)

def twoIterations : LoopConfig :=
  { lossyConfig with maxIterations := some 2 }

/-- The loop has returned after two iterations, the second of them with a
connection of its own. -/
def reconnectedOnce : Option (Except String LoopEnd) → Bool
  | some (.ok out) => out.report.isSome && out.history.map (·.reconnect.isSome) == [false, true]
  | _ => false

theorem runLoop_twoIterations : ∃ out report,
    runLoop lossyEnv 1 (connector ["ws://a"]) twoIterations none 2 (Stream'.const 0) openWorld =
        some (.ok out) ∧
      out.report = some report ∧ out.history.map (·.reconnect.isSome) = [false, true] := by
  have hreturned : reconnectedOnce (runLoop lossyEnv 1 (connector ["ws://a"]) twoIterations none 2
    (Stream'.const 0) openWorld) = true := by decide +kernel
  unfold reconnectedOnce at hreturned
  split at hreturned
  · next out hrun =>
    obtain ⟨hsome, hhistory⟩ := Bool.and_eq_true_iff.mp hreturned
    obtain ⟨report, hreport⟩ := Option.isSome_iff_exists.mp hsome
    exact ⟨out, report, hrun, hreport, eq_of_beq hhistory⟩
  · cases hreturned

/-- Two iterations a second apart, and the loop returns. -/
theorem loop_laws_twoIterations : ∃ out report,
    runLoop lossyEnv 1 (connector ["ws://a"]) twoIterations none 2 (Stream'.const 0) openWorld =
        some (.ok out) ∧
      out.history.length = 2 ∧ out.report = some report ∧
        LoopLaws twoIterations none report out := by
  obtain ⟨out, report, hrun, hreport, hhistory⟩ := runLoop_twoIterations
  have hlen : out.history.length = 2 := by simpa using congrArg List.length hhistory
  exact ⟨out, report, hrun, hlen, hreport, loop_laws hrun hreport⟩

/-- The state in which the loop is entered there. -/
def lossyStart : LoopState :=
  .initial [("ws://a", 0)] (Stream'.const 0)
    { steadyWorld (.error "refused") (.ok .new) with
      dials := Stream'.const (0, .error "connection refused")
      opened := 1 }

/-- The turns of the loop there. -/
def lossyTurn (cancel : Option Instant) : LoopState → LoopState ⊕ LoopEnd :=
  loopTurn (connector ["ws://a"]) (cycle lossyEnv 1 lossyConfig) lossyConfig cancel 0

/-- After `k` iterations, all of them lost but the first. -/
structure Lossy (k : Nat) (s : LoopState) : Prop where
  dials : s.world.dials = Stream'.const (0, .error "connection refused")
  now : s.world.now = k * 1000000000
  counter : s.iterationsCompleted = UInt32.ofNat k
  length : s.history.length = k
  whole : interruptions s.history = 0
  endpoints : 1 < k → s.endpoints = []

section Lossy

variable {cancel : Option Instant} {s : LoopState} {k : Nat}

/-- Without limits, only `cancel` can end the sleep of a second. -/
theorem lossy_close (begun : Instant) :
    (∀ c, cancel = some c → c ≤ s.world.now + 1000000000 →
      closeIteration lossyConfig cancel begun s.world.now s =
        .inr ((s.count.sleepUntil (max s.world.now c)).stop begun .cancelled)) ∧
    ((∀ c, cancel = some c → s.world.now + 1000000000 < c) →
      closeIteration lossyConfig cancel begun s.world.now s =
        .inl (s.count.sleepUntil (s.world.now + 1000000000))) := by
  constructor
  · intro c heq hc
    obtain rfl := heq
    have hsome : (some c).filter (fun c => decide (c ≤ s.world.now + 1000000000)) = some c :=
      Option.filter_eq_some_iff.mpr ⟨rfl, decide_eq_true hc⟩
    simp [closeIteration, stopCheck, lossyConfig, Duration.fromSecs, LoopState.count, hsome]
  · intro hlate
    have hnone : cancel.filter (fun c => decide (c ≤ s.world.now + 1000000000)) = none := by
      rw [Option.filter_eq_none_iff]
      intro c hc
      simpa using hlate c hc
    simp [closeIteration, stopCheck, lossyConfig, Duration.fromSecs, LoopState.count, hnone]

def refusal : String := "Failed to connect to ws://a"

theorem refused_connect {w : World}
    (hdials : w.dials = Stream'.const (0, .error "connection refused")) :
    (connector ["ws://a"]).run w = some (.error refusal, w) := by
  rcases w with ⟨now, dials, opened, conns, calls, log⟩
  obtain rfl : dials = _ := hdials
  rfl

/-- An iteration is lost to its reconnect. -/
theorem lossy_reconnect (hdials : s.world.dials = Stream'.const (0, .error "connection refused"))
    (hpos : 0 < s.iterationsCompleted) (hcancel : ∀ c, cancel = some c → s.world.now < c) :
    ∃ s', lossyTurn cancel s = closeIteration lossyConfig cancel 0 s'.world.now s' ∧
      s'.world.dials = s.world.dials ∧ s'.world.now = s.world.now ∧
      s'.iterationsCompleted = s.iterationsCompleted ∧ s'.endpoints = [] ∧
      ∃ it, it.interrupted = false ∧ s'.history = s.history ++ [it] := by
  have hconnect := refused_connect (w := s.startIteration.world) hdials
  have hselect : select cancel (connector ["ws://a"]) s.startIteration.world =
      (.finished s.world.now (.error refusal), s.startIteration.world) :=
    select_finished hconnect hcancel
  refine ⟨LoopState.record { s.startIteration with
    endpoints := []
    world := s.startIteration.world.logLine
      s!"{iterationTag s.iterationsCompleted}reconnect failed: {refusal}" }
        ⟨s.world.now, some ([], .finished s.world.now (.error refusal)), none⟩,
    ?_, rfl, rfl, rfl, rfl, ⟨_, rfl, rfl⟩⟩
  have hwhen : lossyConfig.newConnectionPerIteration = true ∧
      0 < s.startIteration.iterationsCompleted := ⟨rfl, hpos⟩
  have hcheck : stopCheck lossyConfig 0 s.world.now s.iterationsCompleted = none := rfl
  simp only [lossyTurn, loopTurn, hcheck, if_pos hwhen, hselect]
  rfl

theorem Lossy.pos (h : Lossy k s) (hk : 0 < k) (hsmall : k < 4294967296) :
    0 < s.iterationsCompleted := by
  rw [h.counter, UInt32.lt_iff_toNat_lt, UInt32.toNat_ofNat_of_lt' hsmall]
  exact hk

/-- One more iteration is lost. -/
theorem Lossy.next (h : Lossy k s) (hk : 0 < k) (hsmall : k < 4294967296)
    (hcancel : ∀ c, cancel = some c → (k + 1) * 1000000000 < c) :
    ∃ s', lossyTurn cancel s = .inl s' ∧ Lossy (k + 1) s' := by
  have hlate : ∀ c, cancel = some c → s.world.now + 1000000000 < c := by
    intro c hc
    rw [h.now, ← Nat.succ_mul]
    exact hcancel c hc
  obtain ⟨s', hturn, hdials, hnow, hcounter, hnil, it, hwhole, hhistory⟩ :=
    lossy_reconnect h.dials (h.pos hk hsmall)
      fun c hc => Nat.lt_of_le_of_lt (Nat.le_add_right ..) (hlate c hc)
  rw [← hnow] at hlate
  refine ⟨_, hturn.trans ((lossy_close 0).2 hlate), ?_⟩
  refine ⟨hdials.trans h.dials, ?_, ?_, ?_, ?_, fun _ => hnil⟩
  · change s'.world.now + 1000000000 = _
    rw [hnow, h.now, Nat.succ_mul]
  · change s'.iterationsCompleted + 1 = _
    rw [hcounter, h.counter]
    exact (UInt32.ofNat_add k 1).symm
  · change s'.history.length = _
    rw [hhistory, List.length_append, h.length]
    rfl
  · change interruptions s'.history = 0
    rw [hhistory, interruptions, List.countP_append, List.countP_singleton, hwhole]
    exact h.whole

/-- Every subscription is refused at once, and the phases make the best of it. -/
theorem lossy_cycle : ∃ r w',
    runCycle lossyEnv 1 lossyConfig 0 (iterationTag 0) [("ws://a", 0)]
      lossyStart.startIteration.world = some (.ok r, w') ∧
    w'.now = 0 ∧ w'.dials = Stream'.const (0, .error "connection refused") :=
  ⟨_, _, rfl, rfl, rfl⟩

/-- The first iteration is a good one. -/
theorem lossy_first (hcancel : ∀ c, cancel = some c → 1000000000 < c) :
    ∃ s', lossyTurn cancel lossyStart = .inl s' ∧ Lossy 1 s' := by
  obtain ⟨r, w', hcycle, hnow, hdials⟩ := lossy_cycle
  have hlate : ∀ c, cancel = some c → w'.now + 1000000000 < c := by
    rw [hnow, Nat.zero_add]
    exact hcancel
  have hselect : select cancel (cycle lossyEnv 1 lossyConfig 0 (iterationTag 0) [("ws://a", 0)])
      lossyStart.startIteration.world = (.finished w'.now (.ok r), w') :=
    select_finished hcycle fun c hc => Nat.lt_of_le_of_lt (Nat.le_add_right ..) (hlate c hc)
  let s' : LoopState := LoopState.record { lossyStart.startIteration with
    lastSubmit := some r.submit
    lastPropagation := some r.propagation
    lastSubscribe := some r.subscribe
    world := w' } ⟨0, none, some ([("ws://a", 0)], .finished w'.now (.ok r))⟩
  have hturn : lossyTurn cancel lossyStart =
      closeIteration lossyConfig cancel 0 s'.world.now s' := by
    have hbody : bodyTurn (cycle lossyEnv 1 lossyConfig) lossyConfig cancel 0 0 none 0
        (iterationTag 0) lossyStart.startIteration =
          closeIteration lossyConfig cancel 0 0 s' := by
      unfold bodyTurn
      rw [show select cancel (cycle lossyEnv 1 lossyConfig 0 (iterationTag 0)
        lossyStart.startIteration.endpoints) lossyStart.startIteration.world = _ from hselect]
      rfl
    rw [show s'.world.now = 0 from hnow, ← hbody]
    rfl
  refine ⟨_, hturn.trans ((lossy_close 0).2 hlate), ?_⟩
  refine ⟨hdials, ?_, rfl, rfl, rfl, fun hlt => absurd hlt (Nat.lt_irrefl 1)⟩
  change w'.now + 1000000000 = _
  rw [hnow]

/-- The run up to the `k`-th iteration. -/
theorem lossy_reaches (hk : 0 < k) (hsmall : k ≤ 4294967296)
    (hcancel : ∀ c, cancel = some c → k * 1000000000 < c) :
    ∃ s, Reaches (lossyTurn cancel) lossyStart s ∧ Lossy k s := by
  induction k, hk using Nat.le_induction with
  | base =>
      obtain ⟨s, hturn, hlossy⟩ := lossy_first (by simpa using hcancel)
      exact ⟨s, Relation.ReflTransGen.single hturn, hlossy⟩
  | succ k hk ih =>
      have hbefore : ∀ c, cancel = some c → k * 1000000000 < c := fun c hc =>
        Nat.lt_of_le_of_lt (Nat.mul_le_mul_right _ (Nat.le_succ k)) (hcancel c hc)
      obtain ⟨s, hreach, hlossy⟩ := ih (by omega) hbefore
      obtain ⟨s', hturn, hlossy'⟩ := hlossy.next hk (by omega) hcancel
      exact ⟨s', hreach.tail hturn, hlossy'⟩

end Lossy

/-- One nanosecond before the sleep after iteration `2 ^ 32` would end. -/
def lossyCancel : Instant := 4294967296 * 1000000000 - 1

/-- **The counter wraps.**  `cancel` fires during the sleep after iteration
`2 ^ 32`, none of them interrupted, and the report says that no iteration has
been completed. -/
theorem loop_counter_wraps : ∃ fuel out report,
    runLoop lossyEnv 1 (connector ["ws://a"]) lossyConfig (some lossyCancel) fuel
        (Stream'.const 0) lossyWorld = some (.ok out) ∧
      out.report = some report ∧ out.history.length = 4294967296 ∧
      interruptions out.history = 0 ∧ report.iterationsCompleted = 0 := by
  have hlate : ∀ c, some lossyCancel = some c → 4294967295 * 1000000000 < c := by
    intro c hc
    obtain rfl := Option.some.inj hc
    decide
  obtain ⟨s, hreach, hlossy⟩ := lossy_reaches (k := 4294967295) (by decide) (by decide) hlate
  obtain ⟨s', hturn, -, hnow, hcounter, -, it, hwhole, hhistory⟩ :=
    lossy_reconnect hlossy.dials (hlossy.pos (by decide) (by decide))
      fun c hc => hlossy.now ▸ hlate c hc
  have hfires : lossyCancel ≤ s'.world.now + 1000000000 := by
    rw [hnow, hlossy.now]
    decide
  have hstop := hturn.trans ((lossy_close 0).1 lossyCancel rfl hfires)
  obtain ⟨fuel, hrun⟩ := returns_of_reaches hreach hstop
  refine ⟨fuel, (s'.count.sleepUntil (max s'.world.now lossyCancel)).stop 0 .cancelled, _, ?_,
    rfl, ?_, ?_, ?_⟩
  · have hloop : runLoop lossyEnv 1 (connector ["ws://a"]) lossyConfig (some lossyCancel) fuel
        (Stream'.const 0) lossyWorld =
          (run (lossyTurn (some lossyCancel)) fuel lossyStart).map .ok := rfl
    rw [hloop, hrun]
    rfl
  · change s'.history.length = _
    rw [hhistory, List.length_append, hlossy.length]
    rfl
  · change interruptions s'.history = 0
    rw [hhistory, interruptions, List.countP_append, List.countP_singleton, hwhole]
    exact hlossy.whole
  · change s'.iterationsCompleted + 1 = 0
    rw [hcounter, hlossy.counter]
    decide

end StatementStore
