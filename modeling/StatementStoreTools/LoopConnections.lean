import StatementStoreTools.LoopCounters

/-!
# Connections, bodies and the last reports of the loop

What the endpoint variable holds when the connector is called and when the body
runs, and which cycle the last reports are from, over arbitrary mixtures of
good cycles, failed reconnects and a cancellation: `loop_connections`.

The loop recognises its first iteration by `iterations_completed > 0`, so this
holds up to the iteration with which the counter comes back to `0`.
-/

namespace StatementStore

open Loops

/-- A reconnect that has failed. -/
def Iteration.lost (it : Iteration) : Bool :=
  it.reconnect.any fun p => match p.2 with
    | .finished _ (.error _) => true
    | _ => false

/-- Over, and neither interrupted by `cancel` nor lost to its reconnect. -/
def Iteration.survived (it : Iteration) : Bool :=
  !it.pending && !it.interrupted && !it.lost

/-- What holds of the connections and the bodies of a history; `endpoints` are
those of the initial connect. -/
structure ConnectionLaws (config : LoopConfig) (endpoints : Endpoints)
    (history : List Iteration) : Prop where
  bodies : ∀ it ∈ history, ∀ eps at_ out, it.body = some (eps, .finished at_ out) →
    ∃ r, out = .ok r
  nonempty : ∀ it ∈ history, ∀ eps a, it.body = some (eps, a) → eps ≠ []
  first : ∀ it ∈ history.head?, it.reconnect = none ∧
    ∀ eps a, it.body = some (eps, a) → eps = endpoints
  reconnected : config.newConnectionPerIteration = true → ∀ it ∈ history.tail,
    ∃ a, it.reconnect = some ([], a) ∧
      ∀ eps b, it.body = some (eps, b) → ∃ at_, a = .finished at_ (.ok eps)
  reused : config.newConnectionPerIteration = false → ∀ it ∈ history,
    it.reconnect = none ∧ ∀ eps a, it.body = some (eps, a) → eps = endpoints

/-- The last reports are those of the latest iteration that has survived, all
three of them, or there is none. -/
def LatestReports (history : List Iteration) (last : LastReports) : Prop :=
  match (history.filter Iteration.survived).getLast? with
  | none => last = (none, none, none)
  | some it => ∃ r, it.reports = some r ∧ last = r.last

/-! ## One iteration more -/

section Turns

variable {connector : Future Endpoints} {work : UInt64 → String → Endpoints → Future CycleReport}
  {config : LoopConfig} {cancel : Option Instant} {begun : Instant} {s s' : LoopState}
  {it : Iteration} {endpoints : Endpoints}

/-- The connector returns no empty list, and the body does not fail on one that
is not empty. -/
structure Sound (connector : Future Endpoints)
    (work : UInt64 → String → Endpoints → Future CycleReport) : Prop where
  connector : ∀ {w eps w'}, connector.run w = some (.ok eps, w') → eps ≠ []
  work : ∀ {runId tag eps w out w'}, eps ≠ [] → (work runId tag eps).run w = some (out, w') →
    ∃ r, out = .ok r

/-- The invariant of the loop head. -/
structure Linked (config : LoopConfig) (endpoints : Endpoints) (s : LoopState) : Prop where
  counter : s.iterationsCompleted.toNat = s.history.length % 2 ^ 32
  laws : s.history.length ≤ 2 ^ 32 → ConnectionLaws config endpoints s.history
  latest : s.history.length ≤ 2 ^ 32 → LatestReports s.history s.last
  start : s.history = [] → s.endpoints = endpoints
  kept : config.newConnectionPerIteration = false → s.endpoints = endpoints

theorem linked_initial (config : LoopConfig) (endpoints : Endpoints)
    (entropy : Stream' UInt64) (w : World) :
    Linked config endpoints (.initial endpoints entropy w) where
  counter := rfl
  laws _ := ⟨fun it hit => (by cases hit), fun it hit => (by cases hit),
    fun it hit => (by cases hit), fun _ it hit => (by cases hit), fun _ it hit => (by cases hit)⟩
  latest _ := rfl
  start _ := rfl
  kept _ := rfl

/-- Up to the `2 ^ 32`-th iteration the counter tells the first one apart. -/
theorem Linked.first (h : Linked config endpoints s) (hlen : s.history.length < 2 ^ 32) :
    0 < s.iterationsCompleted ↔ s.history ≠ [] := by
  rw [UInt32.lt_iff_toNat_lt, h.counter, Nat.mod_eq_of_lt hlen, ← List.length_pos_iff]
  rfl

/-- Without a reconnect the body runs with the endpoints of the initial
connect. -/
theorem Linked.initial (h : Linked config endpoints s) (hlen : s.history.length < 2 ^ 32)
    (hran : Ran connector work config cancel s it s') (hnone : it.reconnect = none) :
    s.endpoints = endpoints := by
  have hnot := (not_congr hran.reconnects).mp (by simp [hnone])
  rw [h.first hlen] at hnot
  cases hnew : config.newConnectionPerIteration with
  | false => exact h.kept hnew
  | true =>
      by_contra hne
      exact hnot ⟨hnew, fun hnil => hne (h.start hnil)⟩

theorem Linked.body_nonempty (h : Linked config endpoints s) (hsound : Sound connector work)
    (hne : endpoints ≠ []) (hlen : s.history.length < 2 ^ 32)
    (hran : Ran connector work config cancel s it s') {eps : Endpoints} {a : Attempt CycleReport}
    (hbody : it.body = some (eps, a)) : eps ≠ [] := by
  rcases hran.used hbody with ⟨hnone, heps⟩ | ⟨held, at_, hsome⟩
  · rw [heps, h.initial hlen hran hnone]
    exact hne
  · obtain ⟨w, w', hrun⟩ := hran.answered hsome
    exact hsound.connector hrun

theorem Linked.body_ok (h : Linked config endpoints s) (hsound : Sound connector work)
    (hne : endpoints ≠ []) (hlen : s.history.length < 2 ^ 32)
    (hran : Ran connector work config cancel s it s') {eps : Endpoints} {at_ : Instant}
    {out : Except String CycleReport} (hbody : it.body = some (eps, .finished at_ out)) :
    ∃ r, out = .ok r := by
  obtain ⟨runId, tag, w, w', hrun⟩ := hran.ran hbody
  exact hsound.work (h.body_nonempty hsound hne hlen hran hbody) hrun

/-- When no reconnect is due, none is made, and the body runs with the endpoints
that the loop has. -/
theorem Ran.unreconnected (hran : Ran connector work config cancel s it s')
    (hnot : ¬ (config.newConnectionPerIteration = true ∧ 0 < s.iterationsCompleted)) :
    it.reconnect = none ∧ ∀ eps a, it.body = some (eps, a) → eps = s.endpoints := by
  have hnone : it.reconnect = none := by
    rw [← Option.not_isSome_iff_eq_none, hran.reconnects]
    exact hnot
  refine ⟨hnone, fun eps a hbody => ?_⟩
  rcases hran.used hbody with ⟨-, heps⟩ | ⟨held, at_, hsome⟩
  · exact heps
  · cases hnone.symm.trans hsome

/-- When one is due, it is made, and the body runs with the endpoints it has
brought. -/
theorem Ran.reconnected (hran : Ran connector work config cancel s it s')
    (hdue : config.newConnectionPerIteration = true ∧ 0 < s.iterationsCompleted) :
    ∃ a, it.reconnect = some ([], a) ∧
      ∀ eps b, it.body = some (eps, b) → ∃ at_, a = .finished at_ (.ok eps) := by
  obtain ⟨⟨held, a⟩, hsome⟩ := Option.isSome_iff_exists.mp (hran.reconnects.mpr hdue)
  obtain rfl := hran.held hsome
  refine ⟨a, hsome, fun eps b hbody => ?_⟩
  rcases hran.used hbody with ⟨hnone, -⟩ | ⟨held, at_, hsome'⟩
  · cases hnone.symm.trans hsome
  · obtain ⟨-, rfl⟩ := Prod.mk.inj (Option.some.inj (hsome.symm.trans hsome'))
    exact ⟨at_, rfl⟩

/-- **One more iteration keeps the laws of the connections.** -/
theorem Linked.laws_ran (h : Linked config endpoints s) (hsound : Sound connector work)
    (hne : endpoints ≠ []) (hlen : s.history.length < 2 ^ 32)
    (hran : Ran connector work config cancel s it s') :
    ConnectionLaws config endpoints s'.history := by
  have hlaws := h.laws (Nat.le_of_lt hlen)
  rw [hran.history]
  refine ⟨?_, ?_, ?_, ?_, ?_⟩
  · intro i hi eps at_ out hbody
    rcases List.mem_append.mp hi with hi | hi
    · exact hlaws.bodies i hi eps at_ out hbody
    · obtain rfl := List.mem_singleton.mp hi
      exact h.body_ok hsound hne hlen hran hbody
  · intro i hi eps a hbody
    rcases List.mem_append.mp hi with hi | hi
    · exact hlaws.nonempty i hi eps a hbody
    · obtain rfl := List.mem_singleton.mp hi
      exact h.body_nonempty hsound hne hlen hran hbody
  · intro i hi
    by_cases hnil : s.history = []
    · rw [hnil] at hi
      obtain rfl : it = i := by simpa using hi
      have hnot : ¬ (config.newConnectionPerIteration = true ∧ 0 < s.iterationsCompleted) := by
        rw [h.first hlen]
        exact fun hdue => hdue.2 hnil
      rw [← h.start hnil]
      exact hran.unreconnected hnot
    · rw [List.head?_append_of_ne_nil _ hnil] at hi
      exact hlaws.first i hi
  · intro hnew i hi
    by_cases hnil : s.history = []
    · rw [hnil] at hi
      cases hi
    · rw [List.tail_append_of_ne_nil hnil] at hi
      rcases List.mem_append.mp hi with hi | hi
      · exact hlaws.reconnected hnew i hi
      · obtain rfl := List.mem_singleton.mp hi
        exact hran.reconnected ⟨hnew, (h.first hlen).mpr hnil⟩
  · intro hoff i hi
    rcases List.mem_append.mp hi with hi | hi
    · exact hlaws.reused hoff i hi
    · obtain rfl := List.mem_singleton.mp hi
      have hnot : ¬ (config.newConnectionPerIteration = true ∧ 0 < s.iterationsCompleted) := by
        rw [hoff]
        exact fun hdue => by cases hdue.1
      rw [← h.kept hoff]
      exact hran.unreconnected hnot

/-- An iteration has survived exactly when its body has reports. -/
theorem Ran.survived_eq (hran : Ran connector work config cancel s it s')
    (hok : ∀ eps at_ out, it.body = some (eps, .finished at_ out) → ∃ r, out = .ok r) :
    it.survived = it.reports.isSome := by
  rcases it with ⟨start, reconnect, _ | ⟨eps, a⟩⟩
  · obtain ⟨held, a, hsome, hvalue⟩ := hran.bodyless.mp rfl
    obtain rfl : reconnect = some (held, a) := hsome
    rcases a with _ | at_ | ⟨at_, e | eps⟩
    · rfl
    · rfl
    · rfl
    · cases hvalue
  · have hover : reconnect = none ∨
        ∃ held at_ eps, reconnect = some (held, .finished at_ (.ok eps)) := by
      rcases hran.used rfl with ⟨hnone, -⟩ | ⟨held, at_, hsome⟩
      · exact Or.inl hnone
      · exact Or.inr ⟨held, at_, eps, hsome⟩
    rcases a with _ | at_ | ⟨at_, e | r⟩
    · rcases hover with rfl | ⟨held, at_, eps, rfl⟩ <;> rfl
    · rcases hover with rfl | ⟨held, at_, eps, rfl⟩ <;> rfl
    · obtain ⟨r, hr⟩ := hok _ _ _ rfl
      cases hr
    · rcases hover with rfl | ⟨held, at_, eps, rfl⟩ <;> rfl

/-- The latest reports after one more iteration. -/
theorem LatestReports.snoc {history : List Iteration} {last : LastReports}
    (h : LatestReports history last) (hsurvived : it.survived = it.reports.isSome) :
    LatestReports (history ++ [it]) ((it.reports.map CycleReport.last).getD last) := by
  unfold LatestReports at h ⊢
  cases hreports : it.reports with
  | none =>
      have hgone : [it].filter Iteration.survived = [] := by simp [hsurvived, hreports]
      rw [List.filter_append, hgone, List.append_nil]
      exact h
  | some r =>
      have hkept : [it].filter Iteration.survived = [it] := by simp [hsurvived, hreports]
      rw [List.filter_append, hkept, List.getLast?_append]
      exact ⟨r, hreports, rfl⟩

theorem Linked.latest_ran (h : Linked config endpoints s) (hsound : Sound connector work)
    (hne : endpoints ≠ []) (hlen : s.history.length < 2 ^ 32)
    (hran : Ran connector work config cancel s it s') : LatestReports s'.history s'.last := by
  rw [hran.history, hran.last]
  refine (h.latest (Nat.le_of_lt hlen)).snoc (hran.survived_eq ?_)
  intro eps at_ out hbody
  exact h.body_ok hsound hne hlen hran hbody

/-- Closing an iteration, the loop goes round again. -/
theorem Linked.next (h : Linked config endpoints s) (hsound : Sound connector work)
    (hne : endpoints ≠ []) (hran : Ran connector work config cancel s it s') {s'' : LoopState}
    (hclosed : Closed s' s'') : Linked config endpoints s'' := by
  have hlen := hclosed.length hran
  refine ⟨hclosed.counter hran h.counter, ?_, ?_, ?_, ?_⟩
  · intro hle
    rw [hclosed.history]
    exact h.laws_ran hsound hne (by omega) hran
  · intro hle
    rw [hclosed.history, hclosed.last]
    exact h.latest_ran hsound hne (by omega) hran
  · intro hnil
    rw [hclosed.history, hran.history] at hnil
    cases List.append_eq_nil_iff.mp hnil |>.2
  · intro hoff
    rw [hclosed.endpoints, hran.kept hoff, h.kept hoff]

/-- What holds at the end of a run. -/
def EndLaws (config : LoopConfig) (endpoints : Endpoints) (e : LoopEnd) : Prop :=
  e.history.length ≤ 2 ^ 32 → ConnectionLaws config endpoints e.history ∧
    ∀ report, e.report = some report → LatestReports e.history report.last

/-- Stopping with the history and the reports of an iteration that has run. -/
theorem Linked.stopped_ran (h : Linked config endpoints s) (hsound : Sound connector work)
    (hne : endpoints ≠ []) (hran : Ran connector work config cancel s it s') {t : LoopState}
    (hhistory : t.history = s'.history) (hlast : t.last = s'.last) (reason : LoopStopReason) :
    EndLaws config endpoints (t.stop begun reason) := by
  intro hle
  change t.history.length ≤ 2 ^ 32 at hle
  have hlen : s.history.length < 2 ^ 32 := by
    rw [hhistory, hran.length] at hle
    exact hle
  change ConnectionLaws config endpoints t.history ∧ _
  rw [hhistory]
  refine ⟨h.laws_ran hsound hne hlen hran, fun report hreport => ?_⟩
  obtain rfl := Option.some.inj hreport
  change LatestReports t.history t.last
  rw [hhistory, hlast]
  exact h.latest_ran hsound hne hlen hran

/-- **One turn.**  It keeps the invariant of the loop head, or it ends in
keeping with the laws. -/
theorem Linked.turn (h : Linked config endpoints s) (hsound : Sound connector work)
    (hne : endpoints ≠ []) :
    (∀ s', loopTurn connector work config cancel begun s = .inl s' →
      Linked config endpoints s') ∧
    ∀ e, loopTurn connector work config cancel begun s = .inr e → EndLaws config endpoints e := by
  apply loopTurn_rule (Linked config endpoints) (EndLaws config endpoints)
  case stopped =>
    intro reason _ hle
    refine ⟨h.laws hle, fun report hreport => ?_⟩
    obtain rfl := Option.some.inj hreport
    exact h.latest hle
  case waits =>
    intro it s' hran hle
    have hlen : s.history.length < 2 ^ 32 := by
      change s'.history.length ≤ 2 ^ 32 at hle
      rwa [hran.length] at hle
    exact ⟨h.laws_ran hsound hne hlen hran, fun report hreport => by cases hreport⟩
  case interrupted =>
    intro _ it s' hran _ _
    exact h.stopped_ran hsound hne hran rfl rfl .cancelled
  case closed =>
    intro _ it s' s'' reason hran _ hclosed _
    exact h.stopped_ran hsound hne hran hclosed.history hclosed.last reason
  case next =>
    intro _ it s' s'' hran _ hclosed _ _
    exact h.next hsound hne hran hclosed

end Turns

/-- **The connections of the loop.**  Over the first `2 ^ 32` iterations of any
run, at every loop head and at the end: no body fails, no body runs with no
endpoints or with those of an earlier cycle when every cycle is to have its
own, the connector is called once for every iteration after the first (or never
again) with nothing still held, and the last reports are those of the latest
iteration that was neither interrupted nor lost. -/
theorem loop_connections {env : OpsEnv} {cycleFuel : Nat} {connector : Future Endpoints}
    {config : LoopConfig} {cancel : Option Instant} {entropy : Stream' UInt64}
    {w w₀ : World} {endpoints : Endpoints} (hvalid : config.validate = .ok ())
    (hconnector : ∀ w eps w', connector.run w = some (.ok eps, w') → eps ≠ [])
    (hconnect : connector.run w = some (.ok endpoints, w₀)) :
    (∀ s, Reaches (loopTurn connector (cycle env cycleFuel config) config cancel w₀.now)
        (.initial endpoints entropy w₀) s → s.history.length ≤ 2 ^ 32 →
      ConnectionLaws config endpoints s.history ∧ LatestReports s.history s.last) ∧
    ∀ fuel out, runLoop env cycleFuel connector config cancel fuel entropy w = some (.ok out) →
      EndLaws config endpoints out := by
  have hne : endpoints ≠ [] := hconnector _ _ _ hconnect
  have hsound : Sound connector (cycle env cycleFuel config) :=
    ⟨fun hrun => hconnector _ _ _ hrun, fun hne hrun => (runCycle_extends hvalid hne hrun).1⟩
  have hinitial := linked_initial config endpoints entropy w₀
  constructor
  · intro s hreach hle
    have hlinked := reaches_rule (Linked config endpoints)
      (fun s s' hinv hturn => (hinv.turn hsound hne).1 s' hturn) hinitial hreach
    exact ⟨hlinked.laws hle, hlinked.latest hle⟩
  · intro fuel out hrun
    obtain ⟨-, endpoints', w₀', hconnect', -, hloop⟩ := periodicLoop_ok hrun
    obtain ⟨heq, rfl⟩ := Prod.mk.inj (Option.some.inj (hconnect.symm.trans hconnect'))
    obtain rfl := Except.ok.inj heq
    exact run_rule (Linked config endpoints) (EndLaws config endpoints)
      (fun s s' hinv hturn => (hinv.turn hsound hne).1 s' hturn)
      (fun s e hinv hturn => (hinv.turn hsound hne).2 e hturn) hinitial hloop

/-- A second iteration, with a connection of its own. -/
theorem loop_connections_twoIterations : ∃ out,
    runLoop lossyEnv 1 (connector ["ws://a"]) twoIterations none 2 (Stream'.const 0) openWorld =
        some (.ok out) ∧
      out.history.map (·.reconnect.isSome) = [false, true] ∧
        EndLaws twoIterations [("ws://a", 0)] out := by
  obtain ⟨out, report, hrun, -, hhistory⟩ := runLoop_twoIterations
  have hconnect : (connector ["ws://a"]).run openWorld =
      some (.ok [("ws://a", 0)], { openWorld with opened := 1 }) := rfl
  refine ⟨out, hrun, hhistory, ?_⟩
  exact (loop_connections rfl (fun _ _ _ hopen => connector_nonempty hopen) hconnect).2 2 out hrun

/-! ## The iteration after `2 ^ 32` others -/

section Lossy

variable {cancel : Option Instant} {s : LoopState}

def emptiness : String := "--submit-endpoints must list at least one endpoint"

/-- With no endpoints, the second phase of a cycle fails at once. -/
theorem empty_cycle (runId : UInt64) (tag : String) (w : World) :
    runCycle lossyEnv 1 lossyConfig runId tag [] w =
      some (.error emptiness, w) := rfl

/-- The iteration with which the counter is `0` again: its body runs at once,
with the empty list that the last reconnect has left. -/
theorem Lossy.wrapped (h : Lossy 4294967296 s)
    (hcancel : ∀ c, cancel = some c → s.world.now < c) :
    ∃ s' e, lossyTurn cancel s = closeIteration lossyConfig cancel 0 s'.world.now s' ∧
      s'.world.now = s.world.now ∧
      s'.history = s.history ++
        [⟨s.world.now, none, some ([], .finished s.world.now (.error e))⟩] := by
  have hcounter : s.iterationsCompleted = 0 := h.counter
  have hnil : s.endpoints = [] := h.endpoints (by decide)
  have hselect : select cancel (cycle lossyEnv 1 lossyConfig s.entropy.head
      (iterationTag s.iterationsCompleted) s.startIteration.endpoints) s.startIteration.world =
        (.finished s.world.now (.error emptiness), s.startIteration.world) := by
    rw [show s.startIteration.endpoints = [] from hnil]
    have hempty : (cycle lossyEnv 1 lossyConfig s.entropy.head
        (iterationTag s.iterationsCompleted) []).run s.startIteration.world =
          some (.error emptiness, s.startIteration.world) := empty_cycle ..
    have hdone := select_finished hempty hcancel
    exact hdone
  have hwhen : ¬ (lossyConfig.newConnectionPerIteration = true ∧
      0 < s.startIteration.iterationsCompleted) := by
    change ¬ (true = true ∧ 0 < s.iterationsCompleted)
    rw [hcounter]
    decide
  have hcheck : stopCheck lossyConfig 0 s.world.now s.iterationsCompleted = none := rfl
  refine ⟨LoopState.record { s.startIteration with
    world := s.startIteration.world.logLine
      s!"{iterationTag s.iterationsCompleted}iteration failed: {emptiness}" }
      ⟨s.world.now, none,
        some (s.startIteration.endpoints, .finished s.world.now (.error emptiness))⟩,
    emptiness, ?_, rfl, ?_⟩
  · simp only [lossyTurn, loopTurn, hcheck, if_neg hwhen, bodyTurn, hselect]
    rfl
  · rw [← hnil]
    rfl

end Lossy

/-- One nanosecond after the sleep that follows iteration `2 ^ 32`. -/
def rewoundCancel : Instant := 4294967296 * 1000000000 + 1

/-- **No reconnect, and a body without endpoints.**  `cancel` fires during the
sleep after iteration `2 ^ 32 + 1`, which was taken for the first one. -/
theorem loop_reconnect_skipped : ∃ fuel out,
    runLoop lossyEnv 1 (connector ["ws://a"]) lossyConfig (some rewoundCancel) fuel
        (Stream'.const 0) lossyWorld = some (.ok out) ∧
      ∃ before last at_ e, out.history = before ++ [last] ∧ before ≠ [] ∧
        last.reconnect = none ∧ last.body = some ([], .finished at_ (.error e)) := by
  have hlate : ∀ c, some rewoundCancel = some c → 4294967296 * 1000000000 < c := by
    intro c hc
    obtain rfl := Option.some.inj hc
    decide
  obtain ⟨s, hreach, hlossy⟩ := lossy_reaches (k := 4294967296) (by decide) (by decide) hlate
  obtain ⟨s', e, hturn, hnow, hhistory⟩ := hlossy.wrapped fun c hc => hlossy.now ▸ hlate c hc
  have hfires : rewoundCancel ≤ s'.world.now + 1000000000 := by
    rw [hnow, hlossy.now]
    decide
  have hstop := hturn.trans ((lossy_close 0).1 rewoundCancel rfl hfires)
  obtain ⟨fuel, hrun⟩ := returns_of_reaches hreach hstop
  have hloop : runLoop lossyEnv 1 (connector ["ws://a"]) lossyConfig (some rewoundCancel) fuel
      (Stream'.const 0) lossyWorld =
        (run (lossyTurn (some rewoundCancel)) fuel lossyStart).map .ok := rfl
  refine ⟨fuel, (s'.count.sleepUntil (max s'.world.now rewoundCancel)).stop 0 .cancelled, ?_,
    s.history, _, _, e, hhistory, ?_, rfl, rfl⟩
  · rw [hloop, hrun]
    rfl
  · intro hnil
    have hlen := hlossy.length
    rw [hnil] at hlen
    cases hlen

end StatementStore
