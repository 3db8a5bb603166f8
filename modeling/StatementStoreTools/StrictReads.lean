import StatementStoreTools.AssertOnceVerdict
import StatementStoreTools.DrainAgreement

/-!
# The strict read and the plain read

`run_assert_once_read` collects the initial dump and watches the live stream;
`run_single_read` counts the dump and, under a pinned topic, waits for one live
event if the dump was empty.

* `assertOnce_passes_single` — a subscription that passes the strict read also
  passes the plain one, as long as no live event is empty;
* `assertOnce_verdict_iff` — the strict read comes to a verdict exactly when the
  live events pause, close or fail at some point.  A watch starts its window
  anew with every event, so on a stream that never pauses it does not end, not
  even with two statements received (`assertOnce_endless`).
-/

namespace StatementStore

open TimedStreams

/-- Every event after the boundary of the dump carries a statement. -/
def LiveEventsCarry (window : Duration) (s : EventStream) : Prop :=
  ∀ b, DumpEndsAt window s b → ∀ i ev, b < i → DeliversAt window s i ev → ev.statements ≠ []

section Reads

variable {window : Duration} {s : EventStream} {fuel b n : Nat} {rpc : Handle} {topic : Bytes32}
  {config : SubscribeConfig} {w w' : World}

/-! ## A strict pass is a plain pass -/

theorem drainInitialBatch_of_boundary (h : DumpEndsAt window s b) :
    ∃ fuel drain, drainInitialBatch fuel window s = some drain ∧
      drain.result = .ok (payloads s (b + 1)).length ∧ drain.rest = s.drop (b + 1) := by
  obtain ⟨fuel, dump, hdump, hok, hdrop⟩ := collectInitialDump_of_boundary h
  obtain ⟨drain, hdrain, hsame, hrest, -⟩ := drain_of_dump hdump
  exact ⟨fuel, drain, hdrain, hsame.ok_iff.mpr ⟨_, hok, rfl⟩, hrest.trans hdrop⟩

/-- The live event that the plain read waits for when the dump was empty. -/
theorem ReadPasses.first_live (h : ReadPasses window (.ok s)) (hend : DumpEndsAt window s b)
    (hempty : payloads s (b + 1) = []) : ∃ ev, DeliversAt window s (b + 1) ev := by
  obtain ⟨s', b', last, hopen, hend', hwatch, hone⟩ := h
  obtain rfl := Except.ok.inj hopen
  obtain rfl := hend.unique hend'
  rcases Nat.lt_or_eq_of_le hwatch.1 with hlt | rfl
  · exact hwatch.2.1 (b + 1) (Nat.le_refl _) hlt
  · rw [hempty] at hone
    cases hone

/-- The subscription that a read on `rpc` opens. -/
def subscription (rpc : Handle) (w : World) : Except String EventStream :=
  (w.conns rpc).subscriptions.head.2

/-- On a subscription that passes the strict read, the plain read ends well. -/
theorem runSingleRead_of_passes (hpinned : config.topicOverride.isSome = true)
    (hopen : subscription rpc w = .ok s)
    (hpass : ReadPasses (Duration.fromMillis config.drainTimeoutMs) (.ok s))
    (hlive : LiveEventsCarry (Duration.fromMillis config.drainTimeoutMs) s) :
    ∃ fuel elapsed w', runSingleRead fuel rpc topic config w = some ((.ok (), elapsed), w') := by
  obtain ⟨s', b, last, hopen', hend, -⟩ := id hpass
  obtain rfl := Except.ok.inj hopen'
  obtain ⟨fuel, drain, hdrain, hcount, hrest⟩ := drainInitialBatch_of_boundary hend
  have hsub : (subscribeTopic rpc (readFilter topic) w).1 = .ok s := hopen
  refine ⟨fuel, ?_⟩
  simp only [runSingleRead, singleTopicFilter_read]
  rcases hworld : subscribeTopic rpc (readFilter topic) w with ⟨answer, w₁⟩
  rw [hworld] at hsub
  subst hsub
  simp only [hdrain, Option.map_some, hcount]
  by_cases hempty : payloads s (b + 1) = []
  · obtain ⟨ev, hev⟩ := hpass.first_live hend hempty
    have hcarry := hlive b hend (b + 1) ev (Nat.lt_succ_self b) hev
    have hnext : (nextStatementBatch (Duration.fromMillis config.drainTimeoutMs)
        (s.drop (b + 1))).result = .ok ev.statements.length :=
      (nextStatementBatch_ok _ s (b + 1) _).mpr ⟨ev, hev, rfl⟩
    have hsome : ev.statements.length ≠ 0 := fun hzero =>
      hcarry (List.eq_nil_of_length_eq_zero hzero)
    simp only [hempty, List.length_nil, Nat.lt_irrefl, if_false, hpinned, if_true, hrest, hnext,
      hsome]
    exact ⟨_, _, rfl⟩
  · rw [if_pos (List.length_pos_iff.mpr hempty)]
    exact ⟨_, _, rfl⟩

/-- **The strict read is stricter.**  What it passes the plain read with the same
topic passes too. -/
theorem assertOnce_passes_single {elapsed : Duration} (hpinned : config.topicOverride = some topic)
    (hlive : ∀ s, subscription rpc w = .ok s →
      LiveEventsCarry (Duration.fromMillis config.drainTimeoutMs) s)
    (h : runAssertOnceRead fuel rpc topic config w = some ((.ok (), elapsed), w')) :
    ∃ fuel elapsed w', runSingleRead fuel rpc topic config w = some ((.ok (), elapsed), w') := by
  have hpass := (runAssertOnceRead_spec h).2.mp rfl
  cases hopen : subscription rpc w with
  | error e =>
      obtain ⟨s, -, -, hok, -⟩ := hpass
      rw [subscription, hok] at hopen
      cases hopen
  | ok s =>
      rw [subscription] at hopen
      rw [hopen] at hpass
      exact runSingleRead_of_passes (by rw [hpinned]; rfl) hopen hpass (hlive s hopen)

/-- An empty dump, one live statement, then silence. -/
def liveOnce : EventStream :=
  Stream'.cons (.item 0 (.ok (.newStatements [] (some 0))))
    (Stream'.cons (.item 0 (.ok (.newStatements [[1, 2, 3]] none))) (Stream'.const .silent))

theorem liveOnce_carries (window : Duration) : LiveEventsCarry window liveOnce := by
  intro b hend i ev hi hev
  have hzero : b = 0 := by
    by_contra hne
    obtain ⟨ev', hev', hgo⟩ := hend.1 0 (Nat.pos_of_ne_zero hne)
    have hfirst : ev' = .newStatements [] (some 0) := by
      have hitem : liveOnce.head.item? = some (.ok ev') := Poll.item?_of_within hev'
      exact (Except.ok.inj (Option.some.inj hitem)).symm
    subst hfirst
    cases hgo
  subst hzero
  have hitem : (liveOnce.get i).item? = some (.ok ev) := Poll.item?_of_within hev
  match i, hi with
  | 1, _ =>
      obtain rfl := Except.ok.inj (Option.some.inj hitem)
      exact List.cons_ne_nil _ _
  | k + 2, _ => cases hitem

theorem assertOnce_passes_single_liveOnce :
    ∃ fuel elapsed w', runSingleRead fuel 0 (Vector.replicate 32 1) twoReads
      (steadyWorld (.ok liveOnce) (.ok .new)) = some ((.ok (), elapsed), w') := by
  have hrun : ∃ elapsed w', runAssertOnceRead 3 0 (Vector.replicate 32 1) twoReads
      (steadyWorld (.ok liveOnce) (.ok .new)) = some ((.ok (), elapsed), w') := ⟨_, _, rfl⟩
  obtain ⟨elapsed, w', hrun⟩ := hrun
  refine assertOnce_passes_single rfl (fun s hopen => ?_) hrun
  obtain rfl := Except.ok.inj hopen
  exact liveOnce_carries _

/-! ## When the strict read comes to a verdict -/

/-- After the boundary at poll `b` the events never pause. -/
def Endless (window : Duration) (s : EventStream) (b : Nat) : Prop :=
  ∀ n, b < n → ∃ ev, DeliversAt window s n ev

/-- Such a watch does not end. -/
theorem collectUntilIdle_endless (h : Endless window s b) (fuel : Nat) :
    collectUntilIdle fuel window (s.drop (b + 1)) = none := by
  cases hwatch : collectUntilIdle fuel window (s.drop (b + 1)) with
  | none => rfl
  | some watch =>
      obtain ⟨n, acc, -, hend, -⟩ := Reader.read_some hwatch
      obtain ⟨⟨statements, remaining⟩, hev⟩ := h (b + 1 + n) (by omega)
      rw [Stream'.get_drop, Reader.ending, hev] at hend
      cases hend

/-- **A stream that never pauses** keeps the strict read from ever ending. -/
theorem runAssertOnceRead_endless (hopen : subscription rpc w = .ok s)
    (hend : DumpEndsAt (Duration.fromMillis config.drainTimeoutMs) s b)
    (hendless : Endless (Duration.fromMillis config.drainTimeoutMs) s b) (fuel : Nat) :
    runAssertOnceRead fuel rpc topic config w = none := by
  have hsub : (subscribeTopic rpc (readFilter topic) w).1 = .ok s := hopen
  simp only [runAssertOnceRead, singleTopicFilter_read]
  rcases hworld : subscribeTopic rpc (readFilter topic) w with ⟨answer, w₁⟩
  rw [hworld] at hsub
  subst hsub
  dsimp only
  cases hdump : collectInitialDump fuel (Duration.fromMillis config.drainTimeoutMs) s with
  | none => rfl
  | some dump =>
      obtain ⟨fuel', dump', hrun, hok, hrest⟩ := collectInitialDump_of_boundary hend
      obtain rfl := Reader.read_unique hrun hdump
      simp only [Option.bind_some, hok, hrest, collectUntilIdle_endless hendless, Option.map_none]

/-- A pause after the boundary lets it end. -/
theorem runAssertOnceRead_returns (topic : Bytes32) (hopen : subscription rpc w = .ok s)
    (hend : DumpEndsAt (Duration.fromMillis config.drainTimeoutMs) s b) (hn : b < n)
    (hpause : ¬ ∃ ev, DeliversAt (Duration.fromMillis config.drainTimeoutMs) s n ev) :
    ∃ fuel out, runAssertOnceRead fuel rpc topic config w = some out := by
  obtain ⟨fuel, watch, hwatch⟩ :=
    collectUntilIdle_returns_of_pause (Nat.succ_le_of_lt hn) hpause
  have hsub : (subscribeTopic rpc (readFilter topic) w).1 = .ok s := hopen
  obtain ⟨t, hdump⟩ := collectInitialDump_within hend
    (show b < max fuel (b + 1) by exact Nat.lt_of_lt_of_le (Nat.lt_succ_self b) (le_max_right _ _))
  have hwatch' : collectUntilIdle (max fuel (b + 1)) (Duration.fromMillis config.drainTimeoutMs)
      (s.drop (b + 1)) = some watch := Loops.run_mono (le_max_left _ _) hwatch
  refine ⟨max fuel (b + 1), ?_⟩
  simp only [runAssertOnceRead, singleTopicFilter_read]
  rcases hworld : subscribeTopic rpc (readFilter topic) w with ⟨answer, w₁⟩
  rw [hworld] at hsub
  subst hsub
  simp only [hdump, Option.bind_some, hwatch', Option.map_some]
  exact ⟨_, rfl⟩

/-- With two statements received before any pause, no read passes. -/
theorem not_readPasses_of_two (hall : ∀ i < n, ∃ ev, DeliversAt window s i ev)
    (htwo : 2 ≤ (payloads s n).length) : ¬ ReadPasses window (.ok s) := by
  intro hpass
  obtain ⟨s', b, last, hopen, hend, hwatch, hone⟩ := hpass
  obtain rfl := Except.ok.inj hopen
  have hle : n ≤ last := by
    by_contra hlt
    obtain ⟨ev, hev⟩ := hall last (Nat.lt_of_not_le hlt)
    rw [DeliversAt] at hev
    rcases hwatch.2.2 with hstop | hstop
    · rw [hev] at hstop
      cases hstop
    · rw [hev] at hstop
      cases hstop
  obtain ⟨k, rfl⟩ := Nat.exists_eq_add_of_le hle
  rw [payloads_drop, List.length_append] at hone
  omega

/-- The strict read ends, and fails if two statements came before any pause. -/
def ComesToVerdict (rpc : Handle) (topic : Bytes32) (config : SubscribeConfig) (w : World)
    (s : EventStream) : Prop :=
  ∃ fuel outcome elapsed w',
    runAssertOnceRead fuel rpc topic config w = some ((outcome, elapsed), w') ∧
      ∀ n, (∀ i < n, ∃ ev, DeliversAt (Duration.fromMillis config.drainTimeoutMs) s i ev) →
        2 ≤ (payloads s n).length → ∃ e, outcome = .error e

/-- **When the strict read comes to a verdict**: exactly when, at some poll after
the initial dump, no event comes within the window. -/
theorem assertOnce_verdict_iff (topic : Bytes32) (hopen : subscription rpc w = .ok s)
    (hend : DumpEndsAt (Duration.fromMillis config.drainTimeoutMs) s b) :
    ComesToVerdict rpc topic config w s ↔
      ∃ n, b < n ∧ ¬ ∃ ev, DeliversAt (Duration.fromMillis config.drainTimeoutMs) s n ev := by
  constructor
  · intro h
    obtain ⟨fuel, outcome, elapsed, w', hrun, -⟩ := h
    by_contra hnone
    have hendless : Endless (Duration.fromMillis config.drainTimeoutMs) s b := by
      intro n hn
      by_contra hpause
      exact hnone ⟨n, hn, hpause⟩
    rw [runAssertOnceRead_endless hopen hend hendless] at hrun
    cases hrun
  · intro h
    obtain ⟨n, hn, hpause⟩ := h
    obtain ⟨fuel, ⟨⟨outcome, elapsed⟩, w'⟩, hrun⟩ :=
      runAssertOnceRead_returns topic hopen hend hn hpause
    refine ⟨fuel, outcome, elapsed, w', hrun, fun m hall htwo => ?_⟩
    cases outcome with
    | error e => exact ⟨e, rfl⟩
    | ok u =>
        have hpass := (runAssertOnceRead_spec hrun).2.mp rfl
        rw [subscription] at hopen
        rw [hopen] at hpass
        exact absurd hpass (not_readPasses_of_two hall htwo)

end Reads

/-- One statement in the dump, then the same statement for ever, half a
millisecond apart. -/
def redelivered : EventStream :=
  Stream'.cons (.item 0 (.ok (.newStatements [[7, 7]] (some 0))))
    (Stream'.const (.item 500000 (.ok (.newStatements [[7, 7]] none))))

theorem redelivered_delivers (n : Nat) :
    DeliversAt (Duration.fromMillis twoReads.drainTimeoutMs) redelivered (n + 1)
      (.newStatements [[7, 7]] none) := by
  have hpoll : redelivered.get (n + 1) = .item 500000 (.ok (.newStatements [[7, 7]] none)) := rfl
  have hfits : Fits 500000 (Duration.fromMillis twoReads.drainTimeoutMs) := by decide
  rw [DeliversAt, hpoll, Poll.within, if_pos hfits]

theorem redelivered_endless :
    DumpEndsAt (Duration.fromMillis twoReads.drainTimeoutMs) redelivered 0 ∧
      Endless (Duration.fromMillis twoReads.drainTimeoutMs) redelivered 0 := by
  refine ⟨⟨fun i hi => absurd hi (Nat.not_lt_zero i), _, rfl, rfl⟩, fun n hn => ?_⟩
  obtain ⟨k, rfl⟩ := Nat.exists_eq_succ_of_ne_zero (Nat.ne_of_gt hn)
  exact ⟨_, redelivered_delivers k⟩

theorem assertOnce_verdict_iff_liveOnce :
    ComesToVerdict 0 (Vector.replicate 32 1) twoReads
        (steadyWorld (.ok liveOnce) (.ok .new)) liveOnce ↔
      ∃ n, 0 < n ∧
        ¬ ∃ ev, DeliversAt (Duration.fromMillis twoReads.drainTimeoutMs) liveOnce n ev :=
  assertOnce_verdict_iff _ rfl ⟨fun i hi => absurd hi (Nat.not_lt_zero i), _, rfl, rfl⟩

/-- A node that delivers one statement over and over: the dump is complete, two
copies have come, and the read does not end. -/
theorem assertOnce_endless :
    DumpEndsAt (Duration.fromMillis twoReads.drainTimeoutMs) redelivered 0 ∧
      2 ≤ (payloads redelivered 2).length ∧
      ¬ ∃ fuel out, runAssertOnceRead fuel 0 (Vector.replicate 32 1) twoReads
        (steadyWorld (.ok redelivered) (.ok .new)) = some out := by
  refine ⟨redelivered_endless.1, by decide, fun hgiven => ?_⟩
  obtain ⟨fuel, out, hrun⟩ := hgiven
  rw [runAssertOnceRead_endless rfl redelivered_endless.1 redelivered_endless.2] at hrun
  cases hrun

end StatementStore
