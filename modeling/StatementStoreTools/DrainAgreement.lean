import StatementStoreTools.StreamReads

/-!
# Draining and collecting agree

`drain_initial_batch` counts the statements of the initial dump and
`collect_initial_dump` keeps their payloads.  The two loops are written
separately; they are said to honour the boundary of the dump exactly alike.

`drain_and_dump_agree`: on every stream, under every timeout, both end at the
same poll or neither ends.  At the boundary one returns the number of what the
other returns; everywhere else both fail for the same cause, each in its own
words.  What is left of the stream is the same.
-/

namespace StatementStore

open TimedStreams

/-- Why the initial dump is not read to its end. -/
inductive Cause
  | timedOut
  | closed
  | streamError (e : String)
deriving DecidableEq

/-- The answer of the poll at which a read fails. -/
def Cause.answer : Cause → Next (Except String StatementEvent)
  | .timedOut => .elapsed
  | .closed => .closed
  | .streamError e => .item (.error e)

/-- The words of `drain_initial_batch`. -/
def Cause.drainText (timeout : Duration) : Cause → String
  | .timedOut => s!"Initial drain timed out after {timeout.debug}"
  | .closed => "Subscription closed before initial drain completed"
  | .streamError e => s!"Subscription stream error during initial drain: {e}"

/-- The words of `collect_initial_dump`. -/
def Cause.dumpText (timeout : Duration) : Cause → String
  | .timedOut => s!"Initial dump timed out after {timeout.debug}"
  | .closed => "Subscription closed before initial dump completed"
  | .streamError e => s!"Subscription stream error during initial dump: {e}"

/-- Poll `n` comes before the boundary and fails for `cause`. -/
def BreaksAt (timeout : Duration) (s : EventStream) (n : Nat) (cause : Cause) : Prop :=
  (∀ i < n, ∃ ev, DeliversAt timeout s i ev ∧ ev.isBoundary = false) ∧
    (s.get n).within timeout = cause.answer

/-- The stream ends: some poll meets the close or silence. -/
def StreamEnds (s : EventStream) : Prop := ∃ n, (s.get n).item? = none

/-- A count and the counted payloads, or one cause in two wordings. -/
inductive SameEnd (timeout : Duration) : Except String Nat → Except String (List Bytes) → Prop
  | counted (v : List Bytes) : SameEnd timeout (.ok v.length) (.ok v)
  | failed (cause : Cause) :
      SameEnd timeout (.error (cause.drainText timeout)) (.error (cause.dumpText timeout))

section Agreement

variable {timeout : Duration} {s : EventStream} {fuel n : Nat} {cause : Cause}

/-- **The loops run in step.** -/
theorem drain_dump_step (timeout : Duration) (s : EventStream) (fuel : Nat) :
    Option.Rel (fun drain dump => SameEnd timeout drain.result dump.result ∧
        drain.rest = dump.rest ∧ drain.spent = dump.spent)
      (drainInitialBatch fuel timeout s) (collectInitialDump fuel timeout s) := by
  apply Reader.read_simulates fun (total : Nat) (out : List Bytes) => total = out.length
  · exact fun _ _ _ => SameEnd.failed .timedOut
  · exact fun _ _ _ => SameEnd.failed .closed
  · intro total out x hcount
    subst hcount
    rcases x with e | ⟨statements, remaining⟩
    · exact Sum.LiftRel.inr (SameEnd.failed (.streamError e))
    · simp only [drainReader, dumpReader]
      rw [← List.length_append]
      split
      · exact Sum.LiftRel.inr (SameEnd.counted _)
      · exact Sum.LiftRel.inl rfl
  · rfl

/-- Where one has ended, so has the other. -/
theorem dump_of_drain {drain : Reading (Except String StatementEvent) (Except String Nat)}
    (h : drainInitialBatch fuel timeout s = some drain) :
    ∃ dump, collectInitialDump fuel timeout s = some dump ∧
      SameEnd timeout drain.result dump.result ∧ drain.rest = dump.rest ∧
      drain.spent = dump.spent := by
  have hstep := drain_dump_step timeout s fuel
  rw [h] at hstep
  cases hdump : collectInitialDump fuel timeout s with
  | none =>
      rw [hdump] at hstep
      cases hstep
  | some dump =>
      rw [hdump] at hstep
      obtain ⟨hsame, hrest, hspent⟩ := Option.rel_some_some.mp hstep
      exact ⟨dump, rfl, hsame, hrest, hspent⟩

theorem drain_of_dump
    {dump : Reading (Except String StatementEvent) (Except String (List Bytes))}
    (h : collectInitialDump fuel timeout s = some dump) :
    ∃ drain, drainInitialBatch fuel timeout s = some drain ∧
      SameEnd timeout drain.result dump.result ∧ drain.rest = dump.rest ∧
      drain.spent = dump.spent := by
  have hstep := drain_dump_step timeout s fuel
  rw [h] at hstep
  cases hdrain : drainInitialBatch fuel timeout s with
  | none =>
      rw [hdrain] at hstep
      cases hstep
  | some drain =>
      rw [hdrain] at hstep
      obtain ⟨hsame, hrest, hspent⟩ := Option.rel_some_some.mp hstep
      exact ⟨drain, rfl, hsame, hrest, hspent⟩

theorem SameEnd.ok_iff {counted : Except String Nat} {kept : Except String (List Bytes)}
    (h : SameEnd timeout counted kept) :
    counted = .ok n ↔ ∃ v, kept = .ok v ∧ n = v.length := by
  cases h with
  | counted v => simp [eq_comm]
  | failed cause => simp

theorem collectInitialDump_of_break (h : BreaksAt timeout s n cause) :
    ∃ t, collectInitialDump (n + 1) timeout s =
      some ⟨.error (cause.dumpText timeout), restAfter timeout (s.drop n), t⟩ := by
  have hend : (dumpReader timeout).ending timeout (payloads s n) (s.get n) =
      some (.error (cause.dumpText timeout)) := by
    rw [Reader.ending, h.2]
    cases cause <;> rfl
  exact Reader.read_of_after (dumpReader_after.mpr ⟨h.1, rfl⟩) hend

theorem drainInitialBatch_of_break (h : BreaksAt timeout s n cause) :
    ∃ t, drainInitialBatch (n + 1) timeout s =
      some ⟨.error (cause.drainText timeout), restAfter timeout (s.drop n), t⟩ := by
  have hend : (drainReader timeout).ending timeout (0 + (payloads s n).length) (s.get n) =
      some (.error (cause.drainText timeout)) := by
    rw [Reader.ending, h.2]
    cases cause <;> rfl
  exact Reader.read_of_after (drainReader_after.mpr ⟨h.1, rfl⟩) hend

/-- A read that ends does so at the boundary or breaks before it. -/
theorem collectInitialDump_cases
    {dump : Reading (Except String StatementEvent) (Except String (List Bytes))}
    (h : collectInitialDump fuel timeout s = some dump) :
    (∃ b, DumpEndsAt timeout s b) ∨ ∃ n cause, BreaksAt timeout s n cause := by
  cases hresult : dump.result with
  | ok v =>
      obtain ⟨b, hend, -⟩ := collectInitialDump_ok h hresult
      exact Or.inl ⟨b, hend⟩
  | error e =>
      obtain ⟨n, hall, hcause⟩ := collectInitialDump_error h hresult
      rcases hcause with ⟨helapsed, -⟩ | ⟨hclosed, -⟩ | ⟨cause, herror, -⟩
      · exact Or.inr ⟨n, .timedOut, hall, helapsed⟩
      · exact Or.inr ⟨n, .closed, hall, hclosed⟩
      · exact Or.inr ⟨n, .streamError cause, hall, herror⟩

/-- A stream that ends is read to the boundary or breaks off. -/
theorem StreamEnds.dumpOver (h : StreamEnds s) : DumpOver timeout s := by
  obtain ⟨n, hn⟩ := h
  refine ⟨n, fun hgiven => ?_⟩
  obtain ⟨ev, hev, -⟩ := hgiven
  rw [Poll.item?_of_within hev] at hn
  cases hn

/-- How the two reads of one stream compare. -/
structure ReadsAlike (timeout : Duration) (s : EventStream) : Prop where
  /-- one returns a count exactly when the other returns that many payloads -/
  ok_iff : ∀ fuel n,
    (∃ drain, drainInitialBatch fuel timeout s = some drain ∧ drain.result = .ok n) ↔
      ∃ dump v, collectInitialDump fuel timeout s = some dump ∧ dump.result = .ok v ∧
        n = v.length
  /-- then the payloads are those up to the boundary, and the rest is unread -/
  boundary : ∀ fuel drain dump v, drainInitialBatch fuel timeout s = some drain →
    collectInitialDump fuel timeout s = some dump → dump.result = .ok v →
      ∃ b, DumpEndsAt timeout s b ∧ v = payloads s (b + 1) ∧
        drain.rest = s.drop (b + 1) ∧ dump.rest = s.drop (b + 1)
  /-- otherwise both fail at one poll, for one cause -/
  broken : ∀ fuel drain dump e, drainInitialBatch fuel timeout s = some drain →
    collectInitialDump fuel timeout s = some dump → dump.result = .error e →
      ∃ n cause, BreaksAt timeout s n cause ∧
        drain.result = .error (cause.drainText timeout) ∧
        dump.result = .error (cause.dumpText timeout) ∧
        drain.rest = restAfter timeout (s.drop n) ∧ dump.rest = restAfter timeout (s.drop n)
  /-- one returns exactly when the other does, after the same time -/
  returns_iff : ∀ fuel,
    (drainInitialBatch fuel timeout s).map (·.spent) =
      (collectInitialDump fuel timeout s).map (·.spent)
  /-- on a stream that ends both return -/
  returns : StreamEnds s → ∃ fuel drain dump,
    drainInitialBatch fuel timeout s = some drain ∧ collectInitialDump fuel timeout s = some dump

/-- **Draining and collecting agree** on every stream and under every timeout. -/
theorem drain_and_dump_agree (timeout : Duration) (s : EventStream) : ReadsAlike timeout s where
  ok_iff := by
    intro fuel n
    constructor
    · intro h
      obtain ⟨drain, hdrain, hok⟩ := h
      obtain ⟨dump, hdump, hsame, -⟩ := dump_of_drain hdrain
      obtain ⟨v, hv, hlen⟩ := hsame.ok_iff.mp hok
      exact ⟨dump, v, hdump, hv, hlen⟩
    · intro h
      obtain ⟨dump, v, hdump, hv, hlen⟩ := h
      obtain ⟨drain, hdrain, hsame, -⟩ := drain_of_dump hdump
      exact ⟨drain, hdrain, hsame.ok_iff.mpr ⟨v, hv, hlen⟩⟩
  boundary := by
    intro fuel drain dump v hdrain hdump hv
    obtain ⟨dump', hdump', -, hrest, -⟩ := dump_of_drain hdrain
    obtain rfl := Reader.read_unique hdump' hdump
    obtain ⟨b, hend, hpayloads, hdrop⟩ := collectInitialDump_ok hdump hv
    exact ⟨b, hend, hpayloads, hrest.trans hdrop, hdrop⟩
  broken := by
    intro fuel drain dump e hdrain hdump he
    rcases collectInitialDump_cases hdump with ⟨b, hend⟩ | ⟨n, cause, hbreak⟩
    · obtain ⟨fuel', dump', hrun, hok, -⟩ := collectInitialDump_of_boundary hend
      obtain rfl := Reader.read_unique hrun hdump
      rw [hok] at he
      cases he
    · obtain ⟨t, hrun⟩ := collectInitialDump_of_break hbreak
      obtain ⟨t', hrun'⟩ := drainInitialBatch_of_break hbreak
      obtain rfl := Reader.read_unique hrun hdump
      obtain rfl := Reader.read_unique hrun' hdrain
      exact ⟨n, cause, hbreak, rfl, rfl, rfl, rfl⟩
  returns_iff := by
    intro fuel
    cases hdrain : drainInitialBatch fuel timeout s with
    | none =>
        cases hdump : collectInitialDump fuel timeout s with
        | none => rfl
        | some dump =>
            obtain ⟨drain, hdrain', -⟩ := drain_of_dump hdump
            rw [hdrain] at hdrain'
            cases hdrain'
    | some drain =>
        obtain ⟨dump, hdump, -, -, hspent⟩ := dump_of_drain hdrain
        rw [hdump]
        exact congrArg some hspent
  returns := by
    intro hends
    have hover : DumpOver timeout s := hends.dumpOver
    obtain ⟨fuel, dump, hdump⟩ := collectInitialDump_returns hover
    obtain ⟨drain, hdrain, -⟩ := drain_of_dump hdump
    exact ⟨fuel, drain, dump, hdrain, hdump⟩

end Agreement

end StatementStore
