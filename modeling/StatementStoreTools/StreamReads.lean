import StatementStoreTools.OpsCommon

/-!
# The four ways of reading a subscription

`drain_initial_batch`, `next_statement_batch`, `collect_initial_dump` and
`collect_until_idle`, each a loop around `timeout(window, stream.next())`
except the second, which polls once.

The lemmas describe the loops by positions in the stream: `DumpEndsAt b` says
that poll `b` is the first event whose `remaining` is `Some(0)` or `None` and
that every poll up to it is an event delivered in time; `WatchEndsAt` says the
same of the silence or the close that ends an idle watch.  `payloads n` are
the statements carried by the first `n` polls.
-/

namespace StatementStore

open TimedStreams Loops

/-- The loop of `drain_initial_batch`; it counts the statements. -/
def drainReader (timeout : Duration) :
    Reader (Except String StatementEvent) Nat (Except String Nat) where
  elapsed _ := .error s!"Initial drain timed out after {timeout.debug}"
  closed _ := .error "Subscription closed before initial drain completed"
  item total
    | .error e => .inr (.error s!"Subscription stream error during initial drain: {e}")
    | .ok (.newStatements statements remaining) =>
        if (StatementEvent.newStatements statements remaining).isBoundary then
          .inr (.ok (total + statements.length))
        else .inl (total + statements.length)

def drainInitialBatch (fuel : Nat) (timeout : Duration) (stream : EventStream) :
    Option (Reading (Except String StatementEvent) (Except String Nat)) :=
  (drainReader timeout).read fuel timeout 0 stream

/-- One timed poll: the number of statements the next event carries. -/
def nextStatementBatch (timeout : Duration) (stream : EventStream) :
    Reading (Except String StatementEvent) (Except String Nat) where
  result :=
    match stream.head.within timeout with
    | .item (.ok (.newStatements statements _)) => .ok statements.length
    | .item (.error e) => .error s!"Subscription stream error: {e}"
    | .closed => .error "Subscription closed before delivering statement"
    | .elapsed => .error s!"Timed out waiting for statement after {timeout.debug}"
  rest := restAfter timeout stream
  spent := stream.head.wait timeout

/-- The loop of `collect_initial_dump`; it keeps the payloads. -/
def dumpReader (timeout : Duration) :
    Reader (Except String StatementEvent) (List Bytes) (Except String (List Bytes)) where
  elapsed _ := .error s!"Initial dump timed out after {timeout.debug}"
  closed _ := .error "Subscription closed before initial dump completed"
  item out
    | .error e => .inr (.error s!"Subscription stream error during initial dump: {e}")
    | .ok (.newStatements statements remaining) =>
        if (StatementEvent.newStatements statements remaining).isBoundary then
          .inr (.ok (out ++ statements))
        else .inl (out ++ statements)

def collectInitialDump (fuel : Nat) (timeout : Duration) (stream : EventStream) :
    Option (Reading (Except String StatementEvent) (Except String (List Bytes))) :=
  (dumpReader timeout).read fuel timeout [] stream

/-- The loop of `collect_until_idle`: here a timeout is the normal end. -/
def idleReader :
    Reader (Except String StatementEvent) (List Bytes) (Except String (List Bytes)) where
  elapsed out := .ok out
  closed out := .ok out
  item out
    | .error e => .inr (.error s!"Subscription stream error while watching for duplicates: {e}")
    | .ok (.newStatements statements _) => .inl (out ++ statements)

def collectUntilIdle (fuel : Nat) (idleWindow : Duration) (stream : EventStream) :
    Option (Reading (Except String StatementEvent) (Except String (List Bytes))) :=
  idleReader.read fuel idleWindow [] stream

/-! ## Positions in a subscription -/

/-- The statements an item carries; an error carries none. -/
def carried : Except String StatementEvent → List Bytes
  | .ok ev => ev.statements
  | .error _ => []

/-- The statements of the first `n` polls, in order. -/
def payloads (s : EventStream) (n : Nat) : List Bytes :=
  (taken s n).flatMap carried

/-- Poll `i` delivers the event `ev` within the window. -/
def DeliversAt (window : Duration) (s : EventStream) (i : Nat) (ev : StatementEvent) : Prop :=
  (s.get i).within window = .item (.ok ev)

/-- Poll `b` delivers the event that closes the initial dump. -/
def DumpEndsAt (window : Duration) (s : EventStream) (b : Nat) : Prop :=
  (∀ i < b, ∃ ev, DeliversAt window s i ev ∧ ev.isBoundary = false) ∧
    ∃ ev, DeliversAt window s b ev ∧ ev.isBoundary = true

/-- From poll `first` on events keep coming within the window, until at poll
`last` the window elapses or the subscription closes. -/
def WatchEndsAt (window : Duration) (s : EventStream) (first last : Nat) : Prop :=
  first ≤ last ∧ (∀ i, first ≤ i → i < last → ∃ ev, DeliversAt window s i ev) ∧
    ((s.get last).within window = .elapsed ∨ (s.get last).within window = .closed)

variable {window : Duration} {s : EventStream} {fuel b b' n : Nat}

theorem payloads_drop (s : EventStream) (m n : Nat) :
    payloads s (m + n) = payloads s m ++ payloads (s.drop m) n := by
  simp [payloads, taken_add]

theorem payloads_succ {i : Nat} {ev : StatementEvent} (h : DeliversAt window s i ev) :
    payloads s (i + 1) = payloads s i ++ ev.statements := by
  rw [payloads, taken_succ, Poll.item?_of_within h]
  simp [payloads, carried]

theorem payloads_succ_head {ev : StatementEvent} (h : DeliversAt window s 0 ev) (n : Nat) :
    payloads s (n + 1) = ev.statements ++ payloads s.tail n := by
  rw [payloads, taken_succ_head (Poll.item?_of_within h)]
  rfl

theorem restAfter_delivered {i : Nat} {ev : StatementEvent} (h : DeliversAt window s i ev) :
    restAfter window (s.drop i) = s.drop (i + 1) := by
  have hhead : (s.drop i).head.within window = .item (.ok ev) := by
    rw [Stream'.head_drop]
    exact h
  rw [restAfter_item hhead, Stream'.tail_drop']

/-- A subscription has one dump boundary at most. -/
theorem DumpEndsAt.unique (h : DumpEndsAt window s b) (h' : DumpEndsAt window s b') :
    b = b' := by
  have key : ∀ {b b' : Nat}, DumpEndsAt window s b → DumpEndsAt window s b' → ¬ b < b' := by
    intro b b' h h' hlt
    obtain ⟨ev, hev, hbound⟩ := h.2
    obtain ⟨ev', hev', hgo⟩ := h'.1 b hlt
    have : ev = ev' := by
      have heq := hev.symm.trans hev'
      simpa using heq
    rw [this, hgo] at hbound
    cases hbound
  rcases Nat.lt_trichotomy b b' with hlt | heq | hlt
  · exact absurd hlt (key h h')
  · exact heq
  · exact absurd hlt (key h' h)

private theorem foldl_collect (xs : List (Except String StatementEvent)) (acc : List Bytes) :
    xs.foldl (fun out x => out ++ carried x) acc = acc ++ xs.flatMap carried := by
  induction xs generalizing acc with
  | nil => simp
  | cons x xs ih => simp [ih, List.append_assoc]

private theorem foldl_count (xs : List (Except String StatementEvent)) (acc : Nat) :
    xs.foldl (fun total x => total + (carried x).length) acc =
      acc + (xs.flatMap carried).length := by
  induction xs generalizing acc with
  | nil => simp
  | cons x xs ih => simp [ih]; omega

/-- What keeps the initial dump going: an event before the boundary. -/
def BeforeBoundary (x : Except String StatementEvent) : Prop :=
  ∃ ev, x = .ok ev ∧ ev.isBoundary = false

theorem dumpReader_item (out : List Bytes) (x : Except String StatementEvent) (out' : List Bytes) :
    (dumpReader window).item out x = .inl out' ↔ BeforeBoundary x ∧ out ++ carried x = out' := by
  rcases x with e | ⟨statements, remaining⟩
  · simp [dumpReader, BeforeBoundary]
  · cases hb : (StatementEvent.newStatements statements remaining).isBoundary <;>
      simp [dumpReader, BeforeBoundary, hb, carried, StatementEvent.statements]

theorem drainReader_item (total : Nat) (x : Except String StatementEvent) (total' : Nat) :
    (drainReader window).item total x = .inl total' ↔
      BeforeBoundary x ∧ total + (carried x).length = total' := by
  rcases x with e | ⟨statements, remaining⟩
  · simp [drainReader, BeforeBoundary]
  · cases hb : (StatementEvent.newStatements statements remaining).isBoundary <;>
      simp [drainReader, BeforeBoundary, hb, carried, StatementEvent.statements]

theorem idleReader_item (out : List Bytes) (x : Except String StatementEvent) (out' : List Bytes) :
    idleReader.item out x = .inl out' ↔ (∃ ev, x = .ok ev) ∧ out ++ carried x = out' := by
  rcases x with e | ⟨statements, remaining⟩
  · simp [idleReader]
  · simp [idleReader, carried, StatementEvent.statements]

theorem dumpReader_after {acc acc' : List Bytes} :
    (dumpReader window).after window acc s n = some acc' ↔
      (∀ i < n, ∃ ev, DeliversAt window s i ev ∧ ev.isBoundary = false) ∧
        acc' = acc ++ payloads s n := by
  rw [Reader.after_fold BeforeBoundary _ dumpReader_item, foldl_collect]
  simp [BeforeBoundary, DeliversAt, payloads]

theorem drainReader_after {total total' : Nat} :
    (drainReader window).after window total s n = some total' ↔
      (∀ i < n, ∃ ev, DeliversAt window s i ev ∧ ev.isBoundary = false) ∧
        total' = total + (payloads s n).length := by
  rw [Reader.after_fold BeforeBoundary _ drainReader_item, foldl_count]
  simp [BeforeBoundary, DeliversAt, payloads]

theorem idleReader_after {acc acc' : List Bytes} :
    idleReader.after window acc s n = some acc' ↔
      (∀ i < n, ∃ ev, DeliversAt window s i ev) ∧ acc' = acc ++ payloads s n := by
  rw [Reader.after_fold (fun x => ∃ ev, x = .ok ev) _ idleReader_item, foldl_collect]
  simp [DeliversAt, payloads]

/-! ## When the loops return -/

/-- The dump does not go on for ever: some poll is not an event before the
boundary. -/
def DumpOver (window : Duration) (s : EventStream) : Prop :=
  ∃ n, ¬ ∃ ev, DeliversAt window s n ev ∧ ev.isBoundary = false

/-- However far one has read, some later poll is not an event. -/
def EventsPause (window : Duration) (s : EventStream) : Prop :=
  ∀ first, ∃ n, first ≤ n ∧ ¬ ∃ ev, DeliversAt window s n ev

private theorem DumpOver.stops (h : DumpOver window s) :
    ∃ n, ¬ ∃ x, (s.get n).within window = .item x ∧ BeforeBoundary x := by
  obtain ⟨n, hn⟩ := h
  refine ⟨n, fun hgiven => hn ?_⟩
  obtain ⟨x, hx, ev, rfl, hev⟩ := hgiven
  exact ⟨ev, hx, hev⟩

theorem drainInitialBatch_returns (h : DumpOver window s) :
    ∃ fuel out, drainInitialBatch fuel window s = some out :=
  Reader.read_returns BeforeBoundary _ drainReader_item h.stops 0

theorem collectInitialDump_returns (h : DumpOver window s) :
    ∃ fuel out, collectInitialDump fuel window s = some out :=
  Reader.read_returns BeforeBoundary _ dumpReader_item h.stops []

/-- One pause is enough for a watch that starts before it. -/
theorem collectUntilIdle_returns_of_pause {first : Nat} (hn : first ≤ n)
    (hpause : ¬ ∃ ev, DeliversAt window s n ev) :
    ∃ fuel out, collectUntilIdle fuel window (s.drop first) = some out := by
  refine Reader.read_returns (fun x => ∃ ev, x = .ok ev) _ idleReader_item ?_ []
  refine ⟨n - first, fun hgiven => hpause ?_⟩
  obtain ⟨x, hx, ev, rfl⟩ := hgiven
  rw [Stream'.get_drop, Nat.add_sub_cancel' hn] at hx
  exact ⟨ev, hx⟩

theorem collectUntilIdle_returns (h : EventsPause window s) (first : Nat) :
    ∃ fuel out, collectUntilIdle fuel window (s.drop first) = some out := by
  obtain ⟨n, hn, hpause⟩ := h first
  exact collectUntilIdle_returns_of_pause hn hpause

/-! ## What the loops return -/

private theorem dumpReader_ending_ok {acc v : List Bytes}
    {p : Poll (Except String StatementEvent)} :
    (dumpReader window).ending window acc p = some (.ok v) ↔
      ∃ ev, p.within window = .item (.ok ev) ∧ ev.isBoundary = true ∧
        acc ++ ev.statements = v := by
  unfold Reader.ending
  rcases hp : p.within window with _ | _ | (e | ⟨statements, remaining⟩)
  · simp [dumpReader]
  · simp [dumpReader]
  · simp [dumpReader]
  · cases hb : (StatementEvent.newStatements statements remaining).isBoundary <;>
      simp [dumpReader, hb, StatementEvent.statements]

/-- **The initial dump.**  It is returned exactly when the boundary comes, it
is the payload of every event up to the boundary, and the read stops there. -/
theorem collectInitialDump_ok {v : List Bytes}
    {out : Reading (Except String StatementEvent) (Except String (List Bytes))}
    (h : collectInitialDump fuel window s = some out) (hv : out.result = .ok v) :
    ∃ b, DumpEndsAt window s b ∧ v = payloads s (b + 1) ∧ out.rest = s.drop (b + 1) := by
  obtain ⟨b, acc, hafter, hend, hrest⟩ := Reader.read_some h
  rw [hv] at hend
  obtain ⟨ev, hev, hbound, rfl⟩ := dumpReader_ending_ok.mp hend
  obtain ⟨hall, rfl⟩ := dumpReader_after.mp hafter
  refine ⟨b, ⟨hall, ev, hev, hbound⟩, ?_, ?_⟩
  · simp [payloads_succ hev]
  · rw [hrest, restAfter_delivered hev]

/-- The dump is read within one turn for each of its events. -/
theorem collectInitialDump_within (h : DumpEndsAt window s b) (hfuel : b < fuel) :
    ∃ t, collectInitialDump fuel window s = some ⟨.ok (payloads s (b + 1)), s.drop (b + 1), t⟩ := by
  obtain ⟨ev, hev, hbound⟩ := h.2
  have hend : (dumpReader window).ending window (payloads s b) (s.get b) =
      some (.ok (payloads s (b + 1))) :=
    dumpReader_ending_ok.mpr ⟨ev, hev, hbound, (payloads_succ hev).symm⟩
  have hafter : (dumpReader window).after window [] s b = some (payloads s b) :=
    dumpReader_after.mpr ⟨h.1, rfl⟩
  obtain ⟨t, ht⟩ := Reader.read_of_after hafter hend
  rw [restAfter_delivered hev] at ht
  exact ⟨t, run_mono hfuel ht⟩

theorem collectInitialDump_of_boundary (h : DumpEndsAt window s b) :
    ∃ fuel out, collectInitialDump fuel window s = some out ∧
      out.result = .ok (payloads s (b + 1)) ∧ out.rest = s.drop (b + 1) := by
  obtain ⟨t, ht⟩ := collectInitialDump_within h (Nat.lt_succ_self b)
  exact ⟨b + 1, _, ht, rfl, rfl⟩

/-- Poll `n` comes before the boundary and is a timeout, the close or an error
of the subscription; `e` is the text that tells which. -/
def DumpBreaksAt (window : Duration) (s : EventStream) (n : Nat) (e : String) : Prop :=
  (∀ i < n, ∃ ev, DeliversAt window s i ev ∧ ev.isBoundary = false) ∧
    (((s.get n).within window = .elapsed ∧
        e = s!"Initial dump timed out after {window.debug}") ∨
      ((s.get n).within window = .closed ∧
        e = "Subscription closed before initial dump completed") ∨
      ∃ cause, (s.get n).within window = .item (.error cause) ∧
        e = s!"Subscription stream error during initial dump: {cause}")

private theorem dumpReader_ending_error {acc : List Bytes} {e : String}
    {p : Poll (Except String StatementEvent)} :
    (dumpReader window).ending window acc p = some (.error e) ↔
      (p.within window = .elapsed ∧ e = s!"Initial dump timed out after {window.debug}") ∨
      (p.within window = .closed ∧ e = "Subscription closed before initial dump completed") ∨
      ∃ cause, p.within window = .item (.error cause) ∧
        e = s!"Subscription stream error during initial dump: {cause}" := by
  unfold Reader.ending
  rcases hp : p.within window with _ | _ | (cause | ⟨statements, remaining⟩)
  · simp [dumpReader, eq_comm (a := e)]
  · simp [dumpReader, eq_comm (a := e)]
  · simp [dumpReader, eq_comm (a := e)]
  · cases hb : (StatementEvent.newStatements statements remaining).isBoundary <;>
      simp [dumpReader, hb]

/-- **A dump that breaks off.**  The error is returned and the payloads read so
far are lost. -/
theorem collectInitialDump_broken {e : String} (h : DumpBreaksAt window s n e)
    (hfuel : n < fuel) :
    ∃ out, collectInitialDump fuel window s = some out ∧ out.result = .error e := by
  have hafter : (dumpReader window).after window [] s n = some (payloads s n) :=
    dumpReader_after.mpr ⟨h.1, rfl⟩
  obtain ⟨t, ht⟩ := Reader.read_of_after hafter (dumpReader_ending_error.mpr h.2)
  exact ⟨_, run_mono hfuel ht, rfl⟩

theorem collectInitialDump_error {e : String}
    {out : Reading (Except String StatementEvent) (Except String (List Bytes))}
    (h : collectInitialDump fuel window s = some out) (he : out.result = .error e) :
    ∃ n, DumpBreaksAt window s n e := by
  obtain ⟨n, acc, hafter, hend, -⟩ := Reader.read_some h
  rw [he] at hend
  exact ⟨n, (dumpReader_after.mp hafter).1, dumpReader_ending_error.mp hend⟩

/-- The idle watch succeeds exactly on events that stop coming. -/
theorem collectUntilIdle_ok {v : List Bytes}
    {out : Reading (Except String StatementEvent) (Except String (List Bytes))}
    (h : collectUntilIdle fuel window s = some out) (hv : out.result = .ok v) :
    ∃ n, WatchEndsAt window s 0 n ∧ v = payloads s n := by
  obtain ⟨n, acc, hafter, hend, _⟩ := Reader.read_some h
  obtain ⟨hall, rfl⟩ := idleReader_after.mp hafter
  rw [hv] at hend
  unfold Reader.ending at hend
  rcases hp : (s.get n).within window with _ | _ | (e | ⟨statements, remaining⟩) <;>
    simp [hp, idleReader] at hend
  · exact ⟨n, ⟨Nat.zero_le _, fun i _ hi => hall i hi, Or.inl hp⟩, hend.symm⟩
  · exact ⟨n, ⟨Nat.zero_le _, fun i _ hi => hall i hi, Or.inr hp⟩, hend.symm⟩

theorem collectUntilIdle_of_watch (h : WatchEndsAt window s 0 n) :
    ∃ fuel out, collectUntilIdle fuel window s = some out ∧
      out.result = .ok (payloads s n) := by
  have hend : idleReader.ending window (payloads s n) (s.get n) = some (.ok (payloads s n)) := by
    unfold Reader.ending
    rcases h.2.2 with hp | hp <;> simp [hp, idleReader]
  have hafter : idleReader.after window [] s n = some (payloads s n) :=
    idleReader_after.mpr ⟨fun i hi => h.2.1 i (Nat.zero_le _) hi, rfl⟩
  obtain ⟨t, ht⟩ := Reader.read_of_after hafter hend
  exact ⟨n + 1, _, ht, rfl⟩

private theorem drainReader_ending_ok {acc total : Nat}
    {p : Poll (Except String StatementEvent)} :
    (drainReader window).ending window acc p = some (.ok total) ↔
      ∃ ev, p.within window = .item (.ok ev) ∧ ev.isBoundary = true ∧
        acc + ev.statements.length = total := by
  unfold Reader.ending
  rcases hp : p.within window with _ | _ | (e | ⟨statements, remaining⟩)
  · simp [drainReader]
  · simp [drainReader]
  · simp [drainReader]
  · cases hb : (StatementEvent.newStatements statements remaining).isBoundary <;>
      simp [drainReader, hb, StatementEvent.statements]

/-- `drain_initial_batch` counts what the dump carries up to its boundary. -/
theorem drainInitialBatch_ok {total : Nat}
    {out : Reading (Except String StatementEvent) (Except String Nat)}
    (h : drainInitialBatch fuel window s = some out) (ht : out.result = .ok total) :
    ∃ b, DumpEndsAt window s b ∧ total = (payloads s (b + 1)).length ∧
      out.rest = s.drop (b + 1) := by
  obtain ⟨b, acc, hafter, hend, hrest⟩ := Reader.read_some h
  obtain ⟨hall, rfl⟩ := drainReader_after.mp hafter
  rw [ht] at hend
  obtain ⟨ev, hev, hbound, hcount⟩ := drainReader_ending_ok.mp hend
  refine ⟨b, ⟨hall, ev, hev, hbound⟩, ?_, ?_⟩
  · rw [payloads_succ hev, List.length_append, ← hcount]
    omega
  · rw [hrest, restAfter_delivered hev]

/-- A drain that ends with an error has met no boundary. -/
theorem drainInitialBatch_error {e : String}
    {out : Reading (Except String StatementEvent) (Except String Nat)}
    (h : drainInitialBatch fuel window s = some out) (he : out.result = .error e) :
    ¬ DumpEndsAt window s b := by
  intro hend
  obtain ⟨ev, hev, hbound⟩ := hend.2
  have hcount : (0 + (payloads s b).length) + ev.statements.length =
      (payloads s (b + 1)).length := by
    rw [payloads_succ hev, List.length_append]
    omega
  have hending := drainReader_ending_ok.mpr ⟨ev, hev, hbound, hcount⟩
  obtain ⟨t, ht⟩ := Reader.read_of_after (drainReader_after.mpr ⟨hend.1, rfl⟩) hending
  obtain rfl := Reader.read_unique ht h
  cases he

/-- The next event decides. -/
theorem nextStatementBatch_ok (window : Duration) (s : EventStream) (i n : Nat) :
    (nextStatementBatch window (s.drop i)).result = .ok n ↔
      ∃ ev, DeliversAt window s i ev ∧ ev.statements.length = n := by
  unfold nextStatementBatch DeliversAt
  rw [Stream'.head_drop]
  rcases (s.get i).within window with _ | _ | (e | ⟨statements, remaining⟩) <;>
    simp [StatementEvent.statements]

end StatementStore
