import StatementStoreTools.StatementTypes

/-!
# The world the tools run in

A connection answers submissions and subscriptions one after the other; what
it will answer, and after how long, is a stream that every theorem quantifies
over, and so is what the attempts to connect will meet.  The world holds the
connections, a monotonic clock in nanoseconds, the calls made so far and the
report lines logged so far.  A call consumes one answer, takes the time of that
answer and leaves a record of itself.
-/

namespace StatementStore

open TimedStreams

/-- Ticks of the monotonic clock: nanoseconds. -/
abbrev Duration := Nat

abbrev Instant := Nat

def Duration.fromMillis (ms : UInt64) : Duration := ms.toNat * 1000000

def Duration.fromSecs (secs : UInt64) : Duration := secs.toNat * 1000000000

/-- The time since the unix epoch, as a function of the monotonic clock. -/
abbrev Clock := Instant → Duration

/-- Which connection an RPC object stands for. -/
abbrev Handle := Nat

/-- The answers a connection has in store. -/
structure Conn where
  submits : Stream' (Duration × Except String SubmitResult)
  subscriptions : Stream' (Duration × Except String EventStream)

/-- A call made on a connection, and when. -/
inductive Call
  | submit (conn : Handle) (at_ : Instant) (statement : Statement)
  | subscribe (conn : Handle) (at_ : Instant) (filter : TopicFilter)

/-- `opened` connections have been opened so far; the next one gets that number
for its handle. -/
structure World where
  now : Instant
  dials : Stream' (Duration × Except String Unit)
  opened : Handle
  conns : Handle → Conn
  calls : List Call
  log : List String

/-- Every attempt to connect succeeds at once; one answer for every
subscription, one for every submission. -/
def steadyWorld (subscription : Except String EventStream)
    (submission : Except String SubmitResult) : World where
  now := 0
  dials := Stream'.const (0, .ok ())
  opened := 0
  conns _ := ⟨Stream'.const (0, submission), Stream'.const (0, subscription)⟩
  calls := []
  log := []

/-- Hash and codec do not matter here. -/
def plainCrates : Crates where
  blake2_256 _ := Vector.replicate 32 0
  encode _ := []
  decode _ := none
  hash _ := Vector.replicate 32 0

/-- Let time pass. -/
def World.wait (d : Duration) (w : World) : World :=
  { w with now := w.now + d }

/-- Write a line to the log. -/
def World.logLine (line : String) (w : World) : World :=
  { w with log := w.log ++ [line] }

/-- `WsClientRpc::connect`. -/
def connect (endpoint : String) (w : World) : Except String Handle × World :=
  let answer := w.dials.head
  let w := { w with now := w.now + answer.1, dials := w.dials.tail }
  match answer.2 with
  | .error _ => (.error s!"Failed to connect to {endpoint}", w)
  | .ok () => (.ok w.opened, { w with opened := w.opened + 1 })

/-- `submit_statement`. -/
def submitStatement (rpc : Handle) (statement : Statement) (w : World) :
    Except String SubmitResult × World :=
  let conn := w.conns rpc
  let answer := conn.submits.head
  (answer.2,
    { w with
      now := w.now + answer.1
      conns := Function.update w.conns rpc { conn with submits := conn.submits.tail }
      calls := w.calls ++ [.submit rpc w.now statement] })

/-- `subscribe_topic`. -/
def subscribeTopic (rpc : Handle) (filter : TopicFilter) (w : World) :
    Except String EventStream × World :=
  let conn := w.conns rpc
  let answer := conn.subscriptions.head
  (answer.2,
    { w with
      now := w.now + answer.1
      conns := Function.update w.conns rpc
        { conn with subscriptions := conn.subscriptions.tail }
      calls := w.calls ++ [.subscribe rpc w.now filter] })

def Call.statement? : Call → Option Statement
  | .submit _ _ s => some s
  | .subscribe _ _ _ => none

def Call.filter? : Call → Option TopicFilter
  | .submit _ _ _ => none
  | .subscribe _ _ f => some f

/-- The statements submitted by a list of calls, in order. -/
def submitted (calls : List Call) : List Statement :=
  calls.filterMap Call.statement?

/-- The filters subscribed to by a list of calls, in order. -/
def subscribed (calls : List Call) : List TopicFilter :=
  calls.filterMap Call.filter?

/-- The labels of the statements submitted by a list of calls. -/
def labels (calls : List Call) : List Label :=
  (submitted calls).map Statement.label

@[simp] theorem submitted_append (a b : List Call) :
    submitted (a ++ b) = submitted a ++ submitted b :=
  List.filterMap_append

@[simp] theorem submitted_submit (c : Handle) (t : Instant) (s : Statement) :
    submitted [.submit c t s] = [s] := rfl

@[simp] theorem submitted_subscribe (c : Handle) (t : Instant) (f : TopicFilter) :
    submitted [.subscribe c t f] = [] := rfl

@[simp] theorem subscribed_append (a b : List Call) :
    subscribed (a ++ b) = subscribed a ++ subscribed b :=
  List.filterMap_append

@[simp] theorem subscribed_submit (c : Handle) (t : Instant) (s : Statement) :
    subscribed [.submit c t s] = [] := rfl

@[simp] theorem subscribed_subscribe (c : Handle) (t : Instant) (f : TopicFilter) :
    subscribed [.subscribe c t f] = [f] := rfl

@[simp] theorem labels_append (a b : List Call) : labels (a ++ b) = labels a ++ labels b := by
  simp [labels]

section Calls

variable (rpc : Handle) (w : World)

@[simp] theorem wait_calls (d : Duration) : (w.wait d).calls = w.calls := rfl
@[simp] theorem wait_conns (d : Duration) : (w.wait d).conns = w.conns := rfl
@[simp] theorem wait_log (d : Duration) : (w.wait d).log = w.log := rfl
@[simp] theorem wait_now (d : Duration) : (w.wait d).now = w.now + d := rfl
@[simp] theorem logLine_calls (l : String) : (w.logLine l).calls = w.calls := rfl
@[simp] theorem logLine_conns (l : String) : (w.logLine l).conns = w.conns := rfl
@[simp] theorem logLine_log (l : String) : (w.logLine l).log = w.log ++ [l] := rfl
@[simp] theorem logLine_now (l : String) : (w.logLine l).now = w.now := rfl

theorem wait_wait (w : World) (a b : Duration) : (w.wait a).wait b = w.wait (a + b) := by
  simp [World.wait, Nat.add_assoc]

@[simp] theorem submitStatement_calls (s : Statement) :
    (submitStatement rpc s w).2.calls = w.calls ++ [.submit rpc w.now s] := rfl

@[simp] theorem submitStatement_log (s : Statement) :
    (submitStatement rpc s w).2.log = w.log := rfl

@[simp] theorem subscribeTopic_calls (f : TopicFilter) :
    (subscribeTopic rpc f w).2.calls = w.calls ++ [.subscribe rpc w.now f] := rfl

@[simp] theorem subscribeTopic_log (f : TopicFilter) :
    (subscribeTopic rpc f w).2.log = w.log := rfl

theorem submitStatement_now_le (s : Statement) : w.now ≤ (submitStatement rpc s w).2.now :=
  Nat.le_add_right ..

theorem subscribeTopic_now_le (f : TopicFilter) : w.now ≤ (subscribeTopic rpc f w).2.now :=
  Nat.le_add_right ..

/-- Subscribing uses up no answer to a submission. -/
theorem subscribeTopic_submits (f : TopicFilter) (c : Handle) :
    ((subscribeTopic rpc f w).2.conns c).submits = (w.conns c).submits := by
  by_cases hc : c = rpc
  · subst hc
    simp [subscribeTopic]
  · simp [subscribeTopic, hc]

end Calls

/-- `after` comes out of `before` by making the calls `new`; no time is given
back. -/
structure Extends (before after : World) (new : List Call) : Prop where
  calls : after.calls = before.calls ++ new
  now_le : before.now ≤ after.now

section Extends

variable {w₁ w₂ w₃ : World} {a b : List Call}

theorem Extends.refl (w : World) : Extends w w [] := ⟨by simp, Nat.le_refl _⟩

theorem Extends.trans (h : Extends w₁ w₂ a) (h' : Extends w₂ w₃ b) : Extends w₁ w₃ (a ++ b) :=
  ⟨by rw [h'.calls, h.calls, List.append_assoc], h.now_le.trans h'.now_le⟩

theorem Extends.logLine (h : Extends w₁ w₂ a) (line : String) :
    Extends w₁ (w₂.logLine line) a :=
  ⟨h.calls, h.now_le⟩

theorem Extends.wait (h : Extends w₁ w₂ a) (d : Duration) : Extends w₁ (w₂.wait d) a :=
  ⟨h.calls, Nat.le_add_right_of_le h.now_le⟩

theorem subscribeTopic_extends (rpc : Handle) (f : TopicFilter) (w : World) :
    Extends w (subscribeTopic rpc f w).2 [.subscribe rpc w.now f] :=
  ⟨rfl, subscribeTopic_now_le rpc w f⟩

theorem submitStatement_extends (rpc : Handle) (s : Statement) (w : World) :
    Extends w (submitStatement rpc s w).2 [.submit rpc w.now s] :=
  ⟨rfl, submitStatement_now_le rpc w s⟩

end Extends

end StatementStore
