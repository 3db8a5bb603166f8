import StatementStoreTools.MessagePattern
import StatementStoreTools.StreamReads

/-!
# One round of the ring benchmark

`execute_round`: subscribe to the topics of the neighbour, send the messages of
the pattern, then count deliveries until `expected_count` is reached.

The send loop is two nested `for`s over the pattern with a running
`sent_count`; `sendPattern_eq_sendPlan` turns it into one pass over
`messagePlan`.  `executeRound_cases` says everything a round can do: it stops
at the guard without a call, or it subscribes once, sends a prefix of the plan
and fails, or it sends the whole plan and has seen enough deliveries.
-/

namespace StatementStore

open TimedStreams Loops

inductive FailureKind
  | tooManyTopics
  | subscribeFailed
  | submitFailed
  | propagationTimeout
  | subscriptionClosed
  | subscriptionStreamError
  | peerFailed
  | interRoundSyncTimeout
  | startupSyncTimeout
  | taskPanicked
deriving DecidableEq, Repr

def FailureKind.display : FailureKind → String
  | tooManyTopics => "Too many topics"
  | subscribeFailed => "Failed to open RPC subscription"
  | submitFailed => "Failed to submit statement via RPC"
  | propagationTimeout => "Statement propagation timeout"
  | subscriptionClosed => "Subscription closed by server"
  | subscriptionStreamError => "Subscription stream error"
  | peerFailed => "Peer failed; stopping early"
  | interRoundSyncTimeout => "Inter-round sync timed out"
  | startupSyncTimeout => "Startup sync timed out"
  | taskPanicked => "Task panicked"

/-- `fail`: warn and hand the failure back. -/
def fail (clientId : String) (roundInfo : Option (Nat × Nat)) (error : FailureKind)
    (detail : String) (w : World) : FailureKind × World :=
  let roundInfo :=
    match roundInfo with
    | some (round, numRounds) => s!"Round {round}/{numRounds}: "
    | none => ""
  (error, w.logLine s!"Client {clientId}: {roundInfo}{error.display} ({detail})")

structure RoundStats where
  round : Nat
  sendDurationSecs : Rat
  receiveDurationSecs : Rat
  fullLatencySecs : Rat
  sentCount : UInt32
  receivedCount : UInt32
deriving DecidableEq

structure ClientConfig where
  clientId : UInt32
  neighbourId : UInt32
  numClients : UInt32
  numRounds : Nat
  testRunId : UInt64
  messagesPattern : List (UInt64 × UInt64)
  receiveTimeoutMs : UInt64
  intervalMs : UInt64
  statementExpiryMs : UInt64
  failFast : Bool
  seed : Option String

/-- The text that `generate_topic` hashes. -/
def ringTopicText (testRunId : UInt64) (clientId : UInt32) (round : Nat) (msgIdx : UInt32) :
    String :=
  s!"{testRunId.toNat}-{clientId.toNat}-{round}-{msgIdx.toNat}"

def generateTopic (crates : Crates) (testRunId : UInt64) (clientId : UInt32) (round : Nat)
    (msgIdx : UInt32) : Topic :=
  crates.blake2_256 (ringTopicText testRunId clientId round msgIdx)

/-- The text hashed for the channel of a message. -/
def ringChannelText (clientId sentCount : UInt32) (testRunId : UInt64) : String :=
  s!"{clientId.toNat}-{sentCount.toNat}-{testRunId.toNat}"

/-- The topics of the neighbour's messages, `(0..expected_count)`. -/
def expectedTopics (crates : Crates) (config : ClientConfig) (round : Nat)
    (expectedCount : UInt32) : List Topic :=
  (List.range expectedCount.toNat).map fun idx =>
    generateTopic crates config.testRunId config.neighbourId round (UInt32.ofNat idx)

/-- The statement that the send loop builds for message `sentCount`. -/
def roundStatement (crates : Crates) (clock : Clock) (config : ClientConfig)
    (keyring : Keypair) (round : Nat) (sentCount : UInt32) (size : UInt64) (now : Instant) :
    Statement :=
  let topic := generateTopic crates config.testRunId config.clientId round sentCount
  let channel :=
    crates.blake2_256 (ringChannelText config.clientId sentCount config.testRunId)
  let expiryTimestamp := UInt32.ofNat
    ((clock now + Duration.fromMillis config.statementExpiryMs) / 1000000000)
  Statement.new
    |>.setChannel channel
    |>.setExpiryFromParts expiryTimestamp ((sentCount + 1) * UInt32.ofNat round)
    |>.setTopic0 topic
    |>.setPlainData (zeroes size)
    |>.signSr25519Private keyring

@[simp] theorem roundStatement_topics (crates : Crates) (clock : Clock) (config : ClientConfig)
    (keyring : Keypair) (round : Nat) (sentCount : UInt32) (size : UInt64) (now : Instant) :
    (roundStatement crates clock config keyring round sentCount size now).topics =
      [generateTopic crates config.testRunId config.clientId round sentCount] := rfl

/-- What one client of the ring carries through a round. -/
structure RoundEnv where
  crates : Crates
  clock : Clock
  config : ClientConfig
  rpcClient : Handle
  keyring : Keypair
  round : Nat

namespace RoundEnv

/-- End the round with a failure. -/
def failRound {α : Type} (env : RoundEnv) (kind : FailureKind) (detail : String) (w : World) :
    Except FailureKind α × World :=
  let (kind, w) := fail (toString env.config.clientId.toNat)
    (some (env.round, env.config.numRounds)) kind detail w
  (.error kind, w)

/-- The statement for message `sentCount` of this round. -/
def statement (env : RoundEnv) (sentCount : UInt32) (size : UInt64) (now : Instant) :
    Statement :=
  roundStatement env.crates env.clock env.config env.keyring env.round sentCount size now

/-- The body of the send loop. -/
def sendOne (env : RoundEnv) (size : UInt64) (sentCount : UInt32) (w : World) :
    Except FailureKind UInt32 × World :=
  match submitStatement env.rpcClient (env.statement sentCount size w.now) w with
  | (.error e, w) => env.failRound .submitFailed e w
  | (.ok _, w) => (.ok (sentCount + 1), w)

/-- `for _ in 0..count`. -/
def sendRepeated (env : RoundEnv) (size : UInt64) :
    Nat → UInt32 → World → Except FailureKind UInt32 × World
  | 0, sentCount, w => (.ok sentCount, w)
  | count+1, sentCount, w =>
      match env.sendOne size sentCount w with
      | (.error kind, w) => (.error kind, w)
      | (.ok sentCount, w) => env.sendRepeated size count sentCount w

/-- `for &(count, size) in messages_pattern`. -/
def sendPattern (env : RoundEnv) :
    List (UInt64 × UInt64) → UInt32 → World → Except FailureKind UInt32 × World
  | [], sentCount, w => (.ok sentCount, w)
  | (count, size) :: pattern, sentCount, w =>
      match env.sendRepeated size count.toNat sentCount w with
      | (.error kind, w) => (.error kind, w)
      | (.ok sentCount, w) => env.sendPattern pattern sentCount w

/-- The receive loop; it counts deliveries in 32 bits. -/
def receiveReader (env : RoundEnv) (expectedCount : UInt32) :
    Reader (Except String StatementEvent) UInt32 (Except (FailureKind × String) UInt32) where
  elapsed received := .error (.propagationTimeout,
    s!"received {received.toNat}/{expectedCount.toNat} after {env.config.receiveTimeoutMs.toNat}ms")
  closed received := .error (.subscriptionClosed,
    s!"received {received.toNat}/{expectedCount.toNat}")
  item received
    | .error e => .inr (.error (.subscriptionStreamError,
        s!"received {received.toNat}/{expectedCount.toNat}, error: {e}"))
    | .ok (.newStatements statements _) =>
        let received := received + UInt32.ofNat statements.length
        if received < expectedCount then .inl received else .inr (.ok received)

/-- `while received_count < expected_count`: with nothing expected, nothing is
polled. -/
def receive (env : RoundEnv) (fuel : Nat) (expectedCount : UInt32)
    (subscription : EventStream) :
    Option (Reading (Except String StatementEvent) (Except (FailureKind × String) UInt32)) :=
  if 0 < expectedCount then
    (env.receiveReader expectedCount).read fuel
      (Duration.fromMillis env.config.receiveTimeoutMs) 0 subscription
  else some ⟨.ok 0, subscription, 0⟩

end RoundEnv

/-- `messages_per_client(messages_pattern) as u32`. -/
def expectedCount (pattern : List (UInt64 × UInt64)) : UInt32 :=
  (messagesPerClient pattern).toUInt32

/-- `execute_round`; `none` when the receive loop has not ended within `fuel`
polls. -/
def executeRound (env : RoundEnv) (fuel : Nat) (w : World) :
    Option (Except FailureKind RoundStats × World) :=
  let expectedCount := expectedCount env.config.messagesPattern
  let roundStart := w.now
  match BoundedVec.tryFrom 128
      (expectedTopics env.crates env.config env.round expectedCount) with
  | none => some (env.failRound .tooManyTopics s!"max 128, got {expectedCount.toNat}" w)
  | some boundedTopics =>
      match subscribeTopic env.rpcClient (.matchAny boundedTopics) w with
      | (.error e, w) => some (env.failRound .subscribeFailed e w)
      | (.ok subscription, w) =>
          match env.sendPattern env.config.messagesPattern 0 w with
          | (.error kind, w) => some (.error kind, w)
          | (.ok sentCount, w) =>
              let sendDuration := w.now - roundStart
              (env.receive fuel expectedCount subscription).map fun reading =>
                let w := w.wait reading.spent
                match reading.result with
                | .error (kind, detail) => env.failRound kind detail w
                | .ok receivedCount =>
                    let fullLatency := w.now - roundStart
                    let receiveDuration := fullLatency - sendDuration
                    (.ok {
                      round := env.round
                      sentCount := sentCount
                      receivedCount := receivedCount
                      sendDurationSecs := Duration.asSecsF64 sendDuration
                      receiveDurationSecs := Duration.asSecsF64 receiveDuration
                      fullLatencySecs := Duration.asSecsF64 fullLatency }, w)

/-! ## The send loop -/

namespace RoundEnv

/-- The send loop over the sizes of its messages. -/
def sendPlan (env : RoundEnv) : List UInt64 → UInt32 → World → Except FailureKind UInt32 × World
  | [], sentCount, w => (.ok sentCount, w)
  | size :: sizes, sentCount, w =>
      match env.sendOne size sentCount w with
      | (.error kind, w) => (.error kind, w)
      | (.ok sentCount, w) => env.sendPlan sizes sentCount w

/-- `SentFrom sentCount sizes statements`: the statements are, one by one, those
of the messages `sentCount`, `sentCount + 1`, …; some of the sizes may be left
over. -/
inductive SentFrom (env : RoundEnv) : UInt32 → List UInt64 → List Statement → Prop
  | nil {sentCount : UInt32} {sizes : List UInt64} : SentFrom env sentCount sizes []
  | cons {sentCount : UInt32} {size : UInt64} {sizes : List UInt64}
      {statements : List Statement} (now : Instant)
      (rest : SentFrom env (sentCount + 1) sizes statements) :
      SentFrom env sentCount (size :: sizes)
        (env.statement sentCount size now :: statements)

variable {env : RoundEnv} {sizes : List UInt64} {sentCount : UInt32} {w w' : World}
  {statements : List Statement} {res : Except FailureKind UInt32}

theorem sendPlan_append (first second : List UInt64) :
    env.sendPlan (first ++ second) sentCount w =
      match env.sendPlan first sentCount w with
      | (.error kind, w) => (.error kind, w)
      | (.ok sentCount, w) => env.sendPlan second sentCount w := by
  induction first generalizing sentCount w with
  | nil => rfl
  | cons size first ih =>
      simp only [List.cons_append, sendPlan]
      rcases env.sendOne size sentCount w with ⟨_ | sentCount', w'⟩
      · rfl
      · exact ih

theorem sendRepeated_eq_sendPlan (size : UInt64) (count : Nat) :
    env.sendRepeated size count sentCount w =
      env.sendPlan (List.replicate count size) sentCount w := by
  induction count generalizing sentCount w with
  | zero => rfl
  | succ count ih =>
      simp only [sendRepeated, List.replicate_succ, sendPlan]
      rcases env.sendOne size sentCount w with ⟨_ | sentCount', w'⟩
      · rfl
      · exact ih

/-- **The nested loops are one pass over the plan.** -/
theorem sendPattern_eq_sendPlan (pattern : List (UInt64 × UInt64)) :
    env.sendPattern pattern sentCount w = env.sendPlan (messagePlan pattern) sentCount w := by
  induction pattern generalizing sentCount w with
  | nil => rfl
  | cons entry pattern ih =>
      have hplan : messagePlan (entry :: pattern) =
          List.replicate entry.1.toNat entry.2 ++ messagePlan pattern := rfl
      rw [hplan, sendPlan_append, ← sendRepeated_eq_sendPlan]
      simp only [sendPattern]
      rcases env.sendRepeated entry.2 entry.1.toNat sentCount w with ⟨_ | sentCount', w'⟩
      · rfl
      · exact ih

/-- One turn of the send loop submits its statement, whatever the answer. -/
theorem sendOne_cases (size : UInt64) (h : env.sendOne size sentCount w = (res, w')) :
    w'.calls = w.calls ++ [.submit env.rpcClient w.now (env.statement sentCount size w.now)] ∧
      (res = .ok (sentCount + 1) ∨ res = .error .submitFailed) := by
  unfold sendOne at h
  cases hanswer : submitStatement env.rpcClient (env.statement sentCount size w.now) w with
  | mk answer after =>
      have hcalls : after.calls =
          w.calls ++ [.submit env.rpcClient w.now (env.statement sentCount size w.now)] := by
        rw [← submitStatement_calls env.rpcClient w, hanswer]
      cases answer with
      | error e =>
          rw [hanswer] at h
          obtain ⟨rfl, rfl⟩ := Prod.mk.inj h
          exact ⟨hcalls, Or.inr rfl⟩
      | ok r =>
          rw [hanswer] at h
          obtain ⟨rfl, rfl⟩ := Prod.mk.inj h
          exact ⟨hcalls, Or.inl rfl⟩

/-- What a send loop leaves behind: the statements of a prefix of its plan,
all of them exactly when it succeeds. -/
structure Sent (env : RoundEnv) (sizes : List UInt64) (sentCount : UInt32)
    (before after : World) (res : Except FailureKind UInt32) (sends : List Call) : Prop where
  calls : after.calls = before.calls ++ sends
  noSubscription : subscribed sends = []
  sentFrom : SentFrom env sentCount sizes (submitted sends)
  done : (∃ sent, res = .ok sent ∧ (submitted sends).length = sizes.length) ∨
    res = .error .submitFailed

theorem sendPlan_sent (h : env.sendPlan sizes sentCount w = (res, w')) :
    ∃ sends, Sent env sizes sentCount w w' res sends := by
  induction sizes generalizing sentCount w with
  | nil =>
      obtain ⟨rfl, rfl⟩ := Prod.mk.inj h
      exact ⟨[], ⟨by simp, rfl, SentFrom.nil, Or.inl ⟨sentCount, rfl, rfl⟩⟩⟩
  | cons size sizes ih =>
      simp only [sendPlan] at h
      rcases hone : env.sendOne size sentCount w with ⟨one, mid⟩
      obtain ⟨hcalls, hres⟩ := sendOne_cases size hone
      rw [hone] at h
      rcases hres with rfl | rfl
      · obtain ⟨sends, hsent⟩ := ih h
        refine ⟨.submit env.rpcClient w.now (env.statement sentCount size w.now) :: sends,
          ⟨?_, ?_, SentFrom.cons w.now hsent.sentFrom, ?_⟩⟩
        · rw [hsent.calls, hcalls, List.append_assoc]
          rfl
        · exact hsent.noSubscription
        · rcases hsent.done with ⟨sent, hok, hlen⟩ | herr
          · exact Or.inl ⟨sent, hok, congrArg (· + 1) hlen⟩
          · exact Or.inr herr
      · obtain ⟨rfl, rfl⟩ := Prod.mk.inj h
        exact ⟨_, ⟨hcalls, rfl, SentFrom.cons w.now SentFrom.nil, Or.inr rfl⟩⟩

theorem SentFrom.length_le (h : SentFrom env sentCount sizes statements) :
    statements.length ≤ sizes.length := by
  induction h with
  | nil => exact Nat.zero_le _
  | cons _ _ ih => exact Nat.succ_le_succ ih

/-- Statement `i` is that of message `sentCount + i`. -/
theorem SentFrom.get (h : SentFrom env sentCount sizes statements) :
    ∀ {i : Nat} {s : Statement}, statements[i]? = some s →
      ∃ size now, sizes[i]? = some size ∧
        s = env.statement (sentCount + UInt32.ofNat i) size now := by
  induction h with
  | nil => intro i s hs; simp at hs
  | @cons sentCount size sizes statements now rest ih =>
      intro i s hs
      cases i with
      | zero =>
          obtain rfl : env.statement sentCount size now = s := by simpa using hs
          exact ⟨size, now, rfl, by simp⟩
      | succ i =>
          obtain ⟨size', now', hsize, heq⟩ := ih (i := i) (by simpa using hs)
          refine ⟨size', now', by simpa using hsize, ?_⟩
          rw [heq, UInt32.ofNat_add, UInt32.add_assoc, UInt32.add_comm 1]
          rfl

/-- The topics of the statements sent from message `0` on. -/
theorem SentFrom.topics (h : SentFrom env 0 sizes statements) :
    statements.map (·.topics) = (List.range statements.length).map fun i =>
      [generateTopic env.crates env.config.testRunId env.config.clientId env.round
        (UInt32.ofNat i)] := by
  refine List.ext_getElem? fun i => ?_
  rw [List.getElem?_map, List.getElem?_map]
  cases hs : statements[i]? with
  | none =>
      rw [List.getElem?_eq_none]
      · rfl
      · simpa using hs
  | some s =>
      obtain ⟨size, now, -, rfl⟩ := h.get hs
      have hi : i < statements.length := (List.getElem?_eq_some_iff.mp hs).1
      rw [List.getElem?_eq_getElem (by simpa using hi)]
      simp [RoundEnv.statement]

/-! ## The receive loop -/

variable {window : Duration} {s : EventStream} {fuel n : Nat} {expected acc acc' : UInt32}

theorem receiveReader_after
    (h : (env.receiveReader expected).after window acc s n = some acc') :
    (∀ i < n, ∃ ev, DeliversAt window s i ev) ∧
      acc' = acc + UInt32.ofNat (payloads s n).length := by
  induction n generalizing acc s with
  | zero =>
      obtain rfl := Option.some.inj h
      exact ⟨by simp, by simp [payloads]⟩
  | succ n ih =>
      simp only [Reader.after] at h
      split at h
      · rename_i x hx
        rcases x with e | ⟨statements, remaining⟩
        · simp [receiveReader] at h
        · by_cases hlt : acc + UInt32.ofNat statements.length < expected
          · have hgo : (env.receiveReader expected).after window
                (acc + UInt32.ofNat statements.length) s.tail n = some acc' := by
              simpa [receiveReader, hlt] using h
            obtain ⟨hall, hacc⟩ := ih hgo
            refine ⟨?_, ?_⟩
            · intro i hi
              cases i with
              | zero => exact ⟨_, hx⟩
              | succ i => exact hall i (by omega)
            · rw [payloads_succ_head hx, List.length_append, UInt32.ofNat_add, hacc,
                UInt32.add_assoc]
              rfl
          · simp [receiveReader, hlt] at h
      · cases h

/-- The loop succeeds only on events, and only after enough statements: the
32-bit count never exceeds the true one. -/
theorem receive_ok {out : Reading (Except String StatementEvent)
      (Except (FailureKind × String) UInt32)} {received : UInt32}
    (h : env.receive fuel expected s = some out) (hok : out.result = .ok received) :
    ∃ n, (∀ i < n, ∃ ev,
        DeliversAt (Duration.fromMillis env.config.receiveTimeoutMs) s i ev) ∧
      expected.toNat ≤ (payloads s n).length := by
  unfold receive at h
  split at h
  · obtain ⟨n, acc, hafter, hend, -⟩ := Reader.read_some h
    obtain ⟨hall, hacc⟩ := receiveReader_after hafter
    rw [hok] at hend
    unfold Reader.ending at hend
    rcases hp : (s.get n).within (Duration.fromMillis env.config.receiveTimeoutMs)
      with _ | _ | (e | ⟨statements, remaining⟩)
    · simp [hp, receiveReader] at hend
    · simp [hp, receiveReader] at hend
    · simp [hp, receiveReader] at hend
    · by_cases hlt : acc + UInt32.ofNat statements.length < expected
      · simp [hp, receiveReader, hlt] at hend
      · refine ⟨n + 1, ?_, ?_⟩
        · intro i hi
          rcases Nat.lt_succ_iff_lt_or_eq.mp hi with hi | rfl
          · exact hall i hi
          · exact ⟨_, hp⟩
        · rw [payloads_succ hp, List.length_append, StatementEvent.statements]
          have hcount : acc + UInt32.ofNat statements.length =
              UInt32.ofNat ((payloads s n).length + statements.length) := by
            rw [hacc, UInt32.zero_add, ← UInt32.ofNat_add]
          rw [hcount] at hlt
          have hle := UInt32.le_iff_toNat_le.mp (UInt32.not_lt.mp hlt)
          rw [UInt32.toNat_ofNat'] at hle
          exact hle.trans (Nat.mod_le _ _)
  · rename_i hpos
    have hzero : expected.toNat = 0 := by
      have := UInt32.le_iff_toNat_le.mp (UInt32.not_lt.mp hpos)
      simpa using this
    exact ⟨0, by simp, by omega⟩

/-- The failures of the receive loop. -/
theorem receive_error {out : Reading (Except String StatementEvent)
      (Except (FailureKind × String) UInt32)} {kind : FailureKind} {detail : String}
    (h : env.receive fuel expected s = some out) (herr : out.result = .error (kind, detail)) :
    kind = .propagationTimeout ∨ kind = .subscriptionClosed ∨
      kind = .subscriptionStreamError := by
  unfold receive at h
  split at h
  · obtain ⟨n, acc, -, hend, -⟩ := Reader.read_some h
    rw [herr] at hend
    unfold Reader.ending at hend
    rcases hp : (s.get n).within (Duration.fromMillis env.config.receiveTimeoutMs)
      with _ | _ | (e | ⟨statements, remaining⟩)
    · simp [hp, receiveReader] at hend; simp [hend.1]
    · simp [hp, receiveReader] at hend; simp [hend.1]
    · simp [hp, receiveReader] at hend; simp [hend.1]
    · by_cases hlt : acc + UInt32.ofNat statements.length < expected <;>
        simp [hp, receiveReader, hlt] at hend
  · obtain rfl := Option.some.inj h
    cases herr

end RoundEnv

/-! ## Everything a round can do -/

/-- The failures of a round that has got past the guard. -/
def roundFailures : List FailureKind :=
  [.subscribeFailed, .submitFailed, .propagationTimeout, .subscriptionClosed,
    .subscriptionStreamError]

/-- The topics a round subscribes to. -/
def RoundEnv.expected (env : RoundEnv) : List Topic :=
  expectedTopics env.crates env.config env.round (expectedCount env.config.messagesPattern)

theorem RoundEnv.expected_length (env : RoundEnv) :
    env.expected.length = (expectedCount env.config.messagesPattern).toNat := by
  simp [RoundEnv.expected, expectedTopics]

/-- The round has waited for at least `expected_count` deliveries of the
subscription it opened. -/
structure Received (env : RoundEnv) (before : World) (subscription : EventStream) (n : Nat) :
    Prop where
  opened : (before.conns env.rpcClient).subscriptions.head.2 = .ok subscription
  delivered : ∀ i < n, ∃ ev,
    DeliversAt (Duration.fromMillis env.config.receiveTimeoutMs) subscription i ev
  enough : (expectedCount env.config.messagesPattern).toNat ≤ (payloads subscription n).length

/-- What a round that has got past the guard leaves behind. -/
structure Opened (env : RoundEnv) (before after : World)
    (res : Except FailureKind RoundStats) (sends : List Call) : Prop where
  fits : env.expected.length ≤ 128
  calls : after.calls = before.calls ++
    .subscribe env.rpcClient before.now (.matchAny ⟨env.expected, fits⟩) :: sends
  noSubscription : subscribed sends = []
  sentFrom : RoundEnv.SentFrom env 0 (messagePlan env.config.messagesPattern) (submitted sends)
  outcome : (∃ kind ∈ roundFailures, res = .error kind) ∨
    ∃ stats subscription n, res = .ok stats ∧
      (submitted sends).length = (messagePlan env.config.messagesPattern).length ∧
      Received env before subscription n

variable {env : RoundEnv} {fuel : Nat} {w w' : World} {res : Except FailureKind RoundStats}

/-- The guard: too many topics end the round before its first call. -/
theorem executeRound_of_lt (fuel : Nat) (w : World)
    (h : 128 < (expectedCount env.config.messagesPattern).toNat) :
    ∃ w', executeRound env fuel w = some (.error .tooManyTopics, w') ∧ w'.calls = w.calls := by
  have hnone : BoundedVec.tryFrom 128 (expectedTopics env.crates env.config env.round
      (expectedCount env.config.messagesPattern)) = none :=
    BoundedVec.tryFrom_of_lt (by rw [← RoundEnv.expected_length] at h; exact h)
  refine ⟨(env.failRound .tooManyTopics
    s!"max 128, got {(expectedCount env.config.messagesPattern).toNat}" w :
      Except FailureKind RoundStats × World).2, ?_, rfl⟩
  simp only [executeRound, hnone]
  rfl

/-- The ways out of a round, in the order of the code. -/
inductive RoundExit (env : RoundEnv) (fuel : Nat) (w : World) :
    Except FailureKind RoundStats → World → Prop
  /-- at the guard -/
  | guarded {line : String} (hlt : 128 < (expectedCount env.config.messagesPattern).toNat) :
      RoundExit env fuel w (.error .tooManyTopics) (w.logLine line)
  /-- the subscription does not open -/
  | refused {e line : String} {v : World} (hfits : env.expected.length ≤ 128)
      (hsub : subscribeTopic env.rpcClient (.matchAny ⟨env.expected, hfits⟩) w = (.error e, v)) :
      RoundExit env fuel w (.error .subscribeFailed) (v.logLine line)
  /-- a submission fails -/
  | broken {subscription : EventStream} {kind : FailureKind} {u v : World}
      (hfits : env.expected.length ≤ 128)
      (hsub : subscribeTopic env.rpcClient (.matchAny ⟨env.expected, hfits⟩) w =
        (.ok subscription, v))
      (hplan : env.sendPlan (messagePlan env.config.messagesPattern) 0 v = (.error kind, u)) :
      RoundExit env fuel w (.error kind) u
  /-- the receive loop fails -/
  | failed {subscription : EventStream} {count : UInt32} {u v : World}
      {reading : Reading (Except String StatementEvent) (Except (FailureKind × String) UInt32)}
      {kind : FailureKind} {detail line : String} (hfits : env.expected.length ≤ 128)
      (hsub : subscribeTopic env.rpcClient (.matchAny ⟨env.expected, hfits⟩) w =
        (.ok subscription, v))
      (hplan : env.sendPlan (messagePlan env.config.messagesPattern) 0 v = (.ok count, u))
      (hreading : env.receive fuel (expectedCount env.config.messagesPattern) subscription =
        some reading)
      (hresult : reading.result = .error (kind, detail)) :
      RoundExit env fuel w (.error kind) ((u.wait reading.spent).logLine line)
  /-- enough has been received -/
  | received {subscription : EventStream} {count received : UInt32} {u v : World}
      {reading : Reading (Except String StatementEvent) (Except (FailureKind × String) UInt32)}
      {stats : RoundStats} (hfits : env.expected.length ≤ 128)
      (hsub : subscribeTopic env.rpcClient (.matchAny ⟨env.expected, hfits⟩) w =
        (.ok subscription, v))
      (hplan : env.sendPlan (messagePlan env.config.messagesPattern) 0 v = (.ok count, u))
      (hreading : env.receive fuel (expectedCount env.config.messagesPattern) subscription =
        some reading)
      (hresult : reading.result = .ok received) :
      RoundExit env fuel w (.ok stats) (u.wait reading.spent)

theorem executeRound_exits (h : executeRound env fuel w = some (res, w')) :
    RoundExit env fuel w res w' := by
  by_cases hlt : 128 < (expectedCount env.config.messagesPattern).toNat
  · have hnone : BoundedVec.tryFrom 128 (expectedTopics env.crates env.config env.round
        (expectedCount env.config.messagesPattern)) = none :=
      BoundedVec.tryFrom_of_lt (by rw [← RoundEnv.expected_length] at hlt; exact hlt)
    simp only [executeRound, hnone] at h
    obtain ⟨rfl, rfl⟩ := Prod.mk.inj (Option.some.inj h)
    exact .guarded hlt
  · have hfits : env.expected.length ≤ 128 := by rw [RoundEnv.expected_length]; omega
    have hbounded : BoundedVec.tryFrom 128 (expectedTopics env.crates env.config env.round
        (expectedCount env.config.messagesPattern)) = some ⟨env.expected, hfits⟩ :=
      BoundedVec.tryFrom_of_le hfits
    simp only [executeRound, hbounded] at h
    rcases hsub : subscribeTopic env.rpcClient (.matchAny ⟨env.expected, hfits⟩) w with
      ⟨answer, v⟩
    simp only [hsub] at h
    cases answer with
    | error e =>
        obtain ⟨rfl, rfl⟩ := Prod.mk.inj (Option.some.inj h)
        exact .refused hfits hsub
    | ok subscription =>
        simp only [RoundEnv.sendPattern_eq_sendPlan] at h
        rcases hplan : env.sendPlan (messagePlan env.config.messagesPattern) 0 v with ⟨sent, u⟩
        simp only [hplan] at h
        cases sent with
        | error kind =>
            obtain ⟨rfl, rfl⟩ := Prod.mk.inj (Option.some.inj h)
            exact .broken hfits hsub hplan
        | ok count =>
            obtain ⟨reading, hreading, h⟩ := Option.map_eq_some_iff.mp h
            cases hresult : reading.result with
            | error failure =>
                obtain ⟨kind, detail⟩ := failure
                simp only [hresult] at h
                obtain ⟨rfl, rfl⟩ := Prod.mk.inj h
                exact .failed hfits hsub hplan hreading hresult
            | ok received =>
                simp only [hresult] at h
                obtain ⟨rfl, rfl⟩ := Prod.mk.inj h
                exact .received hfits hsub hplan hreading hresult

/-- The calls of a round that has subscribed. -/
theorem opened_calls {subscription : EventStream} {v u : World} {sends : List Call}
    (hfits : env.expected.length ≤ 128)
    (hsub : subscribeTopic env.rpcClient (.matchAny ⟨env.expected, hfits⟩) w =
      (.ok subscription, v)) (hsends : u.calls = v.calls ++ sends) :
    u.calls = w.calls ++
      .subscribe env.rpcClient w.now (.matchAny ⟨env.expected, hfits⟩) :: sends := by
  have hcalls := subscribeTopic_calls env.rpcClient w (.matchAny ⟨env.expected, hfits⟩)
  rw [hsub] at hcalls
  rw [hsends, hcalls, List.append_assoc]
  rfl

/-- **The cases of a round.** -/
theorem executeRound_cases (h : executeRound env fuel w = some (res, w')) :
    (128 < (expectedCount env.config.messagesPattern).toNat ∧ res = .error .tooManyTopics ∧
        w'.calls = w.calls) ∨
      ∃ sends, Opened env w w' res sends := by
  cases executeRound_exits h with
  | guarded hlt => exact Or.inl ⟨hlt, rfl, rfl⟩
  | refused hfits hsub =>
      have hcalls := subscribeTopic_calls env.rpcClient w (.matchAny ⟨env.expected, hfits⟩)
      rw [hsub] at hcalls
      exact Or.inr ⟨[], hfits, hcalls, rfl, RoundEnv.SentFrom.nil,
        Or.inl ⟨.subscribeFailed, by simp [roundFailures], rfl⟩⟩
  | broken hfits hsub hplan =>
      obtain ⟨sends, hsent⟩ := RoundEnv.sendPlan_sent hplan
      rcases hsent.done with ⟨count, hok, -⟩ | hfailed
      · cases hok
      · obtain rfl := Except.error.inj hfailed
        exact Or.inr ⟨sends, hfits, opened_calls hfits hsub hsent.calls, hsent.noSubscription,
          hsent.sentFrom, Or.inl ⟨.submitFailed, by simp [roundFailures], rfl⟩⟩
  | @failed _ _ _ _ _ kind _ _ hfits hsub hplan hreading hresult =>
      obtain ⟨sends, hsent⟩ := RoundEnv.sendPlan_sent hplan
      have hkind : kind ∈ roundFailures := by
        rcases RoundEnv.receive_error hreading hresult with rfl | rfl | rfl <;>
          simp [roundFailures]
      exact Or.inr ⟨sends, hfits, opened_calls hfits hsub hsent.calls, hsent.noSubscription,
        hsent.sentFrom, Or.inl ⟨kind, hkind, rfl⟩⟩
  | @received subscription _ _ _ _ _ stats hfits hsub hplan hreading hresult =>
      obtain ⟨sends, hsent⟩ := RoundEnv.sendPlan_sent hplan
      have hopen : (w.conns env.rpcClient).subscriptions.head.2 = .ok subscription :=
        congrArg Prod.fst hsub
      obtain ⟨n, hall, henough⟩ := RoundEnv.receive_ok hreading hresult
      rcases hsent.done with ⟨count, -, hlen⟩ | hfailed
      · exact Or.inr ⟨sends, hfits, opened_calls hfits hsub hsent.calls, hsent.noSubscription,
          hsent.sentFrom, Or.inr ⟨stats, subscription, n, rfl, hlen, hopen, hall, henough⟩⟩
      · cases hfailed

end StatementStore
