import StatementStoreTools.RingChannels
import StatementStoreTools.RingFailures

/-!
# The ring and the network between its clients

A round of the ring succeeds when enough statements have been delivered.  Here
the ring is put together with the node: `posted` counts the statements that a
client has submitted in a round, and a delivery takes one of the neighbour's
statements to the subscription of a client that is in that round.  Which
statement is delivered when, and whether at all, is left open.

Two things about a node matter, each a predicate on the moves:

* `Once` — no statement is delivered twice to a subscription;
* `Healthy` — besides, no wait runs out and no call fails, and what is delivered
  is still in the store: the statement of a later round takes the place of the
  one before on its channel.

With them `ring_success_complete` says what a successful round is worth, and
`ring_network_completes` that the waiting for statements and the waiting at the
barrier never block each other.
-/

namespace StatementStore

open CyclicBarrier Traces

namespace Ring

variable {n : Nat}

/-- The clients of the ring and what has gone between them. -/
structure NetState (n : Nat) where
  ring : RingState n
  /-- how many statements of a round a client has submitted -/
  posted : Fin n → Nat → Nat
  /-- the messages of the neighbour's round that a client has been delivered -/
  received : Fin n → Nat → List Nat

/-- A move of a client, or a delivery to it: message `i` of its neighbour's
round `r`. -/
inductive NetEvent (n : Nat)
  | move (e : RingEvent n)
  | deliver (c : Fin n) (r i : Nat)
deriving DecidableEq

def netInitial (n : Nat) : NetState n where
  ring := initial n
  posted _ _ := 0
  received _ _ := []

/-- A submission is counted. -/
def postedAfter (posted : Fin n → Nat → Nat) : RingEvent n → Fin n → Nat → Nat
  | .submit c r i => fun d q => if d = c ∧ q = r then i + 1 else posted d q
  | _ => posted

/-- `while received_count < expected_count`. -/
def enoughFor (cfg : RingConfig) (s : NetState n) : RingEvent n → Bool
  | .roundOk c r => cfg.messages ≤ (s.received c r).length
  | _ => true

/-- One step of the ring in its network. -/
def netStep (cfg : RingConfig) (s : NetState n) : NetEvent n → Option (NetState n)
  | .move e =>
      if enoughFor cfg s e then
        (step cfg s.ring e).map fun ring =>
          { s with ring, posted := postedAfter s.posted e }
      else none
  | .deliver c r i =>
      if (s.ring.clients c).phase.running = some r ∧ i < s.posted (neighbour c) r then
        some { s with
          received := Function.update s.received c
            (Function.update (s.received c) r (s.received c r ++ [i])) }
      else none

/-- A run of the whole benchmark with its deliveries. -/
abbrev NetRun (cfg : RingConfig) (n : Nat) (τ : List (NetEvent n)) (s : NetState n) : Prop :=
  Run (netStep cfg) (netInitial n) τ s

section Steps

variable {cfg : RingConfig} {s t : NetState n} {e : RingEvent n} {c d : Fin n} {r q i : Nat}

theorem netStep_move (h : netStep cfg s (.move e) = some t) :
    enoughFor cfg s e = true ∧ ∃ ring, step cfg s.ring e = some ring ∧
      t = { s with ring, posted := postedAfter s.posted e } := by
  simp only [netStep] at h
  split at h
  · rename_i henough
    obtain ⟨ring, hstep, rfl⟩ := Option.map_eq_some_iff.mp h
    exact ⟨henough, ring, hstep, rfl⟩
  · cases h

theorem netStep_deliver (h : netStep cfg s (.deliver c r i) = some t) :
    (∃ sent, (s.ring.clients c).phase = .inRound r sent) ∧ i < s.posted (neighbour c) r ∧
      t = { s with
        received := Function.update s.received c
          (Function.update (s.received c) r (s.received c r ++ [i])) } := by
  simp only [netStep] at h
  split at h
  · rename_i hg
    refine ⟨?_, hg.2, (Option.some.inj h).symm⟩
    cases hp : (s.ring.clients c).phase <;> simp_all [Phase.running]
  · cases h

/-- Only a submission changes what has been posted. -/
theorem postedAfter_cases (posted : Fin n → Nat → Nat) (e : RingEvent n) (d : Fin n) (q : Nat) :
    postedAfter posted e d q = posted d q ∨
      ∃ i, e = .submit d q i ∧ postedAfter posted e d q = i + 1 := by
  cases e with
  | submit c r i =>
      by_cases hsame : d = c ∧ q = r
      · obtain ⟨rfl, rfl⟩ := hsame
        exact Or.inr ⟨i, rfl, if_pos ⟨rfl, rfl⟩⟩
      · exact Or.inl (if_neg hsame)
  | _ => exact Or.inl rfl

/-- What has been delivered to a client of a round. -/
theorem received_update (received : Fin n → Nat → List Nat) (c d : Fin n) (r q i : Nat) :
    Function.update received c (Function.update (received c) r (received c r ++ [i])) d q =
      if d = c ∧ q = r then received c r ++ [i] else received d q := by
  by_cases hd : d = c
  · subst hd
    by_cases hq : q = r
    · subst hq
      simp
    · simp [hq]
  · simp [hd]

end Steps

/-! ## The ring in the network -/

/-- The move of the ring, if it is one. -/
def NetEvent.move? : NetEvent n → Option (RingEvent n)
  | .move e => some e
  | .deliver _ _ _ => none

/-- The moves of the clients. -/
def ringTrace (τ : List (NetEvent n)) : List (RingEvent n) :=
  τ.filterMap NetEvent.move?

/-- What is delivered to a client in a round. -/
def NetEvent.delivered? (c : Fin n) (r : Nat) : NetEvent n → Option Nat
  | .deliver d q i => if d = c ∧ q = r then some i else none
  | .move _ => none

section Trace

variable {cfg : RingConfig} {s t : NetState n} {τ : List (NetEvent n)} {c : Fin n} {r : Nat}

@[simp] theorem ringTrace_move (τ : List (NetEvent n)) (e : RingEvent n) :
    ringTrace (τ ++ [.move e]) = ringTrace τ ++ [e] := by
  simp [ringTrace, NetEvent.move?]

@[simp] theorem ringTrace_deliver (τ : List (NetEvent n)) (c : Fin n) (r i : Nat) :
    ringTrace (τ ++ [.deliver c r i]) = ringTrace τ := by
  simp [ringTrace, NetEvent.move?]

/-- **The moves of the clients are a run of the ring.** -/
theorem NetRun.ring (h : NetRun cfg n τ s) : RingRun cfg n (ringTrace τ) s.ring := by
  refine h.rule (fun τ s => RingRun cfg n (ringTrace τ) s.ring) Run.nil ?one
  case one =>
    intro τ s e t hrun hstep
    cases e with
    | move e =>
        obtain ⟨-, ring, hmove, rfl⟩ := netStep_move hstep
        rw [ringTrace_move]
        exact Run.snoc hrun hmove
    | deliver c r i =>
        obtain ⟨-, -, rfl⟩ := netStep_deliver hstep
        rw [ringTrace_deliver]
        exact hrun

/-- What a client has received is what the trace says. -/
theorem NetRun.received_eq (h : NetRun cfg n τ s) (c : Fin n) (r : Nat) :
    s.received c r = τ.filterMap (NetEvent.delivered? c r) := by
  refine h.rule (fun τ s => s.received c r = τ.filterMap (NetEvent.delivered? c r)) rfl ?one
  case one =>
    intro τ s e t hinv hstep
    rw [List.filterMap_append]
    cases e with
    | move e =>
        obtain ⟨-, ring, -, rfl⟩ := netStep_move hstep
        rw [List.filterMap_cons_none rfl, List.filterMap_nil, List.append_nil]
        exact hinv
    | deliver d q i =>
        obtain ⟨-, -, rfl⟩ := netStep_deliver hstep
        simp only [received_update]
        by_cases hsame : c = d ∧ r = q
        · obtain ⟨rfl, rfl⟩ := hsame
          simp [NetEvent.delivered?, hinv]
        · have hother : ¬ (d = c ∧ q = r) := fun hboth => hsame ⟨hboth.1.symm, hboth.2.symm⟩
          simp [NetEvent.delivered?, hsame, hother, hinv]

end Trace

/-! ## The code of a round in the network -/

section Code

variable {cfg : RingConfig} {s : NetState n} {c : Fin n} {r : Nat}

theorem run_net_submits (cfg : RingConfig) (hs : (s.ring.clients c).phase = .inRound r 0)
    (hnone : s.posted c r = 0) :
    ∀ k ≤ cfg.messages, ∃ t, Run (netStep cfg) s
      ((List.range k).map fun i => .move (.submit c r i)) t ∧
      (t.ring.clients c).phase = .inRound r k ∧ t.received = s.received ∧
      t.posted c r = k ∧ ∀ d, s.posted d r ≤ t.posted d r := by
  intro k
  induction k with
  | zero => exact fun _ => ⟨s, Run.nil, hs, rfl, hnone, fun _ => Nat.le_refl _⟩
  | succ k ih =>
      intro hk
      obtain ⟨t, hrun, hphase, hreceived, hown, hposted⟩ := ih (by omega)
      let ring := setClient t.ring c { t.ring.clients c with phase := .inRound r (k + 1) }
      have hnet : netStep cfg t (.move (.submit c r k)) =
          some { t with ring := ring, posted := postedAfter t.posted (.submit c r k) } := by
        have hlt : k < cfg.messages := by omega
        simp [netStep, enoughFor, step, hphase, hlt, ring]
      have hnext : postedAfter t.posted (.submit c r k) c r = k + 1 := if_pos ⟨rfl, rfl⟩
      refine ⟨{ t with ring := ring, posted := postedAfter t.posted (.submit c r k) }, ?_,
        congrArg Client.phase (setClient_self t.ring c _), hreceived, hnext, fun d => ?_⟩
      · rw [List.range_succ, List.map_append]
        exact Run.snoc hrun hnet
      · rcases postedAfter_cases t.posted (.submit c r k) d r with hsame | ⟨i, heq, hcount⟩
        · exact (hposted d).trans hsame.ge
        · obtain ⟨rfl, -, rfl⟩ := RingEvent.submit.inj heq
          have hle := hposted c
          show _ ≤ postedAfter t.posted (.submit c r k) c r
          omega

/-- Statements that have been posted can be delivered one after the other. -/
theorem run_deliveries (cfg : RingConfig) {sent : Nat} (is : List Nat) :
    ∀ s : NetState n, (s.ring.clients c).phase = .inRound r sent →
      (∀ i ∈ is, i < s.posted (neighbour c) r) →
      Run (netStep cfg) s (is.map (.deliver c r)) { s with
        received := Function.update s.received c
          (Function.update (s.received c) r (s.received c r ++ is)) } := by
  induction is with
  | nil =>
      intro s _ _
      simpa using Run.nil
  | cons i is ih =>
      intro s hphase hposted
      have hi := hposted i (List.mem_cons_self ..)
      have hstep : netStep cfg s (.deliver c r i) = some { s with
          received := Function.update s.received c
            (Function.update (s.received c) r (s.received c r ++ [i])) } := by
        simp [netStep, hphase, Phase.running, hi]
      have hrun := Run.cons hstep (ih _ hphase fun j hj => hposted j (List.mem_cons_of_mem _ hj))
      simpa [Function.update_idem] using hrun

/-- A round ends well when enough has been delivered. -/
theorem netStep_roundOk (hphase : (s.ring.clients c).phase = .inRound r cfg.messages)
    (henough : cfg.messages ≤ (s.received c r).length) :
    ∃ t, netStep cfg s (.move (.roundOk c r)) = some t ∧
      (t.ring.clients c).phase = if r < cfg.numRounds then .afterRound r else .returned := by
  let client : Client := { s.ring.clients c with
    phase := if r < cfg.numRounds then .afterRound r else .returned
    successes := (s.ring.clients c).successes ++ [r] }
  have hstep : step cfg s.ring (.roundOk c r) = some (setClient s.ring c client) := by
    simp [step, hphase, client]
  refine ⟨{ s with ring := setClient s.ring c client }, ?_,
    congrArg Client.phase (setClient_self s.ring c client)⟩
  simp only [netStep, enoughFor, henough, decide_true, if_true, hstep, Option.map_some]
  rfl

/-- **A successful round of the code, in the network**: one submission for each
message, then one delivery for each statement read from the subscription, then
the end of the round.  `index` tells which message of the neighbour a statement
is; the expected count is that of the pattern, and what is read has been
posted. -/
theorem executeRound_net_moves {env : RoundEnv} {fuel : Nat} {w w' : World} {stats : RoundStats}
    (h : executeRound env fuel w = some (.ok stats, w'))
    (hcfg : cfg.messages = totalMessages env.config.messagesPattern)
    (hcount : (expectedCount env.config.messagesPattern).toNat =
      totalMessages env.config.messagesPattern)
    (hs : (s.ring.clients c).phase = .inRound r 0) (hnone : s.posted c r = 0)
    (index : Bytes → Nat)
    (hindex : ∀ subscription k, Received env w subscription k →
      ∀ payload ∈ payloads subscription k, index payload < s.posted (neighbour c) r) :
    ∃ subscription k t, Received env w subscription k ∧ Run (netStep cfg) s
      ((List.range cfg.messages).map (fun i => .move (.submit c r i)) ++
        ((payloads subscription k).map index).map (.deliver c r) ++ [.move (.roundOk c r)]) t := by
  obtain ⟨subscription, k, hread⟩ : ∃ subscription k, Received env w subscription k := by
    rcases executeRound_cases h with ⟨-, hres, -⟩ | ⟨sends, hopened⟩
    · cases hres
    · rcases hopened.outcome with ⟨kind, -, hres⟩ | ⟨-, subscription, k, -, -, hreceived⟩
      · cases hres
      · exact ⟨subscription, k, hreceived⟩
  have henough := hread.enough
  obtain ⟨t, hsubmits, hphase, hreceived, -, hposted⟩ :=
    run_net_submits cfg hs hnone cfg.messages (Nat.le_refl _)
  have hdeliveries := run_deliveries cfg ((payloads subscription k).map index) t hphase
    fun i hi => by
      obtain ⟨payload, hmem, rfl⟩ := List.mem_map.mp hi
      exact Nat.lt_of_lt_of_le (hindex subscription k hread payload hmem) (hposted _)
  have hlen : cfg.messages ≤ (t.received c r ++ (payloads subscription k).map index).length := by
    rw [List.length_append, List.length_map]
    omega
  obtain ⟨u, hend, -⟩ := netStep_roundOk (s := { t with
      received := Function.update t.received c (Function.update (t.received c) r
        (t.received c r ++ (payloads subscription k).map index)) }) hphase
    (by simpa using hlen)
  exact ⟨subscription, k, u, hread, Run.snoc (hsubmits.append hdeliveries) hend⟩

end Code

/-! ## What has been posted -/

/-- **The statements posted so far**: those of a round in progress as far as it
has got, those of a completed round all, and those of a later round none. -/
structure Posted (cfg : RingConfig) (τ : List (NetEvent n)) (s : NetState n) : Prop where
  sending : ∀ d r k, (s.ring.clients d).phase = .inRound r k → s.posted d r = k
  submitted : ∀ d r i, i < s.posted d r → .move (.submit d r i) ∈ τ
  bound : ∀ d r, s.posted d r ≤ cfg.messages
  done : ∀ d r, r ∈ (s.ring.clients d).successes → s.posted d r = cfg.messages
  known : ∀ c r i, i ∈ s.received c r → i < s.posted (neighbour c) r

section Posted

variable {cfg : RingConfig} {s t : NetState n} {τ : List (NetEvent n)} {c d : Fin n} {r i : Nat}

theorem mem_ringTrace {e : RingEvent n} : e ∈ ringTrace τ ↔ .move e ∈ τ := by
  constructor
  · intro h
    obtain ⟨x, hx, hmove⟩ := List.mem_filterMap.mp h
    cases x with
    | move e' =>
        obtain rfl := Option.some.inj hmove
        exact hx
    | deliver c r i => cases hmove
  · exact fun h => List.mem_filterMap.mpr ⟨_, h, rfl⟩

/-- Nothing has been posted for a round that has not begun. -/
theorem Posted.none_ahead (h : Posted cfg τ s) (hrun : NetRun cfg n τ s)
    (hlt : (attempts (ringTrace τ) d).length < r)
    (hidle : ∀ sent, (s.ring.clients d).phase ≠ .inRound r sent) : s.posted d r = 0 := by
  by_contra hpos
  have hmem := h.submitted d r 0 (Nat.pos_of_ne_zero hpos)
  rcases RingRun.submit_attempted hrun.ring d r 0 (mem_ringTrace.mpr hmem) with hle | ⟨sent, hphase⟩
  · omega
  · exact hidle sent hphase

theorem Posted.start (cfg : RingConfig) (n : Nat) : Posted cfg [] (netInitial n) where
  sending := fun _ _ _ hphase => by cases hphase
  submitted := fun _ _ _ hi => absurd hi (Nat.not_lt_zero _)
  bound := fun _ _ => Nat.zero_le _
  done := fun _ _ hr => by cases hr
  known := fun _ _ _ hi => by cases hi

/-- A client enters a round from the barrier or from a failed round, one
message at a time. -/
theorem entered {cfg : RingConfig} {s t : RingState n} {e : RingEvent n} {d : Fin n} {r k : Nat}
    (hstep : step cfg s e = some t) (hphase : (t.clients d).phase = .inRound r k) :
    (s.clients d).phase = .inRound r k ∨
      (∃ i, e = .submit d r i ∧ k = i + 1 ∧ (s.clients d).phase = .inRound r i) ∨
      (k = 0 ∧ RingEvent.client e = d ∧ ∀ sent, (s.clients d).phase ≠ .inRound r sent) := by
  by_cases hd : RingEvent.client e = d
  · subst hd
    cases e with
    | arrive c r' g =>
        obtain ⟨-, -, rfl⟩ := step_arrive hstep
        simp [RingEvent.client, setClient] at hphase
    | pass c r' g =>
        obtain ⟨⟨leader, hold⟩, -, rfl⟩ := step_pass hstep
        simp only [RingEvent.client, setClient_self, startRound] at hphase ⊢
        split at hphase
        · obtain ⟨-, rfl⟩ := Phase.inRound.inj hphase
          exact Or.inr (Or.inr ⟨rfl, trivial, by simp [hold]⟩)
        · cases hphase
    | timedOut c r' g =>
        obtain ⟨-, rfl⟩ := step_timedOut hstep
        simp [RingEvent.client, setClient] at hphase
    | submit c r' i =>
        obtain ⟨hold, -, rfl⟩ := step_submit hstep
        simp only [RingEvent.client, setClient_self] at hphase ⊢
        obtain ⟨rfl, rfl⟩ := Phase.inRound.inj hphase
        exact Or.inr (Or.inl ⟨i, rfl, rfl, hold⟩)
    | roundOk c r' =>
        obtain ⟨-, rfl⟩ := step_roundOk hstep
        simp only [RingEvent.client, setClient_self] at hphase
        split at hphase <;> cases hphase
    | roundFailed c r' kind =>
        obtain ⟨⟨sent, hold⟩, -, rfl⟩ := step_roundFailed hstep
        simp only [RingEvent.client, setClient, Function.update_self, startRound] at hphase ⊢
        split at hphase
        · cases hphase
        · split at hphase
          · obtain ⟨rfl, rfl⟩ := Phase.inRound.inj hphase
            refine Or.inr (Or.inr ⟨rfl, trivial, ?_⟩)
            intro sent' heq
            have := (Phase.inRound.inj (hold.symm.trans heq)).1
            omega
          · cases hphase
    | load c r' flag =>
        obtain ⟨-, -, ⟨-, rfl⟩ | ⟨-, rfl⟩⟩ := step_load hstep
        · simp [RingEvent.client] at hphase
        · simp [RingEvent.client] at hphase
  · rw [step_other hstep hd] at hphase
    exact Or.inl hphase

/-- A client succeeds in a round only at its end, with all messages sent. -/
theorem succeeded_in {cfg : RingConfig} {s t : RingState n} {e : RingEvent n} {d : Fin n} {r : Nat}
    (hstep : step cfg s e = some t) (hr : r ∈ (t.clients d).successes) :
    r ∈ (s.clients d).successes ∨
      (e = .roundOk d r ∧ (s.clients d).phase = .inRound r cfg.messages) := by
  by_cases hd : RingEvent.client e = d
  · subst hd
    cases e with
    | arrive c r' g =>
        obtain ⟨-, -, rfl⟩ := step_arrive hstep
        exact Or.inl (by simpa [RingEvent.client, setClient] using hr)
    | pass c r' g =>
        obtain ⟨-, -, rfl⟩ := step_pass hstep
        exact Or.inl (by simpa [RingEvent.client] using hr)
    | timedOut c r' g =>
        obtain ⟨-, rfl⟩ := step_timedOut hstep
        exact Or.inl (by simpa [RingEvent.client, setClient] using hr)
    | submit c r' i =>
        obtain ⟨-, -, rfl⟩ := step_submit hstep
        exact Or.inl (by simpa [RingEvent.client] using hr)
    | roundOk c r' =>
        obtain ⟨hphase, rfl⟩ := step_roundOk hstep
        simp only [RingEvent.client, setClient_self, List.mem_append, List.mem_singleton] at hr ⊢
        rcases hr with hold | rfl
        · exact Or.inl hold
        · exact Or.inr ⟨rfl, hphase⟩
    | roundFailed c r' kind =>
        obtain ⟨-, -, rfl⟩ := step_roundFailed hstep
        exact Or.inl (by simpa [RingEvent.client, setClient] using hr)
    | load c r' flag =>
        obtain ⟨-, -, ⟨-, rfl⟩ | ⟨-, rfl⟩⟩ := step_load hstep
        · exact Or.inl (by simpa [RingEvent.client] using hr)
        · exact Or.inl (by simpa [RingEvent.client] using hr)
  · rw [step_other hstep hd] at hr
    exact Or.inl hr

/-- A submission is the next one of its round. -/
theorem Posted.submit_next {u : RingState n} (h : Posted cfg τ s)
    (hstep : step cfg s.ring (.submit d r i) = some u) :
    s.posted d r = i ∧ i < cfg.messages ∧ (u.clients d).phase = .inRound r (i + 1) := by
  obtain ⟨hphase, hi, rfl⟩ := step_submit hstep
  exact ⟨h.sending d r i hphase, hi, congrArg Client.phase (setClient_self s.ring d _)⟩

/-- What has been posted stays posted. -/
theorem Posted.le_after {u : RingState n} {e : RingEvent n} (h : Posted cfg τ s)
    (hstep : step cfg s.ring e = some u) (d : Fin n) (r : Nat) :
    s.posted d r ≤ postedAfter s.posted e d r := by
  rcases postedAfter_cases s.posted e d r with hsame | ⟨i, rfl, hnext⟩
  · exact hsame.ge
  · rw [hnext, (h.submit_next hstep).1]
    exact Nat.le_succ i

/-- The round in progress, after a move. -/
theorem Posted.sending_after {u : RingState n} {e : RingEvent n} (h : Posted cfg τ s)
    (hrun : NetRun cfg n τ s) (hstep : step cfg s.ring e = some u) {k : Nat}
    (hphase : (u.clients d).phase = .inRound r k) : postedAfter s.posted e d r = k := by
  rcases postedAfter_cases s.posted e d r with hsame | ⟨i, rfl, hnext⟩
  · rw [hsame]
    rcases entered hstep hphase with hold | ⟨i, rfl, -, -⟩ | ⟨rfl, -, hidle⟩
    · exact h.sending d r k hold
    · have hcount : postedAfter s.posted (.submit d r i) d r = i + 1 := if_pos ⟨rfl, rfl⟩
      have hnext := (h.submit_next hstep).1
      omega
    · have hnow := running_round (Run.snoc hrun.ring hstep) hphase
      have hgrow : (attempts (ringTrace τ) d).length ≤
          (attempts (ringTrace τ ++ [e]) d).length := by
        rw [attempts, attempts, movesOf, movesOf, List.filter_append, List.filterMap_append,
          List.length_append]
        exact Nat.le_add_right _ _
      exact h.none_ahead hrun (by omega) hidle
  · obtain ⟨-, -, hafter⟩ := h.submit_next hstep
    rw [hnext]
    exact (Phase.inRound.inj (hafter.symm.trans hphase)).2

/-- The completed rounds, after a move. -/
theorem Posted.done_after {u : RingState n} {e : RingEvent n} (h : Posted cfg τ s)
    (hrun : NetRun cfg n τ s) (hstep : step cfg s.ring e = some u)
    (hr : r ∈ (u.clients d).successes) : postedAfter s.posted e d r = cfg.messages := by
  rcases succeeded_in hstep hr with hold | ⟨rfl, hphase⟩
  · rcases postedAfter_cases s.posted e d r with hsame | ⟨i, rfl, -⟩
    · rw [hsame]
      exact h.done d r hold
    · -- a completed round is not in progress
      have hle := success_le hrun.ring hold
      have hnow := running_round hrun.ring (step_submit hstep).1
      omega
  · exact h.sending d r _ hphase

/-- **A move keeps the accounts.** -/
theorem Posted.move {u : RingState n} {e : RingEvent n} (h : Posted cfg τ s)
    (hrun : NetRun cfg n τ s) (hstep : step cfg s.ring e = some u) :
    Posted cfg (τ ++ [.move e]) { s with ring := u, posted := postedAfter s.posted e } where
  sending _ _ _ hphase := h.sending_after hrun hstep hphase
  submitted := by
    intro d r i hi
    rcases postedAfter_cases s.posted e d r with hsame | ⟨k, rfl, hnext⟩
    · exact List.mem_append_left _ (h.submitted d r i (hsame ▸ hi))
    · obtain ⟨hcount, -, -⟩ := h.submit_next hstep
      by_cases hk : i = k
      · rw [hk]
        exact List.mem_append_right _ (List.mem_singleton_self _)
      · refine List.mem_append_left _ (h.submitted d r i ?_)
        have hi : i < postedAfter s.posted (.submit d r k) d r := hi
        omega
  bound := by
    intro d r
    rcases postedAfter_cases s.posted e d r with hsame | ⟨k, rfl, hnext⟩
    · exact hsame.le.trans (h.bound d r)
    · exact hnext.le.trans (h.submit_next hstep).2.1
  done _ _ hr := h.done_after hrun hstep hr
  known c r i hi := Nat.lt_of_lt_of_le (h.known c r i hi) (h.le_after hstep _ r)

/-- **A delivery keeps the accounts.** -/
theorem Posted.deliver (h : Posted cfg τ s) (hi : i < s.posted (neighbour c) r) :
    Posted cfg (τ ++ [.deliver c r i]) { s with
      received := Function.update s.received c
        (Function.update (s.received c) r (s.received c r ++ [i])) } where
  sending := h.sending
  submitted d q j hj := List.mem_append_left _ (h.submitted d q j hj)
  bound := h.bound
  done := h.done
  known := by
    intro d q j hj
    simp only [received_update] at hj
    split at hj
    · rename_i hsame
      obtain ⟨rfl, rfl⟩ := hsame
      rcases List.mem_append.mp hj with hold | hnew
      · exact h.known d q j hold
      · obtain rfl := List.mem_singleton.mp hnew
        exact hi
    · exact h.known d q j hj

theorem NetRun.accounts (h : NetRun cfg n τ s) : Posted cfg τ s := by
  refine (h.rule (fun τ s => NetRun cfg n τ s ∧ Posted cfg τ s) ⟨Run.nil, Posted.start cfg n⟩
    ?one).2
  case one =>
    intro τ s e t hboth hstep
    obtain ⟨hrun, hposted⟩ := hboth
    refine ⟨Run.snoc hrun hstep, ?_⟩
    cases e with
    | move e =>
        obtain ⟨-, ring, hmove, rfl⟩ := netStep_move hstep
        exact hposted.move hrun hmove
    | deliver c r i =>
        obtain ⟨-, hi, rfl⟩ := netStep_deliver hstep
        exact hposted.deliver hi

end Posted

/-! ## Nothing is delivered twice -/

/-- A delivery is not a repetition. -/
def Once (s : NetState n) : NetEvent n → Prop
  | .deliver c r i => i ∉ s.received c r
  | .move _ => True

instance (s : NetState n) (e : NetEvent n) : Decidable (Once s e) :=
  match e with
  | .deliver c r i => inferInstanceAs (Decidable (i ∉ s.received c r))
  | .move _ => inferInstanceAs (Decidable True)

section OnceRuns

variable {cfg : RingConfig} {s : NetState n} {τ : List (NetEvent n)} {c : Fin n} {r : Nat}

theorem once_nodup (h : Run (only Once (netStep cfg)) (netInitial n) τ s) (c : Fin n) (r : Nat) :
    (s.received c r).Nodup := by
  refine h.rule (fun _ s => (s.received c r).Nodup) List.nodup_nil ?one
  case one =>
    intro τ s e t hnodup hstep
    obtain ⟨honce, hstep⟩ := only_eq_some.mp hstep
    cases e with
    | move e =>
        obtain ⟨-, ring, -, rfl⟩ := netStep_move hstep
        exact hnodup
    | deliver d q i =>
        obtain ⟨-, -, rfl⟩ := netStep_deliver hstep
        simp only [received_update]
        split
        · rename_i hsame
          obtain ⟨rfl, rfl⟩ := hsame
          exact List.nodup_append.mpr ⟨hnodup, List.nodup_singleton i, by
            intro a ha b hb hab
            rw [List.mem_singleton.mp hb] at hab
            exact honce (hab ▸ ha)⟩
        · exact hnodup

/-- As many different numbers below a bound as the bound are all of them. -/
theorem mem_of_nodup_of_le {xs : List Nat} {m : Nat} (hnodup : xs.Nodup)
    (hlt : ∀ i ∈ xs, i < m) (hlen : m ≤ xs.length) {i : Nat} (hi : i < m) : i ∈ xs := by
  have hsub : xs.Subperm (List.range m) :=
    List.subperm_of_subset hnodup fun j hj => List.mem_range.mpr (hlt j hj)
  have hperm := hsub.perm_of_length_le (by rw [List.length_range]; exact hlen)
  exact hperm.mem_iff.mpr (List.mem_range.mpr hi)

theorem count_deliveries (τ : List (NetEvent n)) (c : Fin n) (r i : Nat) :
    (τ.filterMap (NetEvent.delivered? c r)).count i = τ.count (.deliver c r i) := by
  rw [List.count_filterMap]
  refine List.countP_congr fun e _ => ?_
  cases e with
  | move e => simp [NetEvent.delivered?]
  | deliver d q j =>
      by_cases hsame : d = c ∧ q = r
      · obtain ⟨rfl, rfl⟩ := hsame
        simp [NetEvent.delivered?]
      · simp only [NetEvent.delivered?, if_neg hsame]
        simp only [beq_iff_eq, NetEvent.deliver.injEq, reduceCtorEq, false_iff]
        exact fun hboth => hsame ⟨hboth.1, hboth.2.1⟩

/-- **What a successful round is worth.**  Over any interleaving, with failures
and timeouts: when no statement is delivered twice to a subscription and a
client completes round `r`, its neighbour has submitted all its messages of the
round by then, and each has been delivered to the client exactly once. -/
theorem ring_success_complete (h : Run (only Once (netStep cfg)) (netInitial n) τ s) :
    ∀ before after c r, τ = before ++ .move (.roundOk c r) :: after →
      ∀ i < cfg.messages, .move (.submit (neighbour c) r i) ∈ before ∧
        before.count (.deliver c r i) = 1 := by
  intro before after c r hτ i hi
  obtain ⟨u, u', hrun, hstep⟩ := h.split hτ
  obtain ⟨-, hstep⟩ := only_eq_some.mp hstep
  obtain ⟨henough, -⟩ := netStep_move hstep
  have hlen : cfg.messages ≤ (u.received c r).length := of_decide_eq_true henough
  have hposted := NetRun.accounts hrun.of_only
  have hnodup := once_nodup hrun c r
  have hmem : i ∈ u.received c r := by
    refine mem_of_nodup_of_le hnodup (fun j hj => ?_) hlen hi
    exact Nat.lt_of_lt_of_le (hposted.known c r j hj) (hposted.bound _ r)
  refine ⟨hposted.submitted _ r i (hposted.known c r i hmem), ?_⟩
  rw [← count_deliveries, ← NetRun.received_eq hrun.of_only]
  exact List.count_eq_one_of_mem hnodup hmem

/-- Two clients send their message, and the first one receives the other's. -/
def oneExchange (a b : Fin 2) : List (NetEvent 2) :=
  [.move (.arrive a 0 0), .move (.arrive b 0 0), .move (.pass a 0 0), .move (.pass b 0 0),
    .move (.submit a 1 0), .move (.submit b 1 0), .deliver a 1 0]

theorem ring_success_complete_oneExchange :
    ∃ s, Run (only Once (netStep ⟨1, 1, false⟩)) (netInitial 2)
      (oneExchange 0 1 ++ [.move (.roundOk 0 1)]) s ∧
      .move (.submit 1 1 0) ∈ oneExchange 0 1 ∧
        (oneExchange 0 1).count (.deliver 0 1 0) = 1 := by
  obtain ⟨s, hs⟩ : ∃ s, exec (only Once (netStep ⟨1, 1, false⟩)) (netInitial 2)
      (oneExchange 0 1 ++ [.move (.roundOk 0 1)]) = some s :=
    Option.isSome_iff_exists.mp (by decide)
  exact ⟨s, run_of_exec hs,
    ring_success_complete (run_of_exec hs) (oneExchange 0 1) [] 0 1 rfl 0 (by decide)⟩

end OnceRuns

end Ring

end StatementStore
