import StatementStoreTools.RingNetwork

/-!
# A healthy run completes

Two things make a client wait: the statements of its neighbour, and the
barrier.  A client that waits at the barrier has posted all its statements of
the round, and nobody who is let past it needs an older one; so in a run in
which nothing fails, somebody can always go on.

`exists_unblocked` is the argument for the barrier alone, `neighbour_ready` the
one for a client that waits for a statement.  `ring_network_completes` puts
them together, with the rank of the composed system for the end of the run.
-/

namespace StatementStore

open CyclicBarrier Traces

namespace Ring

variable {n : Nat} {cfg : RingConfig}

/-! ## The barrier alone -/

section Barrier

variable {s t : RingState n} {τ : List (RingEvent n)} {c d : Fin n} {e : RingEvent n}

/-- Nobody has recorded a failure. -/
def Clean (s : RingState n) : Prop :=
  s.peerFailed = false ∧ ∀ c, (s.clients c).failures = []

/-- A wait that runs out, or a round that fails. -/
def isTrouble : RingEvent n → Bool
  | .timedOut _ _ _ => true
  | .roundFailed _ _ _ => true
  | _ => false

theorem clean_setClient (h : Clean s) {client : Client} (hclient : client.failures = []) :
    Clean (setClient s c client) := by
  refine ⟨h.1, fun d => ?_⟩
  by_cases hd : d = c
  · subst hd
    rw [setClient_self]
    exact hclient
  · rw [setClient_of_ne s hd]
    exact h.2 d

/-- Without trouble everybody stays clean. -/
theorem Clean.step (h : Clean s) (hok : isTrouble e = false) (hstep : step cfg s e = some t) :
    Clean t := by
  cases e with
  | arrive c r g =>
      obtain ⟨-, -, rfl⟩ := step_arrive hstep
      exact clean_setClient h (h.2 c)
  | pass c r g =>
      obtain ⟨-, -, rfl⟩ := step_pass hstep
      exact clean_setClient h (h.2 c)
  | timedOut c r g => cases hok
  | submit c r i =>
      obtain ⟨-, -, rfl⟩ := step_submit hstep
      exact clean_setClient h (h.2 c)
  | roundOk c r =>
      obtain ⟨-, rfl⟩ := step_roundOk hstep
      exact clean_setClient h (h.2 c)
  | roundFailed c r kind => cases hok
  | load c r flag =>
      obtain ⟨-, hflag, ⟨rfl, rfl⟩ | ⟨-, rfl⟩⟩ := step_load hstep
      · exact absurd (hflag.trans h.1) (by simp)
      · exact clean_setClient h (h.2 c)

/-- Whoever has got past the startup barrier has seen it open. -/
theorem started (h : RingRun cfg n τ s) : ∀ c, (s.clients c).failures = [] →
    (∀ r, (s.clients c).phase ≠ .atBarrier r) →
      (∀ r g leader, (s.clients c).phase ≠ .waiting r g leader) → 1 ≤ s.barrier.generation := by
  refine h.rule (fun _ s => ∀ c, (s.clients c).failures = [] →
    (∀ r, (s.clients c).phase ≠ .atBarrier r) →
      (∀ r g leader, (s.clients c).phase ≠ .waiting r g leader) → 1 ≤ s.barrier.generation)
    ?init ?one
  case init => exact fun c _ hphase => absurd rfl (hphase 0)
  case one =>
    intro τ s e t ih hstep c hclean hbarrier hwaiting
    have hgen := step_generation_le hstep
    by_cases hc : RingEvent.client e = c
    · subst hc
      cases e with
      | arrive c r g =>
          obtain ⟨-, -, rfl⟩ := step_arrive hstep
          exact absurd (congrArg Client.phase (setClient_self s c _)) (hwaiting _ _ _)
      | pass c r g =>
          obtain ⟨-, hlt, rfl⟩ := step_pass hstep
          exact Nat.lt_of_le_of_lt (Nat.zero_le g) hlt
      | timedOut c r g =>
          obtain ⟨-, rfl⟩ := step_timedOut hstep
          simp [RingEvent.client, setClient] at hclean
      | submit c r i =>
          obtain ⟨hphase, -, rfl⟩ := step_submit hstep
          refine ih c ?_ (by simp [hphase]) (by simp [hphase])
          simpa [RingEvent.client] using hclean
      | roundOk c r =>
          obtain ⟨hphase, rfl⟩ := step_roundOk hstep
          refine ih c ?_ (by simp [hphase]) (by simp [hphase])
          simpa [RingEvent.client] using hclean
      | roundFailed c r kind =>
          obtain ⟨-, -, rfl⟩ := step_roundFailed hstep
          simp [RingEvent.client, setClient] at hclean
      | load c r flag =>
          obtain ⟨-, -, ⟨-, rfl⟩ | ⟨-, rfl⟩⟩ := step_load hstep
          · simp [RingEvent.client] at hclean
          · exact absurd (congrArg Client.phase (setClient_self s c _)) (hbarrier _)
    · rw [step_other hstep hc] at hclean hbarrier hwaiting
      exact (ih c hclean hbarrier hwaiting).trans hgen

/-- A client that waits at the open generation, or has returned. -/
def Blocked (s : RingState n) (d : Fin n) : Prop :=
  (∃ r g leader, (s.clients d).phase = .waiting r g leader ∧ s.barrier.generation ≤ g) ∨
    (s.clients d).phase = .returned

/-- A client that waits at the open generation has arrived there. -/
theorem RingInv.waiting_open {arrivals : Fin n → Nat} (h : RingInv cfg τ s arrivals) {r g : Nat}
    {leader : Bool} (hphase : (s.clients d).phase = .waiting r g leader)
    (hopen : s.barrier.generation ≤ g) :
    r = s.barrier.generation ∧ arrivals d = s.barrier.generation + 1 ∧
      (s.clients d).successes = roundsUpTo r := by
  have hupp := h.accounts.upper d
  have hstand := h.standing d
  simp only [Standing, hphase] at hstand
  obtain ⟨-, -, hg, harr, hsucc⟩ := hstand
  exact ⟨by omega, by omega, hsucc⟩

/-- **The barrier does not deadlock.**  As long as nothing has failed and
somebody has not returned, somebody is not kept by the barrier. -/
theorem exists_unblocked (h : RingRun cfg n τ s) (hclean : Clean s)
    (hlive : (s.clients c).phase ≠ .returned) : ∃ d, ¬ Blocked s d := by
  have : Nonempty (Fin n) := ⟨c⟩
  obtain ⟨arrivals, hinv⟩ := RingRun.inv h
  by_contra hall
  have hblocked : ∀ d, Blocked s d := fun d => by_contra fun hd => hall ⟨d, hd⟩
  rcases hblocked c with ⟨r, g, leader, hphase, hopen⟩ | hret
  swap
  · exact hlive hret
  obtain ⟨hr, -, -⟩ := hinv.waiting_open hphase hopen
  by_cases hsome : ∃ d, (s.clients d).phase = .returned
  · -- whoever has returned has left the last generation behind
    obtain ⟨d, hret⟩ := hsome
    have hstand := hinv.standing d
    simp only [Standing, hret] at hstand
    obtain ⟨-, hgen, -⟩ := hstand (hclean.2 d)
    have hstarted := started h d (hclean.2 d) (by simp [hret]) (by simp [hret])
    have hprogress := (RingRun.ledger h c).progress
    rw [hphase] at hprogress
    obtain ⟨-, -, hwhere⟩ := hprogress
    omega
  · -- everybody has arrived, so the generation is not open
    have harrived : ∀ d, arrivals d = s.barrier.generation + 1 := by
      intro d
      rcases hblocked d with ⟨r', g', leader', hphase', hopen'⟩ | hret
      · exact (hinv.waiting_open hphase' hopen').2.1
      · exact absurd ⟨d, hret⟩ hsome
    have hpresent : present s.barrier arrivals = Finset.univ :=
      Finset.filter_true_of_mem fun d _ => harrived d
    have hcount := hinv.accounts.counted
    have hroom := hinv.accounts.not_full
    rw [hpresent, Finset.card_univ] at hcount
    omega

/-- A client that can move without anybody else. -/
inductive Ready (cfg : RingConfig) (s : RingState n) (d : Fin n) : Prop
  | arriving {r : Nat} (hphase : (s.clients d).phase = .atBarrier r)
  | released {r g : Nat} {leader : Bool} (hphase : (s.clients d).phase = .waiting r g leader)
      (hlt : g < s.barrier.generation)
  | reading {r : Nat} (hphase : (s.clients d).phase = .afterRound r)
  | sending {r sent : Nat} (hphase : (s.clients d).phase = .inRound r sent)
      (hlt : sent < cfg.messages)

/-- The move of a client that is ready. -/
theorem Ready.move (h : Ready cfg s d) (hflag : s.peerFailed = false) :
    ∃ e t, isTrouble e = false ∧ (∀ c r, e ≠ .roundOk c r) ∧ step cfg s e = some t := by
  have hmove : ∃ e, isTrouble e = false ∧ (∀ c r, e ≠ .roundOk c r) ∧ (step cfg s e).isSome := by
    cases h with
    | @arriving r hphase =>
        exact ⟨.arrive d r s.barrier.generation, rfl, by simp, by simp [step, hphase]⟩
    | @released r g leader hphase hlt =>
        refine ⟨.pass d r g, rfl, by simp, ?_⟩
        cases leader with
        | true => simp [step, hphase, hlt]
        | false => simp [step, hphase, hlt]
    | @reading r hphase => exact ⟨.load d r false, rfl, by simp, by simp [step, hphase, hflag]⟩
    | @sending r sent hphase hlt =>
        exact ⟨.submit d r sent, rfl, by simp, by simp [step, hphase, hlt]⟩
  obtain ⟨e, hok, hnot, hsome⟩ := hmove
  obtain ⟨t, hstep⟩ := Option.isSome_iff_exists.mp hsome
  exact ⟨e, t, hok, hnot, hstep⟩

end Barrier

/-! ## The ring with its deliveries -/

/-- Statement `i` of round `r` is in the store: it has been posted, and no later
round has written to its channel. -/
def Held (cfg : RingConfig) (s : NetState n) (d : Fin n) (r i : Nat) : Prop :=
  i < s.posted d r ∧ ∀ q ∈ roundsUpTo cfg.numRounds, r < q → s.posted d q ≤ i

instance (cfg : RingConfig) (s : NetState n) (d : Fin n) (r i : Nat) :
    Decidable (Held cfg s d r i) :=
  inferInstanceAs (Decidable (_ ∧ ∀ q ∈ roundsUpTo cfg.numRounds, _))

/-- Nothing fails and nothing runs out; what is delivered is in the store and
has not been delivered before. -/
def Healthy (cfg : RingConfig) (s : NetState n) : NetEvent n → Prop
  | .move e => isTrouble e = false
  | .deliver c r i => i ∉ s.received c r ∧ Held cfg s (neighbour c) r i

instance (cfg : RingConfig) (s : NetState n) (e : NetEvent n) : Decidable (Healthy cfg s e) :=
  match e with
  | .move e => inferInstanceAs (Decidable (isTrouble e = false))
  | .deliver c r i =>
      inferInstanceAs (Decidable (i ∉ s.received c r ∧ Held cfg s (neighbour c) r i))

/-- The steps of a healthy run. -/
abbrev healthyStep (cfg : RingConfig) : NetState n → NetEvent n → Option (NetState n) :=
  only (Healthy cfg) (netStep cfg)

abbrev HealthyRun (cfg : RingConfig) (n : Nat) (τ : List (NetEvent n)) (s : NetState n) : Prop :=
  Run (healthyStep cfg) (netInitial n) τ s

section Healthy

variable {s t : NetState n} {τ : List (NetEvent n)} {c d : Fin n} {e : NetEvent n} {r k : Nat}

theorem HealthyRun.clean (h : HealthyRun cfg n τ s) : Clean s.ring := by
  refine h.rule (fun _ s => Clean s.ring) ⟨rfl, fun _ => rfl⟩ ?one
  case one =>
    intro τ s e t hclean hstep
    obtain ⟨hok, hstep⟩ := only_eq_some.mp hstep
    cases e with
    | move e =>
        obtain ⟨-, ring, hmove, rfl⟩ := netStep_move hstep
        exact hclean.step hok hmove
    | deliver c r i =>
        obtain ⟨-, -, rfl⟩ := netStep_deliver hstep
        exact hclean

theorem HealthyRun.once (h : HealthyRun cfg n τ s) :
    Run (only Once (netStep cfg)) (netInitial n) τ s := by
  refine Run.of_only_imp (fun s e hok => ?_) h
  cases e with
  | move e => trivial
  | deliver c r i => exact hok.1

/-- All statements of a completed round are in the store until the next round. -/
theorem held_of_posted (hrun : NetRun cfg n τ s) (hall : s.posted d r = cfg.messages)
    (hlen : (attempts (ringTrace τ) d).length ≤ r)
    (hidle : ∀ q sent, r < q → (s.ring.clients d).phase ≠ .inRound q sent) {i : Nat}
    (hi : i < cfg.messages) : Held cfg s d r i := by
  refine ⟨by omega, fun q _ hq => ?_⟩
  rw [hrun.accounts.none_ahead hrun (by omega) fun sent => hidle q sent hq]
  exact Nat.zero_le i

/-- **The neighbour is not waited for in vain.**  A client waits for the
statements of a round: its neighbour can move by itself, or it has posted them
all and they are in the store. -/
theorem neighbour_ready (h : HealthyRun cfg n τ s)
    (hphase : (s.ring.clients c).phase = .inRound r k) (d : Fin n) :
    Ready cfg s.ring d ∨ ∀ i < cfg.messages, Held cfg s d r i := by
  have : Nonempty (Fin n) := ⟨c⟩
  have hrun : NetRun cfg n τ s := h.of_only
  have hposted := NetRun.accounts hrun
  obtain ⟨-, hfailures⟩ := HealthyRun.clean h
  obtain ⟨arrivals, hinv⟩ := RingRun.inv hrun.ring
  -- the client that waits is in the round of the open generation
  have hstand := hinv.standing c
  have hlow := hinv.accounts.lower c
  simp only [Standing, hphase] at hstand
  obtain ⟨hpos, hr, harr, hgen, -⟩ := hstand (hfailures c)
  have hopen : s.ring.barrier.generation = r := by omega
  have hledger := RingRun.ledger hrun.ring d
  have hprogress := hledger.progress
  have hstand := hinv.standing d
  have hlow := hinv.accounts.lower d
  cases hd : (s.ring.clients d).phase with
  | atBarrier r' => exact Or.inl (.arriving hd)
  | afterRound r' => exact Or.inl (.reading hd)
  | waiting r' g leader =>
      by_cases hlt : g < s.ring.barrier.generation
      · exact Or.inl (.released hd hlt)
      obtain ⟨hr', -, hsucc⟩ := hinv.waiting_open hd (Nat.not_lt.mp hlt)
      rw [hd] at hprogress
      obtain ⟨-, hdone, -⟩ := hprogress
      refine Or.inr fun i hi => held_of_posted hrun ?_ (by omega) (by simp [hd]) hi
      refine hposted.done d r ?_
      rw [hsucc]
      exact mem_roundsUpTo.mpr ⟨hpos, by omega⟩
  | inRound r' k' =>
      simp only [Standing, hd] at hstand
      obtain ⟨-, -, harr', hgen', -⟩ := hstand (hfailures d)
      obtain rfl : r' = r := by omega
      by_cases hlt : k' < cfg.messages
      · exact Or.inl (.sending hd hlt)
      rw [hd] at hprogress
      obtain ⟨-, hdone, -⟩ := hprogress
      have hsent := hposted.sending d r' k' hd
      have hbound := hposted.bound d r'
      refine Or.inr fun i hi => held_of_posted hrun (by omega) (by omega) ?_ hi
      intro q sent hq heq
      have := (Phase.inRound.inj (hd.symm.trans heq)).1
      omega
  | returned =>
      simp only [Standing, hd] at hstand
      obtain ⟨-, hgen', hsucc⟩ := hstand (hfailures d)
      refine Or.inr fun i hi => held_of_posted hrun ?_ ?_ (by simp [hd]) hi
      · refine hposted.done d r ?_
        rw [hsucc]
        exact mem_roundsUpTo.mpr ⟨hpos, hr⟩
      · exact hledger.bound.trans (by omega)

/-- A client that is ready has a healthy move. -/
theorem Ready.healthy (h : Ready cfg s.ring d) (hflag : s.ring.peerFailed = false) :
    ∃ e t, healthyStep cfg s e = some t := by
  obtain ⟨e, ring, hok, hnot, hstep⟩ := h.move hflag
  have henough : enoughFor cfg s e = true := by
    cases e with
    | roundOk c r => exact absurd rfl (hnot c r)
    | _ => rfl
  refine ⟨.move e, { s with ring, posted := postedAfter s.posted e }, ?_⟩
  refine only_eq_some.mpr ⟨hok, ?_⟩
  simp [netStep, henough, hstep]

/-- A client that has sent everything and waits for statements can end its
round, or is delivered one of them, or its neighbour is ready. -/
theorem waiting_moves (h : HealthyRun cfg n τ s)
    (hphase : (s.ring.clients c).phase = .inRound r cfg.messages) :
    ∃ e t, healthyStep cfg s e = some t := by
  by_cases henough : cfg.messages ≤ (s.received c r).length
  · have hend : ∃ ring, step cfg s.ring (.roundOk c r) = some ring := by
      simp [step, hphase]
    obtain ⟨ring, hstep⟩ := hend
    refine ⟨.move (.roundOk c r),
      { s with ring, posted := postedAfter s.posted (.roundOk c r) }, ?_⟩
    refine only_eq_some.mpr ⟨rfl, ?_⟩
    simp [netStep, enoughFor, henough, hstep]
  · -- some message has not been delivered
    obtain ⟨i, hi, hmissing⟩ : ∃ i < cfg.messages, i ∉ s.received c r := by
      by_contra hall
      have hsub : (List.range cfg.messages).Subperm (s.received c r) := by
        refine List.subperm_of_subset List.nodup_range fun i hi => ?_
        by_contra hmissing
        exact hall ⟨i, List.mem_range.mp hi, hmissing⟩
      have hlen := hsub.length_le
      rw [List.length_range] at hlen
      exact henough hlen
    rcases neighbour_ready h hphase (neighbour c) with hready | hheld
    · exact hready.healthy (HealthyRun.clean h).1
    · have hpost := hheld i hi
      refine ⟨.deliver c r i, { s with
        received := Function.update s.received c
          (Function.update (s.received c) r (s.received c r ++ [i])) }, ?_⟩
      refine only_eq_some.mpr ⟨⟨hmissing, hpost⟩, ?_⟩
      simp [netStep, hphase, Phase.running, hpost.1]

/-- **A healthy run can go on** until all clients have returned. -/
theorem healthy_possible (h : HealthyRun cfg n τ s)
    (hlive : ¬ ∀ c, (s.ring.clients c).phase = .returned) :
    ∃ e t, healthyStep cfg s e = some t := by
  obtain ⟨c, hc⟩ := not_forall.mp hlive
  have hrun : NetRun cfg n τ s := h.of_only
  have hclean := HealthyRun.clean h
  obtain ⟨d, hd⟩ := exists_unblocked hrun.ring hclean hc
  cases hphase : (s.ring.clients d).phase with
  | atBarrier r => exact (Ready.arriving hphase).healthy hclean.1
  | afterRound r => exact (Ready.reading hphase).healthy hclean.1
  | waiting r g leader =>
      have hlt : g < s.ring.barrier.generation := by
        by_contra hle
        exact hd (Or.inl ⟨r, g, leader, hphase, Nat.not_lt.mp hle⟩)
      exact (Ready.released hphase hlt).healthy hclean.1
  | inRound r k =>
      by_cases hlt : k < cfg.messages
      · exact (Ready.sending hphase hlt).healthy hclean.1
      · have hposted := NetRun.accounts hrun
        have hbound := hposted.bound d r
        rw [hposted.sending d r k hphase] at hbound
        obtain rfl : k = cfg.messages := by omega
        exact waiting_moves h hphase
  | returned => exact absurd (Or.inr hphase) hd

/-! ## The end of a healthy run -/

/-- What the ring has still to do: the moves of the clients, and the deliveries. -/
def workLeft (cfg : RingConfig) (s : NetState n) : Nat :=
  ∑ c, (movesLeft cfg (s.ring.clients c).phase +
    ∑ r ∈ Finset.Icc 1 cfg.numRounds, (cfg.messages - (s.received c r).length))

theorem workLeft_move {ring : RingState n} {e : RingEvent n} (hstep : step cfg s.ring e = some ring)
    (posted : Fin n → Nat → Nat) : workLeft cfg { s with ring, posted } < workLeft cfg s := by
  refine Finset.sum_lt_sum (fun c _ => ?_) ⟨RingEvent.client e, Finset.mem_univ _, ?_⟩
  · refine Nat.add_le_add_right ?_ _
    by_cases hc : RingEvent.client e = c
    · subst hc
      exact (step_movesLeft hstep).le
    · exact (congrArg (fun client => movesLeft cfg client.phase) (step_other hstep hc)).le
  · exact Nat.add_lt_add_right (step_movesLeft hstep) _

/-- Different numbers below a bound are no more than the bound. -/
theorem length_le_of_nodup {xs : List Nat} {m : Nat} (hnodup : xs.Nodup) (hlt : ∀ i ∈ xs, i < m) :
    xs.length ≤ m := by
  have hsub : xs.Subperm (List.range m) :=
    List.subperm_of_subset hnodup fun j hj => List.mem_range.mpr (hlt j hj)
  have hlen := hsub.length_le
  rwa [List.length_range] at hlen

theorem workLeft_deliver (h : HealthyRun cfg n τ s) {i : Nat}
    (hstep : healthyStep cfg s (.deliver c r i) = some t) : workLeft cfg t < workLeft cfg s := by
  have hafter : HealthyRun cfg n (τ ++ [.deliver c r i]) t := Run.snoc h hstep
  have hrun : NetRun cfg n τ s := h.of_only
  obtain ⟨-, hstep⟩ := only_eq_some.mp hstep
  obtain ⟨⟨sent, hphase⟩, -, rfl⟩ := netStep_deliver hstep
  have hround : r ∈ Finset.Icc 1 cfg.numRounds := by
    have hnow := running_round hrun.ring hphase
    exact Finset.mem_Icc.mpr ⟨by omega, hnow.2⟩
  -- the list of a round holds different messages, so there was room for one more
  have hroom : (s.received c r).length < cfg.messages := by
    have hnodup := once_nodup (HealthyRun.once hafter) c r
    have hposted := NetRun.accounts (Run.of_only hafter)
    have hlen := length_le_of_nodup hnodup fun j hj =>
      Nat.lt_of_lt_of_le (hposted.known c r j hj) (hposted.bound _ r)
    simp only [received_update, and_self, if_true, List.length_append,
      List.length_singleton] at hlen
    exact hlen
  have hterm : ∀ d q, cfg.messages - (Function.update s.received c
      (Function.update (s.received c) r (s.received c r ++ [i])) d q).length ≤
        cfg.messages - (s.received d q).length := by
    intro d q
    rw [received_update]
    split
    · rename_i hsame
      obtain ⟨rfl, rfl⟩ := hsame
      rw [List.length_append]
      omega
    · exact Nat.le_refl _
  refine Finset.sum_lt_sum (fun d _ => ?_) ⟨c, Finset.mem_univ _, ?_⟩
  · exact Nat.add_le_add_left (Finset.sum_le_sum fun q _ => hterm d q) _
  · refine Nat.add_lt_add_left (Finset.sum_lt_sum (fun q _ => hterm c q) ⟨r, hround, ?_⟩) _
    simp only [received_update, and_self, if_true, List.length_append, List.length_singleton]
    omega

/-- Every step of a healthy run costs rank. -/
theorem countsDown_healthy (cfg : RingConfig) (n : Nat) :
    CountsDown (healthyStep cfg) (fun s => ∃ τ, HealthyRun cfg n τ s) (fun _ => True)
      (workLeft cfg) where
  keeps := by
    intro s t e hs hstep
    obtain ⟨τ, h⟩ := hs
    exact ⟨_, Run.snoc h hstep⟩
  falls := by
    intro s t e hs hstep _
    obtain ⟨τ, h⟩ := hs
    cases e with
    | move e =>
        obtain ⟨-, ring, hmove, rfl⟩ := netStep_move (only_eq_some.mp hstep).2
        exact workLeft_move hmove _
    | deliver c r i => exact workLeft_deliver h hstep
  others := fun _ _ hnot => absurd trivial hnot

/-- All clients have returned, with all rounds completed. -/
def Completed (cfg : RingConfig) (s : RingState n) : Prop :=
  ∀ c, s.clients c = ⟨.returned, roundsUpTo cfg.numRounds, []⟩

/-- A client that returns without a failure has completed all rounds. -/
theorem clean_returned {τ : List (RingEvent n)} {s : RingState n} {c : Fin n}
    (h : RingRun cfg n τ s) (hret : (s.clients c).phase = .returned)
    (hclean : (s.clients c).failures = []) :
    s.clients c = ⟨.returned, roundsUpTo cfg.numRounds, []⟩ := by
  have : Nonempty (Fin n) := ⟨c⟩
  obtain ⟨arrivals, hinv⟩ := RingRun.inv h
  have hstand := hinv.standing c
  simp only [Standing, hret] at hstand
  obtain ⟨-, -, hsucc⟩ := hstand hclean
  cases hc : s.clients c with
  | mk phase successes failures =>
      rw [hc] at hclean hsucc hret
      obtain rfl : failures = [] := hclean
      obtain rfl : successes = _ := hsucc
      obtain rfl : phase = .returned := hret
      rfl

theorem HealthyRun.completed (h : HealthyRun cfg n τ s)
    (hall : ∀ c, (s.ring.clients c).phase = .returned) : Completed cfg s.ring :=
  fun c => clean_returned (NetRun.ring (Run.of_only h)) (hall c) ((HealthyRun.clean h).2 c)

theorem workLeft_initial (cfg : RingConfig) (n : Nat) :
    workLeft cfg (netInitial n) =
      n * (2 + cfg.numRounds * (cfg.messages + 4) + cfg.numRounds * cfg.messages) := by
  simp [workLeft, netInitial, initial]

/-- **A healthy run completes the benchmark.**  When no wait runs out and no
call fails, and the node delivers statements that are in its store, each once:
a run has only so many steps, one that cannot go on has completed all rounds of
all clients, and every run can go on to that point. -/
theorem ring_network_completes (h : HealthyRun cfg n τ s) :
    τ.length ≤ n * (2 + cfg.numRounds * (cfg.messages + 4) + cfg.numRounds * cfg.messages) ∧
    ((∀ e, healthyStep cfg s e = none) → Completed cfg s.ring) ∧
    ∃ τ' t, Run (healthyStep cfg) s τ' t ∧ Completed cfg t.ring := by
  refine ⟨?_, fun hstuck => ?_, ?_⟩
  · have hrun := (countsDown_healthy cfg n).run ⟨[], Run.nil⟩ h
    rw [workLeft_initial] at hrun
    simp only [decide_true, List.countP_true] at hrun
    omega
  · refine HealthyRun.completed h ?_
    by_contra hlive
    obtain ⟨e, t, hstep⟩ := healthy_possible h hlive
    exact absurd (hstep.symm.trans (hstuck e)) (by simp)
  · obtain ⟨τ', t, hrun, -, hhealthy, hall⟩ := (countsDown_healthy cfg n).reach
      (fun s => ∀ c, (s.ring.clients c).phase = .returned)
      (fun ⟨_, hs⟩ hlive => by
        obtain ⟨e, t, hstep⟩ := healthy_possible hs hlive
        exact ⟨e, t, trivial, hstep⟩) ⟨τ, h⟩
    obtain ⟨τ'', ht⟩ := hhealthy
    exact ⟨τ', t, hrun, HealthyRun.completed ht hall⟩

theorem ring_network_completes_oneExchange :
    ∃ s, HealthyRun ⟨1, 1, false⟩ 2 (oneExchange 0 1) s ∧
      ∃ τ' t, Run (healthyStep ⟨1, 1, false⟩) s τ' t ∧ Completed ⟨1, 1, false⟩ t.ring := by
  obtain ⟨s, hs⟩ : ∃ s, exec (healthyStep ⟨1, 1, false⟩) (netInitial 2) (oneExchange 0 1) =
      some s :=
    Option.isSome_iff_exists.mp (by decide)
  exact ⟨s, run_of_exec hs, (ring_network_completes (run_of_exec hs)).2.2⟩

end Healthy

end Ring

end StatementStore
