import StatementStoreTools.RingNetwork

/-!
# Who takes its own failure for that of a peer

A client whose round has failed arrives at the barrier no more, and nobody gets
past the barrier without it.  So a neighbour without a failure sends no
statement of a later round, and the client does not complete one either, unless
somebody else has failed too.  What remains is a client that is its own
neighbour, and a pattern without messages, where a round waits for nobody.

* `blames_of_network` — with two clients and a message a round, `PeerFailed` is
  about a peer in every run;
* `exists_self_blame` — otherwise, without `fail_fast` and with a third round, a
  client makes itself believe that a peer has failed;
* `blame_iff` — the two together, with what holds run by run.
-/

namespace StatementStore

open CyclicBarrier Traces

namespace Ring

variable {n : Nat} {cfg : RingConfig} {c d : Fin n} {r i : Nat}

/-! ## Rounds that wait for a neighbour -/

section Ring

variable {s : RingState n} {τ : List (RingEvent n)}

/-- A client without a failure has completed all the rounds it has gone through. -/
theorem clean_attempts (h : RingRun cfg n τ s) (hclean : (s.clients c).failures = []) :
    (attempts τ c).length = (s.clients c).successes.length := by
  have hledger := RingRun.ledger h c
  have hnone : (attempts τ c).filterMap (·.2) = [] := by
    rw [hledger.failures] at hclean
    exact (List.append_eq_nil_iff.mp hclean).1
  have hsplit := attempts_split (attempts τ c)
  rw [hnone, List.length_nil, Nat.add_zero, ← hledger.successes] at hsplit
  exact hsplit.symm

/-- Whoever has begun round `r` without a failure has got past the barrier that
often. -/
theorem RingInv.begun {arrivals : Fin n → Nat} (h : RingInv cfg τ s arrivals)
    (hrun : RingRun cfg n τ s) (hclean : (s.clients d).failures = [])
    (hsent : .submit d r i ∈ τ) : r ≤ s.barrier.generation := by
  obtain ⟨⟨hround, -⟩, hdone, -⟩ := h.clean_pace hclean
  rcases RingRun.submit_attempted hrun d r i hsent with hle | ⟨sent, hphase⟩
  · rw [clean_attempts hrun hclean] at hle
    exact hle.trans hdone
  · rwa [Client.round, hphase] at hround

/-- A client that has completed every round has no failure of a round. -/
theorem clean_of_completed (h : RingRun cfg n τ s) (hphase : (s.clients c).phase = .afterRound r)
    (hdone : CompletedUpTo τ c r) : (s.clients c).failures = [] := by
  have hledger := RingRun.ledger h c
  obtain ⟨hstops, hlen, -⟩ := hledger.progress_of_phase hphase
  have hsub : roundsUpTo r ⊆ (s.clients c).successes := by
    intro k hk
    obtain ⟨hpos, hle⟩ := mem_roundsUpTo.mp hk
    exact (mem_successes h).mpr (hdone k hpos hle)
  have hmost : r ≤ (s.clients c).successes.length := by
    have hnodup : (roundsUpTo r).Nodup := List.nodup_range'
    have hle := (List.subperm_of_subset hnodup hsub).length_le
    rwa [roundsUpTo_length] at hle
  -- as many successes as rounds leave no room for a failure
  have hsplit := attempts_split (attempts τ c)
  rw [← hledger.successes, hlen] at hsplit
  rw [hledger.failures, hstops, List.append_nil]
  exact List.eq_nil_of_length_eq_zero (by omega)

end Ring

section Network

variable {s : NetState n} {τ : List (NetEvent n)}

/-- A completed round has heard from the neighbour. -/
theorem NetRun.heard (h : NetRun cfg n τ s) (hmessages : 0 < cfg.messages)
    (hok : .roundOk c r ∈ ringTrace τ) : ∃ i, .submit (neighbour c) r i ∈ ringTrace τ := by
  obtain ⟨before, after, rfl⟩ := List.append_of_mem (mem_ringTrace.mp hok)
  obtain ⟨u, u', hrun, hstep⟩ := h.split rfl
  obtain ⟨henough, -⟩ := netStep_move hstep
  have hlen : cfg.messages ≤ (u.received c r).length := of_decide_eq_true henough
  obtain ⟨i, hi⟩ := List.exists_mem_of_length_pos (Nat.lt_of_lt_of_le hmessages hlen)
  have hposted := NetRun.accounts hrun
  have hsent := hposted.submitted _ r i (hposted.known c r i hi)
  exact ⟨i, mem_ringTrace.mpr (List.mem_append_left _ hsent)⟩

theorem neighbour_ne (hn : 1 < n) (c : Fin n) : neighbour c ≠ c := by
  intro heq
  have hval : (c.val + 1) % n = c.val := congrArg Fin.val heq
  rcases Nat.lt_or_ge (c.val + 1) n with hlt | hge
  · rw [Nat.mod_eq_of_lt hlt] at hval
    omega
  · obtain hlast : c.val + 1 = n := Nat.le_antisymm c.isLt hge
    rw [hlast, Nat.mod_self] at hval
    omega

/-- **A failure alone stays behind.**  A client that has completed a round while
nobody else has a failure has none either. -/
theorem clean_of_peers (h : NetRun cfg n τ s) (hn : 1 < n) (hmessages : 0 < cfg.messages)
    (hphase : (s.ring.clients c).phase = .afterRound r)
    (hpeers : ∀ d, d ≠ c → (s.ring.clients d).failures = []) :
    (s.ring.clients c).failures = [] := by
  have : Nonempty (Fin n) := ⟨c⟩
  obtain ⟨arrivals, hinv⟩ := RingRun.inv h.ring
  have hlast : .roundOk c r ∈ ringTrace τ :=
    (mem_successes h.ring).mp ((RingRun.ledger h.ring c).succeeded r hphase)
  obtain ⟨i, hsent⟩ := h.heard hmessages hlast
  -- the neighbour has been past the barrier `r` times, each time with this client
  have hgen := hinv.begun h.ring (hpeers _ (neighbour_ne hn c)) hsent
  have harrived : r ≤ arrivals c := hgen.trans (hinv.accounts.lower c)
  refine clean_of_completed h.ring hphase fun k hpos hle => ?_
  rcases Nat.lt_or_eq_of_le hle with hlt | rfl
  · exact ((hinv.recorded c).arrivals (r - 1) (by omega)).2 k hpos (by omega)
  · exact hlast

/-- The moves of the clients before one of them. -/
theorem ringTrace_split {before after : List (RingEvent n)} {e : RingEvent n}
    (h : ringTrace τ = before ++ e :: after) :
    ∃ before' after', τ = before' ++ .move e :: after' ∧ ringTrace before' = before := by
  obtain ⟨front, back, rfl, hfront, hback⟩ := List.filterMap_eq_append_iff.mp h
  obtain ⟨quiet, x, after', rfl, hquiet, hx, -⟩ := List.filterMap_eq_cons_iff.mp hback
  refine ⟨front ++ quiet, after', ?_, ?_⟩
  · cases x with
    | move e' =>
        obtain rfl := Option.some.inj hx
        rw [List.append_assoc]
    | deliver c r i => cases hx
  · rw [ringTrace, List.filterMap_append, hfront, List.filterMap_eq_nil_iff.mpr hquiet,
      List.append_nil]

/-- **With a neighbour to wait for**, whoever records `PeerFailed` is right. -/
theorem blames_of_network (h : NetRun cfg n τ s) (hn : 1 < n) (hmessages : 0 < cfg.messages) :
    BlamesAPeer (ringTrace τ) := by
  intro before after c r hτ
  obtain ⟨before', after', rfl, rfl⟩ := ringTrace_split hτ
  obtain ⟨u, u', hrun, hstep⟩ := h.split rfl
  obtain ⟨-, ring, hload, -⟩ := netStep_move hstep
  have hring := NetRun.ring hrun
  by_contra hnobody
  have hpeers : ∀ d, d ≠ c → failuresIn (ringTrace before') d = [] := fun d hd =>
    by_contra fun hfailed => hnobody ⟨d, hd, hfailed⟩
  have hclean : failuresIn (ringTrace before') c = [] := by
    rw [RingRun.failuresIn_eq hring]
    refine clean_of_peers hrun hn hmessages (step_load hload).1 fun d hd => ?_
    rw [← RingRun.failuresIn_eq hring]
    exact hpeers d hd
  exact hnobody (peer_of_clean hring hload hclean)

end Network

/-! ## Rounds that wait for nobody else -/

section Trace

variable {s : RingState n} {τ ρ : List (RingEvent n)}

/-- A run of the ring in which no round succeeds needs no deliveries. -/
theorem NetRun.of_ring (h : RingRun cfg n τ s) (hopen : ∀ c r, .roundOk c r ∉ τ) :
    ∃ u, NetRun cfg n (τ.map .move) u ∧ u.ring = s := by
  induction h with
  | nil => exact ⟨netInitial n, Run.nil, rfl⟩
  | @snoc τ s t e _ last ih =>
      obtain ⟨u, hrun, rfl⟩ := ih fun c r hmem => hopen c r (List.mem_append_left _ hmem)
      have henough : enoughFor cfg u e = true := by
        cases e with
        | roundOk c r =>
            exact absurd (List.mem_append_right _ (List.mem_singleton_self _)) (hopen c r)
        | _ => rfl
      rw [List.map_append]
      exact ⟨{ u with ring := t, posted := postedAfter u.posted e },
        Run.snoc hrun (by simp [netStep, henough, last]), rfl⟩

/-- The moves of others say nothing about the failures of a client. -/
theorem failuresIn_append_other (hother : ∀ e ∈ ρ, RingEvent.client e ≠ d) :
    failuresIn (τ ++ ρ) d = failuresIn τ d := by
  have hmoves : movesOf (τ ++ ρ) d = movesOf τ d := by
    have hnone : movesOf ρ d = [] := by
      simpa [movesOf, List.filter_eq_nil_iff] using hother
    rw [movesOf, List.filter_append, ← movesOf, ← movesOf, hnone, List.append_nil]
  simp only [failuresIn, attempts, stops, hmoves]

/-- A failed round leaves its failure, and the flag up. -/
theorem flag_of_roundFailed {kind : FailureKind} (h : RingRun cfg n τ s)
    (hmem : .roundFailed c r kind ∈ τ) : s.peerFailed = true := by
  have hattempt : (r, some kind) ∈ attempts τ c :=
    List.mem_filterMap.mpr ⟨_, List.mem_filter.mpr ⟨hmem, decide_eq_true rfl⟩, rfl⟩
  exact flag_of_failures h (failures_of_outcome h (List.mem_map.mpr ⟨_, hattempt, rfl⟩))

end Trace

section Alone

variable {s : NetState n} {τ : List (NetEvent n)}

/-- A run without a repeated delivery is one of a node that repeats nothing. -/
theorem NetRun.once (h : NetRun cfg n τ s)
    (hcount : ∀ c r i, τ.count (.deliver c r i) ≤ 1) :
    Run (only Once (netStep cfg)) (netInitial n) τ s := by
  induction h with
  | nil => exact Run.nil
  | @snoc τ s t e run last ih =>
      have honce : Once s e := by
        cases e with
        | move e => trivial
        | deliver c r i =>
            intro hmem
            rw [NetRun.received_eq run, ← List.count_pos_iff, count_deliveries] at hmem
            have hle := hcount c r i
            rw [List.count_append, List.count_singleton_self] at hle
            omega
      refine Run.snoc (ih fun c r i => ?_) (only_eq_some.mpr ⟨honce, last⟩)
      exact ((List.sublist_append_left τ [e]).count_le _).trans (hcount c r i)

/-- A client submits its messages, is delivered as many, and completes the
round. -/
def wholeRound (cfg : RingConfig) (c : Fin n) (r : Nat) : List (NetEvent n) :=
  (List.range cfg.messages).map (fun i => NetEvent.move (.submit c r i)) ++
    (List.range cfg.messages).map (NetEvent.deliver c r) ++ [NetEvent.move (.roundOk c r)]

/-- Such a round needs nobody else: the client is its own neighbour, or there is
nothing to be delivered. -/
theorem run_wholeRound (hphase : (s.ring.clients c).phase = .inRound r 0)
    (hposted : s.posted c r = 0) (halone : neighbour c = c ∨ cfg.messages = 0) :
    ∃ t, Run (netStep cfg) s (wholeRound cfg c r) t ∧
      (t.ring.clients c).phase = if r < cfg.numRounds then .afterRound r else .returned := by
  obtain ⟨t, hsubmits, hsent, -, hown, -⟩ :=
    run_net_submits cfg hphase hposted cfg.messages (Nat.le_refl _)
  have hdeliveries := run_deliveries cfg (List.range cfg.messages) t hsent fun i hi => by
    rw [List.mem_range] at hi
    rcases halone with hself | hempty
    · rwa [hself, hown]
    · omega
  obtain ⟨u, hend, hafter⟩ := netStep_roundOk (s := { t with
      received := Function.update t.received c (Function.update (t.received c) r
        (t.received c r ++ List.range cfg.messages)) }) hsent (by simp)
  exact ⟨u, Run.snoc (hsubmits.append hdeliveries) hend, hafter⟩

/-- The first round fails, the second succeeds. -/
def recovery (cfg : RingConfig) (c : Fin n) : List (NetEvent n) :=
  NetEvent.move (.roundFailed c 1 .subscribeFailed) :: wholeRound cfg c 2

theorem run_recovery (hoff : cfg.failFast = false) (hrounds : 2 < cfg.numRounds)
    (halone : neighbour c = c ∨ cfg.messages = 0) (h : NetRun cfg n τ s)
    (hphase : (s.ring.clients c).phase = .inRound 1 0) :
    ∃ t, NetRun cfg n (τ ++ recovery cfg c) t ∧ (t.ring.clients c).phase = .afterRound 2 := by
  obtain ⟨t, hfail, hsecond⟩ : ∃ t, netStep cfg s (.move (.roundFailed c 1 .subscribeFailed)) =
      some t ∧ (t.ring.clients c).phase = .inRound 2 0 := by
    refine ⟨_, by simp [netStep, enoughFor, step_fail hoff hphase]; rfl, ?_⟩
    simp [setClient, startRound]
    omega
  have hposted := (NetRun.accounts (Run.snoc h hfail)).sending c 2 0 hsecond
  obtain ⟨u, hround, hafter⟩ := run_wholeRound hsecond hposted halone
  rw [if_pos hrounds] at hafter
  exact ⟨u, h.append (Run.cons hfail hround), hafter⟩

theorem ringTrace_recovery (cfg : RingConfig) (c : Fin n) (τ : List (RingEvent n)) :
    ringTrace (τ.map NetEvent.move ++ recovery cfg c) =
      τ ++ RingEvent.roundFailed c 1 .subscribeFailed ::
        ((List.range cfg.messages).map (RingEvent.submit c 2) ++ [RingEvent.roundOk c 2]) := by
  simp [ringTrace, recovery, wholeRound, List.filterMap_map, Function.comp_def, NetEvent.move?]

theorem count_recovery (τ : List (RingEvent n)) (d : Fin n) (r i : Nat) :
    (τ.map NetEvent.move ++ recovery cfg c).count (.deliver d r i) ≤ 1 := by
  have hnodup : ((List.range cfg.messages).map (NetEvent.deliver c 2)).Nodup :=
    List.nodup_range.map fun a b heq => (NetEvent.deliver.inj heq).2.2
  have hcount := List.nodup_iff_count_le_one.mp hnodup (.deliver d r i)
  have hmoves : (τ.map NetEvent.move).count (.deliver d r i) = 0 :=
    List.count_eq_zero.mpr (by simp)
  have hsubmits : ((List.range cfg.messages).map fun i => NetEvent.move (.submit c 2 i)).count
      (.deliver d r i) = 0 := List.count_eq_zero.mpr (by simp)
  simpa [recovery, wholeRound, List.count_append, hmoves, hsubmits] using hcount

/-- Without `fail_fast`, and with a third round, a client whose rounds wait for
nobody else makes itself believe that a peer has failed. -/
theorem exists_self_blame (hoff : cfg.failFast = false) (hrounds : 2 < cfg.numRounds)
    (halone : neighbour c = c ∨ cfg.messages = 0) :
    ∃ τ s, Run (only Once (netStep cfg)) (netInitial n) τ s ∧ ¬ BlamesAPeer (ringTrace τ) := by
  obtain ⟨τ, s, hrun, hclient, hnone⟩ := exists_inRound cfg (by omega) c
  have hopen : ∀ d r, .roundOk d r ∉ τ := by
    intro d r hmem
    have hsuccess := (mem_successes hrun).mpr hmem
    rw [(hnone d).1] at hsuccess
    cases hsuccess
  obtain ⟨u, hstart, rfl⟩ := NetRun.of_ring hrun hopen
  obtain ⟨t, hrecovered, hafter⟩ := run_recovery hoff hrounds halone hstart (by rw [hclient])
  have htrace := ringTrace_recovery cfg c τ
  have hfirst : .roundFailed c 1 .subscribeFailed ∈
      ringTrace (τ.map NetEvent.move ++ recovery cfg c) := by
    rw [htrace]
    exact List.mem_append_right _ (List.mem_cons_self ..)
  have hflag := flag_of_roundFailed (NetRun.ring hrecovered) hfirst
  obtain ⟨v, hload⟩ : ∃ v, netStep cfg t (.move (.load c 2 true)) = some v := by
    simp [netStep, enoughFor, step, hafter, hflag]
  have honce := NetRun.once hrecovered fun d r i => count_recovery τ d r i
  have hadmitted : Once t (.move (.load c 2 true)) := trivial
  refine ⟨_, v, Run.snoc honce (only_eq_some.mpr ⟨hadmitted, hload⟩), fun hblame => ?_⟩
  rw [ringTrace_move] at hblame
  obtain ⟨d, hd, hfailed⟩ := hblame _ [] c 2 rfl
  -- but nobody else has done anything since the startup
  rw [htrace, failuresIn_append_other (fun e he heq => ?_), RingRun.failuresIn_eq hrun] at hfailed
  · exact hfailed (hnone d).2
  · have hown : RingEvent.client e = c := by
      simp only [List.mem_cons, List.mem_append, List.mem_map, List.not_mem_nil, or_false] at he
      rcases he with rfl | ⟨i, -, rfl⟩ | rfl <;> rfl
    exact hd (heq.symm.trans hown)

end Alone

/-! ## When `PeerFailed` is about a peer -/

/-- Nobody gets as far as reading a flag that only its own failure has raised:
with `fail_fast`, with two rounds at most, or with another client whose
statements a round waits for. -/
def SparesItself (cfg : RingConfig) (n : Nat) : Prop :=
  cfg.failFast = true ∨ cfg.numRounds ≤ 2 ∨ (1 < n ∧ 0 < cfg.messages)

theorem blames_of_sparesItself (hcfg : SparesItself cfg n) {s : NetState n}
    {τ : List (NetEvent n)} (h : NetRun cfg n τ s) : BlamesAPeer (ringTrace τ) := by
  rcases hcfg with hfast | htwo | ⟨hn, hmessages⟩
  · exact blames_of_clean h.ring (clean_of_config h.ring (Or.inl hfast))
  · exact blames_of_clean h.ring (clean_of_config h.ring (Or.inr htwo))
  · exact blames_of_network h hn hmessages

theorem exists_of_not_sparesItself (hcfg : ¬ SparesItself cfg n) (hn : 0 < n) :
    ∃ (τ : List (NetEvent n)) (s : NetState n),
      Run (only Once (netStep cfg)) (netInitial n) τ s ∧ ¬ BlamesAPeer (ringTrace τ) := by
  simp only [SparesItself, not_or, not_and_or, Bool.not_eq_true, Nat.not_le, Nat.not_lt] at hcfg
  obtain ⟨hoff, hrounds, halone⟩ := hcfg
  refine exists_self_blame (c := ⟨0, hn⟩) hoff hrounds ?_
  rcases halone with hone | hempty
  · obtain rfl : n = 1 := Nat.le_antisymm hone hn
    exact Or.inl (Subsingleton.elim _ _)
  · exact Or.inr (Nat.le_zero.mp hempty)

/-- **When `PeerFailed` is about a peer.**  In every run in which only clients
without a failure find the flag raised.  With at least one client and messages
that fit a round, all runs over the network are so exactly for the configurations
of `SparesItself`, whether its nodes repeat a delivery or not. -/
theorem blame_iff (cfg : RingConfig) (n : Nat) :
    (∀ (τ : List (RingEvent n)) s, RingRun cfg n τ s → CleanLoads τ → BlamesAPeer τ) ∧
    (0 < n → cfg.messages ≤ 128 →
      ((∀ (τ : List (NetEvent n)) s, NetRun cfg n τ s → BlamesAPeer (ringTrace τ)) ↔
        SparesItself cfg n) ∧
      ((∀ (τ : List (NetEvent n)) s, Run (only Once (netStep cfg)) (netInitial n) τ s →
          BlamesAPeer (ringTrace τ)) ↔ SparesItself cfg n)) := by
  refine ⟨fun τ s hrun hclean => blames_of_clean hrun hclean, fun hn _ => ⟨?_, ?_⟩⟩
  · refine ⟨fun hall => ?_, fun hcfg τ s hrun => blames_of_sparesItself hcfg hrun⟩
    by_contra hcfg
    obtain ⟨τ, s, hrun, hself⟩ := exists_of_not_sparesItself hcfg hn
    exact hself (hall τ s hrun.of_only)
  · refine ⟨fun hall => ?_, fun hcfg τ s hrun => blames_of_sparesItself hcfg hrun.of_only⟩
    by_contra hcfg
    obtain ⟨τ, s, hrun, hself⟩ := exists_of_not_sparesItself hcfg hn
    exact hself (hall τ s hrun)

/-- One client alone: nothing comes back in its first round, its second one
succeeds, and then it reads the flag. -/
def ownFailure (a : Fin n) : List (NetEvent n) :=
  [.move (.arrive a 0 0), .move (.pass a 0 0), .move (.submit a 1 0),
    .move (.roundFailed a 1 .propagationTimeout), .move (.submit a 2 0), .deliver a 2 0,
    .move (.roundOk a 2), .move (.load a 2 true)]

/-- **There is no peer.** -/
theorem own_failure_blamed :
    ∃ s, Run (only Once (netStep ⟨3, 1, false⟩)) (netInitial 1) (ownFailure 0) s ∧
      s.ring.clients 0 = ⟨.returned, [2], [.propagationTimeout, .peerFailed]⟩ ∧
      ¬ BlamesAPeer (ringTrace (ownFailure (0 : Fin 1))) := by
  obtain ⟨s, hs⟩ : ∃ s, exec (only Once (netStep ⟨3, 1, false⟩)) (netInitial 1) (ownFailure 0) =
    some s := Option.isSome_iff_exists.mp (by decide)
  have hclient : (exec (only Once (netStep ⟨3, 1, false⟩)) (netInitial 1) (ownFailure 0)).map
      (·.ring.clients 0) = some ⟨.returned, [2], [.propagationTimeout, .peerFailed]⟩ := by decide
  rw [hs, Option.map_some, Option.some.injEq] at hclient
  refine ⟨s, run_of_exec hs, hclient, fun hblame => ?_⟩
  obtain ⟨d, hd, -⟩ := hblame ((ringTrace (ownFailure 0)).take 6) [] 0 2 rfl
  exact hd (Subsingleton.elim _ _)

/-- Client `b` fails its first round, and client `a` is right to blame it. -/
def peerFailure (a b : Fin n) : List (NetEvent n) :=
  [.move (.arrive a 0 0), .move (.arrive b 0 0), .move (.pass a 0 0), .move (.pass b 0 0),
    .move (.submit a 1 0), .move (.submit b 1 0), .move (.roundFailed b 1 .propagationTimeout),
    .deliver a 1 0, .move (.roundOk a 1), .move (.load a 1 true)]

theorem blame_iff_peerFailure :
    (∃ s, NetRun ⟨3, 1, false⟩ 2 (peerFailure 0 1) s) ∧
      BlamesAPeer (ringTrace (peerFailure (0 : Fin 2) 1)) ∧
      ∀ (τ : List (NetEvent 2)) s, NetRun ⟨3, 1, false⟩ 2 τ s → BlamesAPeer (ringTrace τ) := by
  obtain ⟨s, hs⟩ : ∃ s, exec (netStep ⟨3, 1, false⟩) (netInitial 2) (peerFailure 0 1) = some s :=
    Option.isSome_iff_exists.mp (by decide)
  have hrun : NetRun ⟨3, 1, false⟩ 2 (peerFailure 0 1) s := run_of_exec hs
  refine ⟨⟨s, hrun⟩, ?_, ?_⟩
  · refine (blame_iff _ _).1 _ s.ring (NetRun.ring hrun) ?_
    intro before after c r hτ
    have htake : before = (ringTrace (peerFailure 0 1)).take before.length := by simp [hτ]
    have hget : (ringTrace (peerFailure (0 : Fin 2) 1))[before.length]? =
        some (.load c r true) := by simp [hτ]
    have hlen : before.length < 9 := (List.getElem?_eq_some_iff.mp hget).1
    rw [htake]
    generalize before.length = i at hget hlen
    interval_cases i <;> simp [ringTrace, List.filterMap_cons, NetEvent.move?, peerFailure] at hget
    obtain ⟨rfl, rfl⟩ := hget
    decide
  · exact ((blame_iff ⟨3, 1, false⟩ 2).2 (by decide) (by decide)).1.mpr
      (Or.inr (Or.inr (by decide)))

end Ring

end StatementStore
