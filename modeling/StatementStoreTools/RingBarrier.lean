import StatementStoreTools.RingClients

/-!
# Nobody gets past the barrier early

The barrier is not cancel-safe: a client whose wait times out leaves its
arrival behind.  A client whose round failed skips the barrier.  Neither ever
releases anyone early, because of the sticky `peer_failed` flag: whoever
records a failure has raised it, and nobody who sees it raised arrives again.

So a client that arrives is clean, and it arrives at generation `r` exactly
after completing the rounds `1..r`.  `RingInv` keeps, next to this, the number
of arrivals of each client, to which `CyclicBarrier.Accounts` applies:

* `RingInv.move` — every move keeps the invariant;
* `ring_pass_all_arrived` — whoever gets past the barrier after round `r` has
  been preceded there by all clients, with their rounds `1..r` completed;
* `ring_clean_within_one` — clean clients are at most one round apart.
-/

namespace StatementStore

open CyclicBarrier Traces

namespace Ring

variable {n : Nat}

/-- The rounds `1..r`. -/
def roundsUpTo (r : Nat) : List Nat := List.range' 1 r

theorem mem_roundsUpTo {i r : Nat} : i ∈ roundsUpTo r ↔ 1 ≤ i ∧ i ≤ r := by
  simp [roundsUpTo, List.mem_range'_1]
  omega

theorem roundsUpTo_succ (r : Nat) : roundsUpTo (r + 1) = roundsUpTo r ++ [r + 1] := by
  simp [roundsUpTo, List.range'_1_concat, Nat.add_comm]

@[simp] theorem roundsUpTo_length (r : Nat) : (roundsUpTo r).length = r := by
  simp [roundsUpTo]

/-- What the phase of a client says about its arrivals and its records.  Only
clean clients are at the barrier; elsewhere something is known of clean
clients alone. -/
def Standing (numRounds generation arrivals : Nat) (client : Client) : Prop :=
  match client.phase with
  | .atBarrier r => client.failures = [] ∧
      r ≤ numRounds ∧ arrivals = r ∧ r ≤ generation ∧ client.successes = roundsUpTo r
  | .waiting r g _ => client.failures = [] ∧
      r ≤ numRounds ∧ g = r ∧ arrivals = r + 1 ∧ client.successes = roundsUpTo r
  | .inRound r _ => client.failures = [] →
      1 ≤ r ∧ r ≤ numRounds ∧ arrivals = r ∧ r ≤ generation ∧
        client.successes = roundsUpTo (r - 1)
  | .afterRound r => client.failures = [] →
      r ≤ numRounds ∧ arrivals = r ∧ r ≤ generation ∧ client.successes = roundsUpTo r
  | .returned => client.failures = [] →
      arrivals ≤ numRounds + 1 ∧ numRounds ≤ generation ∧
        client.successes = roundsUpTo numRounds

/-- The generation may move on under a client that does nothing. -/
theorem Standing.mono {numRounds g g' arrivals : Nat} {client : Client} (hle : g ≤ g')
    (h : Standing numRounds g arrivals client) : Standing numRounds g' arrivals client := by
  unfold Standing at h ⊢
  split at h
  · obtain ⟨hclean, hr, harr, hgen, hsucc⟩ := h
    exact ⟨hclean, hr, harr, hgen.trans hle, hsucc⟩
  · exact h
  · intro hclean
    obtain ⟨hpos, hr, harr, hgen, hsucc⟩ := h hclean
    exact ⟨hpos, hr, harr, hgen.trans hle, hsucc⟩
  · intro hclean
    obtain ⟨hr, harr, hgen, hsucc⟩ := h hclean
    exact ⟨hr, harr, hgen.trans hle, hsucc⟩
  · intro hclean
    obtain ⟨harr, hgen, hsucc⟩ := h hclean
    exact ⟨harr, hgen.trans hle, hsucc⟩

/-- All rounds up to `r` have been completed by `c`. -/
def CompletedUpTo (τ : List (RingEvent n)) (c : Fin n) (r : Nat) : Prop :=
  ∀ i, 1 ≤ i → i ≤ r → .roundOk c i ∈ τ

/-- The arrivals and the successes of a client are in the trace, an arrival
with the rounds before it. -/
structure Recorded (τ : List (RingEvent n)) (c : Fin n) (arrivals : Nat) (client : Client) :
    Prop where
  arrivals : ∀ k < arrivals, .arrive c k k ∈ τ ∧ CompletedUpTo τ c k
  successes : ∀ i ∈ client.successes, .roundOk c i ∈ τ

theorem Recorded.mono {τ : List (RingEvent n)} {c : Fin n} {arrivals : Nat} {client : Client}
    (h : Recorded τ c arrivals client) (e : RingEvent n) :
    Recorded (τ ++ [e]) c arrivals client where
  arrivals k hk :=
    ⟨List.mem_append_left _ (h.arrivals k hk).1,
      fun i h1 hi => List.mem_append_left _ ((h.arrivals k hk).2 i h1 hi)⟩
  successes i hi := List.mem_append_left _ (h.successes i hi)

/-- **The invariant of the ring**, with the number of arrivals of each client. -/
structure RingInv (cfg : RingConfig) (τ : List (RingEvent n)) (s : RingState n)
    (arrivals : Fin n → Nat) : Prop where
  accounts : Accounts s.barrier arrivals
  standing : ∀ c, Standing cfg.numRounds s.barrier.generation (arrivals c) (s.clients c)
  recorded : ∀ c, Recorded τ c (arrivals c) (s.clients c)
  sticky : ∀ c, (s.clients c).failures ≠ [] → s.peerFailed = true

theorem RingInv.start [Nonempty (Fin n)] (cfg : RingConfig) :
    RingInv cfg [] (initial n) (fun _ => 0) where
  accounts := Accounts.fresh
  standing _ := ⟨rfl, Nat.zero_le _, rfl, Nat.zero_le _, rfl⟩
  recorded _ := ⟨fun _ hk => absurd hk (Nat.not_lt_zero _), by simp [Ring.initial]⟩
  sticky _ h := absurd rfl h

section Step

variable {cfg : RingConfig} {τ : List (RingEvent n)} {s t : RingState n}
  {arrivals : Fin n → Nat}

/-- **Frame.**  A move of `c` has to answer for `c` alone. -/
theorem RingInv.frame (h : RingInv cfg τ s arrivals) (e : RingEvent n) {c : Fin n}
    {client : Client} {k : Nat} (hclients : t.clients = Function.update s.clients c client)
    (hacc : Accounts t.barrier (Function.update arrivals c k))
    (hgen : s.barrier.generation ≤ t.barrier.generation)
    (hflag : s.peerFailed = true → t.peerFailed = true)
    (hstand : Standing cfg.numRounds t.barrier.generation k client)
    (hrec : Recorded (τ ++ [e]) c k client)
    (hsticky : client.failures ≠ [] → t.peerFailed = true) :
    RingInv cfg (τ ++ [e]) t (Function.update arrivals c k) := by
  refine ⟨hacc, fun d => ?_, fun d => ?_, fun d => ?_⟩
  · rw [hclients]
    by_cases hd : d = c
    · subst hd; simpa using hstand
    · simpa [hd] using (h.standing d).mono hgen
  · rw [hclients]
    by_cases hd : d = c
    · subst hd; simpa using hrec
    · simpa [hd] using (h.recorded d).mono e
  · rw [hclients]
    by_cases hd : d = c
    · subst hd; simpa using hsticky
    · simpa [hd] using fun hf => hflag (h.sticky d hf)

/-- The frame of a move that is no arrival. -/
theorem RingInv.frame_still (h : RingInv cfg τ s arrivals) (e : RingEvent n) {c : Fin n}
    {client : Client} (hclients : t.clients = Function.update s.clients c client)
    (hbarrier : t.barrier = s.barrier)
    (hflag : s.peerFailed = true → t.peerFailed = true)
    (hstand : Standing cfg.numRounds s.barrier.generation (arrivals c) client)
    (hsucc : ∀ i ∈ client.successes, i ∈ (s.clients c).successes ∨ e = .roundOk c i)
    (hsticky : client.failures ≠ [] → t.peerFailed = true) :
    RingInv cfg (τ ++ [e]) t arrivals := by
  have hsame : Function.update arrivals c (arrivals c) = arrivals := Function.update_eq_self ..
  have hrec : Recorded (τ ++ [e]) c (arrivals c) client := by
    refine ⟨((h.recorded c).mono e).arrivals, fun i hi => ?_⟩
    rcases hsucc i hi with hold | rfl
    · exact List.mem_append_left _ ((h.recorded c).successes i hold)
    · simp
  have hframe := h.frame (k := arrivals c) e hclients (by rw [hsame, hbarrier]; exact h.accounts)
    (by rw [hbarrier]) hflag (by rw [hbarrier]; exact hstand) hrec hsticky
  rwa [hsame] at hframe

/-- The round that is started after round `r` is the next one. -/
theorem standing_startRound {generation a r : Nat} {client : Client}
    (hr : r ≤ cfg.numRounds)
    (hclean : client.failures = [] →
      a = r + 1 ∧ r + 1 ≤ generation ∧ client.successes = roundsUpTo r) :
    Standing cfg.numRounds generation a { client with phase := startRound cfg (r + 1) } := by
  unfold startRound
  split
  · rename_i hle
    intro hf
    obtain ⟨ha, hgen, hsucc⟩ := hclean hf
    exact ⟨by omega, hle, ha, hgen, hsucc⟩
  · rename_i hgt
    intro hf
    obtain ⟨ha, hgen, hsucc⟩ := hclean hf
    obtain rfl : r = cfg.numRounds := by omega
    exact ⟨by omega, by omega, hsucc⟩

/-- A client with a failure has nothing to answer for away from the barrier. -/
theorem standing_failed {generation a : Nat} {client : Client} (hf : client.failures ≠ [])
    (hphase : client.phase = .returned ∨ ∃ r, client.phase = startRound cfg r) :
    Standing cfg.numRounds generation a client := by
  have hcases : client.phase = .returned ∨ ∃ r, client.phase = .inRound r 0 := by
    rcases hphase with hp | ⟨r, hp⟩
    · exact Or.inl hp
    · unfold startRound at hp
      split at hp
      · exact Or.inr ⟨r, hp⟩
      · exact Or.inl hp
  rcases hcases with hp | ⟨r, hp⟩
  · simp [Standing, hp, hf]
  · simp [Standing, hp, hf]

theorem RingInv.arrive (h : RingInv cfg τ s arrivals) {c : Fin n} {r g : Nat}
    (hstep : step cfg s (.arrive c r g) = some t) :
    RingInv cfg (τ ++ [.arrive c r g]) t (Function.update arrivals c (arrivals c + 1)) := by
  obtain ⟨hphase, hg, rfl⟩ := step_arrive hstep
  have hstand := h.standing c
  simp only [Standing, hphase] at hstand
  obtain ⟨hclean, hr, harr, hgen, hsucc⟩ := hstand
  -- the open generation is the one the client is due at
  have hlow := h.accounts.lower c
  have hopen : arrivals c = s.barrier.generation := by omega
  have hgr : g = r := by omega
  have hacc := h.accounts.arrive (i := c) hopen
  rw [Fintype.card_fin] at hacc
  refine h.frame _ rfl hacc (Barrier.generation_le_arrive _ _) id ?_ ?_ ?_
  · exact ⟨hclean, hr, hgr, by rw [harr], hsucc⟩
  · refine ⟨fun k hk => ?_, ((h.recorded c).mono _).successes⟩
    rcases Nat.lt_succ_iff_lt_or_eq.mp hk with hk | rfl
    · exact ((h.recorded c).mono _).arrivals k hk
    · refine ⟨by simp [harr, hgr], fun i h1 hi => List.mem_append_left _ ?_⟩
      refine (h.recorded c).successes i ?_
      rw [hsucc]
      exact mem_roundsUpTo.mpr ⟨h1, by omega⟩
  · exact fun hf => absurd hclean hf

/-- The end of a successful round: the successes are the rounds so far. -/
theorem RingInv.roundOk (h : RingInv cfg τ s arrivals) {c : Fin n} {r : Nat}
    (hstep : step cfg s (.roundOk c r) = some t) :
    RingInv cfg (τ ++ [.roundOk c r]) t arrivals := by
  obtain ⟨hphase, rfl⟩ := step_roundOk hstep
  have hstand := h.standing c
  simp only [Standing, hphase] at hstand
  refine h.frame_still _ rfl rfl id ?_ ?_ (h.sticky c)
  · have hnext : ∀ hf : (s.clients c).failures = [],
        (s.clients c).successes ++ [r] = roundsUpTo r := by
      intro hf
      obtain ⟨hpos, -, -, -, hsucc⟩ := hstand hf
      obtain ⟨r, rfl⟩ : ∃ k, r = k + 1 := ⟨r - 1, by omega⟩
      rw [hsucc, roundsUpTo_succ, Nat.add_sub_cancel]
    by_cases hlast : r < cfg.numRounds
    · simp only [Standing, if_pos hlast]
      intro hf
      obtain ⟨-, hr, harr, hgen, -⟩ := hstand hf
      exact ⟨hr, harr, hgen, hnext hf⟩
    · simp only [Standing, if_neg hlast]
      intro hf
      obtain ⟨-, hr, harr, hgen, -⟩ := hstand hf
      obtain rfl : r = cfg.numRounds := by omega
      exact ⟨by omega, hgen, hnext hf⟩
  · intro i hi
    rcases List.mem_append.mp hi with hi | hi
    · exact Or.inl hi
    · rw [List.mem_singleton.mp hi]
      exact Or.inr rfl

/-- The look at the flag: a client that goes on is clean. -/
theorem RingInv.load (h : RingInv cfg τ s arrivals) {c : Fin n} {r : Nat} {flag : Bool}
    (hstep : step cfg s (.load c r flag) = some t) :
    RingInv cfg (τ ++ [.load c r flag]) t arrivals := by
  obtain ⟨hphase, hflag, ⟨rfl, rfl⟩ | ⟨rfl, rfl⟩⟩ := step_load hstep
  · refine h.frame_still _ rfl rfl id ?_ (fun i hi => Or.inl hi) (fun _ => hflag.symm)
    exact standing_failed (by simp) (Or.inl rfl)
  · -- the flag is down, so the client is clean
    have hclean : (s.clients c).failures = [] := by
      by_contra hf
      exact absurd (h.sticky c hf) (by rw [← hflag]; simp)
    have hstand := h.standing c
    simp only [Standing, hphase] at hstand
    obtain ⟨hr, harr, hgen, hsucc⟩ := hstand hclean
    exact h.frame_still _ rfl rfl id ⟨hclean, hr, harr, hgen, hsucc⟩
      (fun i hi => Or.inl hi) (h.sticky c)

/-- **Every move keeps the invariant.** -/
theorem RingInv.move (h : RingInv cfg τ s arrivals) {e : RingEvent n}
    (hstep : step cfg s e = some t) : ∃ arrivals', RingInv cfg (τ ++ [e]) t arrivals' := by
  cases e with
  | arrive c r g => exact ⟨_, h.arrive hstep⟩
  | pass c r g =>
      obtain ⟨⟨leader, hphase⟩, hlt, rfl⟩ := step_pass hstep
      have hstand := h.standing c
      simp only [Standing, hphase] at hstand
      obtain ⟨hclean, hr, hgr, harr, hsucc⟩ := hstand
      refine ⟨arrivals, h.frame_still _ rfl rfl id ?_ (fun i hi => Or.inl hi) (h.sticky c)⟩
      exact standing_startRound hr fun _ => ⟨harr, by omega, hsucc⟩
  | timedOut c r g =>
      obtain ⟨hphase, rfl⟩ := step_timedOut hstep
      refine ⟨arrivals, h.frame_still _ rfl rfl (fun _ => rfl) ?_ (fun i hi => Or.inl hi)
        (fun _ => rfl)⟩
      exact standing_failed (by simp) (Or.inl rfl)
  | submit c r i =>
      obtain ⟨hphase, hi, rfl⟩ := step_submit hstep
      have hstand := h.standing c
      simp only [Standing, hphase] at hstand
      exact ⟨arrivals, h.frame_still _ rfl rfl id hstand (fun i hi => Or.inl hi) (h.sticky c)⟩
  | roundOk c r => exact ⟨arrivals, h.roundOk hstep⟩
  | roundFailed c r kind =>
      obtain ⟨-, -, rfl⟩ := step_roundFailed hstep
      refine ⟨arrivals, h.frame_still _ rfl rfl (fun _ => rfl) ?_ (fun i hi => Or.inl hi)
        (fun _ => rfl)⟩
      refine standing_failed (by simp) ?_
      cases cfg.failFast with
      | true => exact Or.inl rfl
      | false => exact Or.inr ⟨r + 1, rfl⟩
  | load c r flag => exact ⟨arrivals, h.load hstep⟩

theorem RingRun.inv [Nonempty (Fin n)] (h : RingRun cfg n τ s) :
    ∃ arrivals, RingInv cfg τ s arrivals :=
  h.rule (fun τ s => ∃ arrivals, RingInv cfg τ s arrivals) ⟨_, RingInv.start cfg⟩
    fun _ _ _ _ ⟨_, hinv⟩ hstep => hinv.move hstep

/-! ## The barrier and the rounds -/

/-- The round a client is in, or has completed last. -/
def Client.round (client : Client) : Nat :=
  match client.phase with
  | .atBarrier r => r
  | .waiting r _ _ => r
  | .inRound r _ => r
  | .afterRound r => r
  | .returned => client.successes.length

/-- A clean client keeps pace with the barrier. -/
theorem RingInv.clean_pace (h : RingInv cfg τ s arrivals) {c : Fin n}
    (hclean : (s.clients c).failures = []) :
    (Client.round (s.clients c) ≤ s.barrier.generation ∧
        s.barrier.generation ≤ Client.round (s.clients c) + 1) ∧
      (s.clients c).successes.length ≤ s.barrier.generation ∧
        s.barrier.generation ≤ (s.clients c).successes.length + 1 := by
  have hlow := h.accounts.lower c
  have hupp := h.accounts.upper c
  have hstand := h.standing c
  cases hphase : (s.clients c).phase with
  | atBarrier r =>
      simp only [Standing, hphase] at hstand
      obtain ⟨-, -, harr, hgen, hsucc⟩ := hstand
      simp only [Client.round, hphase, hsucc, roundsUpTo_length]
      omega
  | waiting r g leader =>
      simp only [Standing, hphase] at hstand
      obtain ⟨-, -, -, harr, hsucc⟩ := hstand
      simp only [Client.round, hphase, hsucc, roundsUpTo_length]
      omega
  | inRound r sent =>
      simp only [Standing, hphase] at hstand
      obtain ⟨hpos, -, harr, hgen, hsucc⟩ := hstand hclean
      simp only [Client.round, hphase, hsucc, roundsUpTo_length]
      omega
  | afterRound r =>
      simp only [Standing, hphase] at hstand
      obtain ⟨-, harr, hgen, hsucc⟩ := hstand hclean
      simp only [Client.round, hphase, hsucc, roundsUpTo_length]
      omega
  | returned =>
      simp only [Standing, hphase] at hstand
      obtain ⟨harr, hgen, hsucc⟩ := hstand hclean
      simp only [Client.round, hphase, hsucc, roundsUpTo_length]
      omega

/-- Whoever is let past generation `g` has been preceded there by everybody. -/
theorem RingInv.pass (h : RingInv cfg τ s arrivals) {c : Fin n} {r g : Nat}
    (hstep : step cfg s (.pass c r g) = some t) (d : Fin n) :
    .arrive d r g ∈ τ ∧ CompletedUpTo τ d r := by
  obtain ⟨⟨leader, hphase⟩, hlt, -⟩ := step_pass hstep
  have hstand := h.standing c
  simp only [Standing, hphase] at hstand
  obtain ⟨-, -, rfl, -, -⟩ := hstand
  exact (h.recorded d).arrivals g (h.accounts.all_arrived hlt d)

/-- **No early release.**  A client gets past the barrier after round `r` only
when every client has arrived at that generation, with the rounds `1..r`
completed; and clean clients are never more than one round apart. -/
theorem ring_no_early_release (h : RingRun cfg n τ s) :
    (∀ before after c r g, τ = before ++ .pass c r g :: after →
      ∀ d, .arrive d r g ∈ before ∧ CompletedUpTo before d r) ∧
    ∀ c d, (s.clients c).failures = [] → (s.clients d).failures = [] →
      Client.round (s.clients c) ≤ Client.round (s.clients d) + 1 ∧
        (s.clients c).successes.length ≤ (s.clients d).successes.length + 1 := by
  refine ⟨?_, ?_⟩
  · intro before after c r g hτ d
    have : Nonempty (Fin n) := ⟨c⟩
    obtain ⟨u, u', hrun, hstep⟩ := h.split hτ
    obtain ⟨arrivals, hinv⟩ := RingRun.inv hrun
    exact hinv.pass hstep d
  · intro c d hc hd
    have : Nonempty (Fin n) := ⟨c⟩
    obtain ⟨arrivals, hinv⟩ := RingRun.inv h
    obtain ⟨hround, hdone⟩ := hinv.clean_pace hc
    obtain ⟨hround', hdone'⟩ := hinv.clean_pace hd
    omega

end Step

/-- Two clients go through a round and meet again at the barrier; then the
second round of client `1` fails. -/
def meetTwice : List (RingEvent 2) :=
  [.arrive 0 0 0, .arrive 1 0 0, .pass 1 0 0, .pass 0 0 0, .submit 0 1 0, .submit 1 1 0,
    .roundOk 1 1, .load 1 1 false, .arrive 1 1 1, .roundOk 0 1, .load 0 1 false,
    .arrive 0 1 1, .pass 1 1 1, .roundFailed 1 2 .submitFailed]

theorem ring_no_early_release_meetTwice :
    ∃ s, RingRun ⟨2, 1, false⟩ 2 meetTwice s ∧ s.peerFailed = true ∧
      ∀ d, .arrive d 1 1 ∈ meetTwice.take 12 ∧ CompletedUpTo (meetTwice.take 12) d 1 := by
  obtain ⟨s, hs⟩ : ∃ s, exec (step ⟨2, 1, false⟩) (initial 2) meetTwice = some s :=
    Option.isSome_iff_exists.mp (by decide)
  have hflag : (exec (step ⟨2, 1, false⟩) (initial 2) meetTwice).map (·.peerFailed) = some true :=
    by decide
  refine ⟨s, run_of_exec hs, by simpa [hs] using hflag, ?_⟩
  exact (ring_no_early_release (run_of_exec hs)).1 _ _ 1 1 1 rfl

end Ring

end StatementStore
