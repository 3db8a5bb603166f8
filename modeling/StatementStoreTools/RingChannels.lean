import StatementStoreTools.RingExpiry
import StatementStoreTools.RingSchedules

/-!
# How long a statement of the ring stays in its channel

The channel of a message does not name the round, so the message of the next
round takes its place in the store.  The neighbour that waits for it should have
finished the round by then.

A client that completes its round gets to the next one through the barrier
only, behind everybody (`ring_channel_held`).  A client that fails its round
does not wait for anybody: it skips the barrier, and the statements of its next
round push out those that its predecessor may still be waiting for
(`ring_channel_reused`).
-/

namespace StatementStore

open Traces

namespace Ring

variable {n : Nat}

/-- The client that `p` subscribes to: `(client_id + 1) % num_clients`. -/
def neighbour (p : Fin n) : Fin n := ⟨(p.val + 1) % n, Nat.mod_lt _ p.pos⟩

/-- The name of the channel of message `i`. -/
def channelName (runId : UInt64) (c : Fin n) (i : Nat) : String :=
  ringChannelText (UInt32.ofNat c.val) (UInt32.ofNat i) runId

/-- Client `p` has finished round `r`. -/
def Finished (τ : List (RingEvent n)) (p : Fin n) (r : Nat) : Prop :=
  .roundOk p r ∈ τ ∨ ∃ kind, .roundFailed p r kind ∈ τ

/-- Whenever a client submits to a channel for the second time, its predecessor
has finished the round of the first time. -/
def ChannelHeld (τ : List (RingEvent n)) : Prop :=
  ∀ (before mid after : List (RingEvent n)) c r i r' i' runId,
    τ = before ++ .submit c r i :: (mid ++ .submit c r' i' :: after) →
    channelName runId c i = channelName runId c i' →
    ∀ p, neighbour p = c → Finished (before ++ mid) p r

/-- What has become of a client that submitted message `i` of round `r` before
the moves `mid`. -/
inductive Since (cfg : RingConfig) (c : Fin n) (r i : Nat) (τ mid : List (RingEvent n))
    (client : Client) : Prop
  /-- it is in the same round, further on -/
  | sending {k : Nat} (hk : i < k) (hphase : client.phase = .inRound r k)
  /-- it is kept between the rounds, or has stopped -/
  | held (hphase : client.phase = .afterRound r ∨ client.phase = .atBarrier r ∨
      (∃ g leader, client.phase = .waiting r g leader) ∨ client.phase = .returned)
  /-- it has failed the round, and goes on unless `fail_fast` is set -/
  | failed {kind : FailureKind} (hfailed : .roundFailed c r kind ∈ mid)
      (hfast : cfg.failFast = true → client.phase = .returned)
  /-- it has got past the barrier, behind everybody -/
  | passed (hall : ∀ d, CompletedUpTo τ d r)

section Since

variable {cfg : RingConfig} {s t : RingState n} {τ mid : List (RingEvent n)} {c : Fin n}
  {r i : Nat} {client : Client}

theorem CompletedUpTo.mono {d : Fin n} (h : CompletedUpTo τ d r) (e : RingEvent n) :
    CompletedUpTo (τ ++ [e]) d r :=
  fun j hpos hj => List.mem_append_left _ (h j hpos hj)

/-- A move of another client. -/
theorem Since.other (h : Since cfg c r i τ mid client) (e : RingEvent n) :
    Since cfg c r i (τ ++ [e]) (mid ++ [e]) client := by
  cases h with
  | sending hk hphase => exact .sending hk hphase
  | held hphase => exact .held hphase
  | failed hfailed hfast => exact .failed (List.mem_append_left _ hfailed) hfast
  | passed hall => exact .passed fun d => (hall d).mono e

/-- A client in the round sends on, or ends the round. -/
theorem Since.own_sending {e : RingEvent n} {k : Nat} (hk : i < k)
    (hphase : (s.clients c).phase = .inRound r k) (hc : RingEvent.client e = c)
    (hstep : step cfg s e = some t) : Since cfg c r i (τ ++ [e]) (mid ++ [e]) (t.clients c) := by
  rcases step_inRound hc hphase hstep with hnext | rfl | ⟨kind, rfl⟩
  · exact .sending (Nat.lt_succ_of_lt hk) hnext
  · obtain ⟨-, rfl⟩ := step_roundOk hstep
    refine .held ?_
    simp only [setClient_self]
    by_cases hlast : r < cfg.numRounds
    · exact Or.inl (if_pos hlast)
    · exact Or.inr (Or.inr (Or.inr (if_neg hlast)))
  · obtain ⟨-, -, rfl⟩ := step_roundFailed hstep
    have hmem : RingEvent.roundFailed c r kind ∈ mid ++ [.roundFailed c r kind] :=
      List.mem_append_right _ (List.mem_singleton_self _)
    refine .failed hmem fun hon => ?_
    simp [setClient, hon]

/-- A client held between the rounds stops, or gets on towards the barrier and
past it. -/
theorem Since.own_held [Nonempty (Fin n)] {e : RingEvent n}
    (hphase : (s.clients c).phase = .afterRound r ∨ (s.clients c).phase = .atBarrier r ∨
      (∃ g leader, (s.clients c).phase = .waiting r g leader) ∨ (s.clients c).phase = .returned)
    (hrun : RingRun cfg n τ s) (hc : RingEvent.client e = c) (hstep : step cfg s e = some t) :
    Since cfg c r i (τ ++ [e]) (mid ++ [e]) (t.clients c) := by
  subst hc
  cases e with
  | arrive c r' g =>
      obtain ⟨hat, -, rfl⟩ := step_arrive hstep
      simp only [RingEvent.client] at hphase ⊢
      rw [hat] at hphase
      obtain rfl : r' = r := by simpa using hphase
      exact .held (Or.inr (Or.inr (Or.inl
        ⟨_, _, congrArg Client.phase (setClient_self s c _)⟩)))
  | pass c r' g =>
      obtain ⟨⟨leader, hwait⟩, -⟩ := step_pass hstep
      simp only [RingEvent.client] at hphase ⊢
      rw [hwait] at hphase
      obtain rfl : r' = r := by simpa using hphase
      obtain ⟨arrivals, hinv⟩ := RingRun.inv hrun
      exact .passed fun d => ((hinv.pass hstep d).2).mono _
  | timedOut c r' g =>
      obtain ⟨-, rfl⟩ := step_timedOut hstep
      exact .held (Or.inr (Or.inr (Or.inr (congrArg Client.phase (setClient_self s c _)))))
  | submit c r' i' =>
      simp only [RingEvent.client] at hphase
      rw [(step_submit hstep).1] at hphase
      simp at hphase
  | roundOk c r' =>
      simp only [RingEvent.client] at hphase
      rw [(step_roundOk hstep).1] at hphase
      simp at hphase
  | roundFailed c r' kind =>
      obtain ⟨sent, hround⟩ := (step_roundFailed hstep).1
      simp only [RingEvent.client] at hphase
      rw [hround] at hphase
      simp at hphase
  | load c r' flag =>
      obtain ⟨hafter, -, ⟨-, rfl⟩ | ⟨-, rfl⟩⟩ := step_load hstep
      · exact .held (Or.inr (Or.inr (Or.inr (congrArg Client.phase (setClient_self s c _)))))
      · simp only [RingEvent.client] at hphase ⊢
        rw [hafter] at hphase
        obtain rfl : r' = r := by simpa using hphase
        exact .held (Or.inr (Or.inl (congrArg Client.phase (setClient_self s c _))))

/-- **One move of the client itself.** -/
theorem Since.own [Nonempty (Fin n)] {e : RingEvent n} (h : Since cfg c r i τ mid (s.clients c))
    (hrun : RingRun cfg n τ s) (hc : RingEvent.client e = c) (hstep : step cfg s e = some t) :
    Since cfg c r i (τ ++ [e]) (mid ++ [e]) (t.clients c) := by
  cases h with
  | failed hfailed hfast =>
      refine .failed (List.mem_append_left _ hfailed) fun hon => ?_
      subst hc
      exact absurd (hfast hon) (step_live hstep)
  | passed hall => exact .passed fun d => (hall d).mono e
  | sending hk hphase => exact .own_sending hk hphase hc hstep
  | held hphase => exact .own_held hphase hrun hc hstep

/-- **A run**, from any submission on. -/
theorem RingRun.since (h : RingRun cfg n τ s) :
    ∀ before mid c r i, τ = before ++ .submit c r i :: mid →
      Since cfg c r i τ mid (s.clients c) := by
  refine (h.rule (fun τ s => RingRun cfg n τ s ∧ ∀ before mid c r i,
    τ = before ++ .submit c r i :: mid → Since cfg c r i τ mid (s.clients c)) ?init ?one).2
  case init =>
    refine ⟨Run.nil, ?_⟩
    intro before mid c r i hτ
    simp at hτ
  case one =>
    intro τ s e t hboth hstep
    obtain ⟨hrun, hsince⟩ := hboth
    refine ⟨Run.snoc hrun hstep, ?_⟩
    intro before mid c r i hτ
    have : Nonempty (Fin n) := ⟨c⟩
    rcases List.eq_nil_or_concat mid with rfl | ⟨mid, last, rfl⟩
    · obtain ⟨rfl, hlast⟩ := List.append_inj' hτ rfl
      obtain rfl := (List.cons.inj hlast).1
      obtain ⟨-, -, rfl⟩ := step_submit hstep
      exact .sending (Nat.lt_succ_self i) (congrArg Client.phase (setClient_self s c _))
    · rw [List.concat_eq_append, ← List.cons_append, ← List.append_assoc] at hτ
      obtain ⟨hfront, hlast⟩ := List.append_inj' hτ rfl
      obtain rfl := (List.cons.inj hlast).1
      rw [List.concat_eq_append]
      have hold := hsince before mid c r i hfront
      by_cases hc : RingEvent.client e = c
      · exact hold.own hrun hc hstep
      · rw [step_other hstep hc]
        exact hold.other e

end Since

/-- A channel name determines the index of the message, in 32 bits. -/
theorem channelName_eq {runId : UInt64} {c : Fin n} {i i' : Nat}
    (h : channelName runId c i = channelName runId c i') : UInt32.ofNat i = UInt32.ofNat i' :=
  (ringChannelText_inj h).2.1

/-- **A channel is held.**  With at most `2 ^ 32` messages in a round, a client
that submits to a channel again has been preceded by its predecessor, which
has completed the round, unless the client itself has failed that round and
`fail_fast` is off. -/
theorem ring_channel_held {cfg : RingConfig} {τ : List (RingEvent n)} {s : RingState n}
    (h : RingRun cfg n τ s) (hmax : cfg.messages ≤ 2 ^ 32) :
    ∀ (before mid after : List (RingEvent n)) c r i r' i' runId,
      τ = before ++ .submit c r i :: (mid ++ .submit c r' i' :: after) →
      channelName runId c i = channelName runId c i' →
      (cfg.failFast = true ∨ ∀ kind, .roundFailed c r kind ∉ mid) →
      ∀ p, neighbour p = c → .roundOk p r ∈ before ++ mid := by
  intro before mid after c r i r' i' runId hτ hname hfailed p _
  have hsplit : τ = (before ++ .submit c r i :: mid) ++ .submit c r' i' :: after := by
    rw [hτ, List.append_assoc, List.cons_append]
  obtain ⟨u, u', hrun, hstep⟩ := h.split hsplit
  obtain ⟨hphase, hi', -⟩ := step_submit hstep
  cases RingRun.since hrun before mid c r i rfl with
  | @sending k hk hsending =>
      -- the same round: the index has moved on, and does not come back
      rw [hphase] at hsending
      obtain ⟨rfl, rfl⟩ := Phase.inRound.inj hsending
      have hidx := congrArg UInt32.toNat (channelName_eq hname)
      rw [UInt32.toNat_ofNat_of_lt' (show i < 2 ^ 32 by omega),
        UInt32.toNat_ofNat_of_lt' (show i' < 2 ^ 32 by omega)] at hidx
      omega
  | held hheld =>
      rw [hphase] at hheld
      simp at hheld
  | failed hmem hfast =>
      rcases hfailed with hon | hnone
      · rw [hphase] at hfast
        cases hfast hon
      · exact absurd hmem (hnone _)
  | passed hall =>
      obtain ⟨-, hr, -⟩ : Progress cfg (attempts (before ++ .submit c r i :: mid) c).length
          (stops (before ++ .submit c r i :: mid) c) (.inRound r' i') := by
        rw [← hphase]
        exact (RingRun.ledger hrun c).progress
      have hpos : 1 ≤ r := by
        obtain ⟨v, v', hrun', hstep'⟩ := hrun.split (e := .submit c r i) rfl
        have hprogress := (RingRun.ledger hrun' c).progress
        rw [(step_submit hstep').1] at hprogress
        obtain ⟨-, hlen, -⟩ := hprogress
        omega
      have hdone := hall p r hpos (Nat.le_refl r)
      rw [List.mem_append, List.mem_cons] at hdone
      rw [List.mem_append]
      rcases hdone with hbefore | hsubmit | hmid
      · exact Or.inl hbefore
      · cases hsubmit
      · exact Or.inr hmid

/-- Two clients meet twice; the first round of both succeeds. -/
theorem ring_channel_held_meetTwice :
    (∃ s, RingRun ⟨2, 1, false⟩ 2 (meetTwice.take 13 ++ [.submit 1 2 0]) s) ∧
      .roundOk 0 1 ∈ meetTwice.take 5 ++ (meetTwice.take 13).drop 6 := by
  obtain ⟨s, hs⟩ : ∃ s, exec (step ⟨2, 1, false⟩) (initial 2)
      (meetTwice.take 13 ++ [.submit 1 2 0]) = some s :=
    Option.isSome_iff_exists.mp (by decide)
  exact ⟨⟨s, run_of_exec hs⟩, ring_channel_held (run_of_exec hs) (by decide) (meetTwice.take 5)
    ((meetTwice.take 13).drop 6) [] 1 1 0 2 0 7 rfl rfl (Or.inr (by simp [meetTwice])) 0 rfl⟩

/-- Client `a` has failed its first round, while client `b`, which is subscribed
to it, is still in that round. -/
def resent (a b : Fin n) : List (RingEvent n) :=
  [.arrive a 0 0, .arrive b 0 0, .pass a 0 0, .pass b 0 0, .submit a 1 0, .submit b 1 0,
    .roundFailed a 1 .propagationTimeout, .submit a 2 0]

/-- One client that sends `K + 1` messages in its first round. -/
theorem exists_long_round (K : Nat) (hK : 0 < K) : ∃ s,
    RingRun ⟨1, K + 1, true⟩ 1
      ([.arrive 0 0 0, .pass 0 0 0] ++ RingEvent.submit (0 : Fin 1) 1 0 ::
        ((List.range' 1 (K - 1)).map (RingEvent.submit (0 : Fin 1) 1) ++ [.submit 0 1 K])) s := by
  obtain ⟨s, hs, hphase⟩ : ∃ s, exec (step ⟨1, K + 1, true⟩) (initial 1)
      [.arrive 0 0 0, .pass 0 0 0] = some s ∧ (s.clients 0).phase = .inRound 1 0 :=
    ⟨_, rfl, rfl⟩
  have hsends := run_submits_eq ⟨1, K + 1, true⟩ hphase (K + 1) (Nat.le_refl _)
  have hsplit : (List.range (K + 1)).map (RingEvent.submit (0 : Fin 1) 1) =
      .submit 0 1 0 :: ((List.range' 1 (K - 1)).map (RingEvent.submit (0 : Fin 1) 1) ++
        [.submit 0 1 K]) := by
    obtain ⟨k, rfl⟩ : ∃ k, K = k + 1 := ⟨K - 1, by omega⟩
    rw [List.range_succ, List.range_eq_range', List.range'_succ]
    simp
  rw [hsplit] at hsends
  exact ⟨_, (run_of_exec hs).append hsends⟩

/-- **A channel used again too early**, after a failed round; and within one
round, when its messages outnumber 32 bits.  A round of `2 ^ 32 + 1` messages
expects a single topic, so that the guard on the topics lets it through
(`executeRound_guard_iff`). -/
theorem ring_channel_reused :
    ((∃ s, RingRun ⟨2, 1, false⟩ 2 (resent 0 1) s) ∧ ¬ ChannelHeld (resent (0 : Fin 2) 1)) ∧
    ∃ τ s, RingRun ⟨1, 2 ^ 32 + 1, true⟩ 1 τ s ∧ ¬ ChannelHeld τ := by
  refine ⟨⟨?_, ?_⟩, ?_⟩
  · obtain ⟨s, hs⟩ : ∃ s, exec (step ⟨2, 1, false⟩) (initial 2) (resent 0 1) = some s :=
      Option.isSome_iff_exists.mp (by decide)
    exact ⟨s, run_of_exec hs⟩
  · intro hheld
    rcases hheld ((resent 0 1).take 4) [.submit 1 1 0, .roundFailed 0 1 .propagationTimeout] []
      0 1 0 2 0 7 rfl rfl 1 rfl with hok | ⟨kind, hfail⟩
    · simp [resent] at hok
    · simp [resent] at hfail
  · obtain ⟨s, hs⟩ := exists_long_round (2 ^ 32) (by decide)
    refine ⟨_, s, hs, fun hheld => ?_⟩
    have hname : channelName 7 (0 : Fin 1) 0 = channelName 7 (0 : Fin 1) (2 ^ 32) := by
      have hwrap : UInt32.ofNat 0 = UInt32.ofNat (2 ^ 32) := by decide
      rw [channelName, channelName, hwrap]
    rcases hheld _ _ [] 0 1 0 1 (2 ^ 32) 7 rfl hname 0 rfl with hok | ⟨kind, hfail⟩
    · simp at hok
    · simp at hfail

end Ring

end StatementStore
