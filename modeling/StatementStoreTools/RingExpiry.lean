import StatementStoreTools.ExpiryClock
import StatementStoreTools.RingTopics

/-!
# The channels of the ring over all its rounds

The channel of a message is named after the client and the index of the
message, but not after the round: every round of a client writes to the
channels of the round before.  A statement replaces an older one in the store
only with a higher expiry, so the expiries of one channel have to rise from
round to round, although the clock may not have moved.

They do: the timestamp never falls, and the sequence number below it is a
multiple of the round.  `executeRound_sends` keeps the time of every submission;
`ring_channels_superseded` is the law for a whole run, under shared seeds too.
-/

namespace StatementStore

open SplitWords DashNames

/-! ## When a round submits what -/

/-- The calls `sends` submit the messages `sentCount`, `sentCount + 1`, … one
after the other, each at a time between `start` and `stop`. -/
def SendsBetween (env : RoundEnv) (sentCount : UInt32) (start stop : Instant)
    (sends : List Call) : Prop :=
  ∀ (i : Nat) s, (submitted sends)[i]? = some s → ∃ now size,
    .submit env.rpcClient now s ∈ sends ∧ start ≤ now ∧ now ≤ stop ∧
      s = env.statement (sentCount + UInt32.ofNat i) size now

section Sends

variable {env : RoundEnv} {sizes : List UInt64} {sentCount : UInt32} {w w' : World}
  {start stop : Instant} {sends : List Call}

theorem SendsBetween.nil : SendsBetween env sentCount start stop [] := by
  intro i s hs
  cases hs

theorem SendsBetween.wider (h : SendsBetween env sentCount start stop sends)
    {start' stop' : Instant} (hstart : start' ≤ start) (hstop : stop ≤ stop') :
    SendsBetween env sentCount start' stop' sends := by
  intro i s hs
  obtain ⟨now, size, hmem, hlo, hhi, heq⟩ := h i s hs
  exact ⟨now, size, hmem, hstart.trans hlo, hhi.trans hstop, heq⟩

/-- A subscription comes in between. -/
theorem SendsBetween.subscribe (h : SendsBetween env sentCount start stop sends)
    (rpc : Handle) (t : Instant) (filter : TopicFilter) :
    SendsBetween env sentCount start stop (.subscribe rpc t filter :: sends) := by
  intro i s hs
  obtain ⟨now, size, hmem, hbetween⟩ := h i s hs
  exact ⟨now, size, List.mem_cons_of_mem _ hmem, hbetween⟩

theorem SendsBetween.cons {size : UInt64} {now : Instant}
    (h : SendsBetween env (sentCount + 1) start stop sends) (hlo : start ≤ now) (hhi : now ≤ stop) :
    SendsBetween env sentCount start stop
      (.submit env.rpcClient now (env.statement sentCount size now) :: sends) := by
  intro i s hs
  cases i with
  | zero =>
      obtain rfl : env.statement sentCount size now = s := Option.some.inj hs
      exact ⟨now, size, List.mem_cons_self .., hlo, hhi, by simp⟩
  | succ i =>
      obtain ⟨now', size', hmem, hlo', hhi', heq⟩ := h i s hs
      refine ⟨now', size', List.mem_cons_of_mem _ hmem, hlo', hhi', ?_⟩
      rw [heq, UInt32.ofNat_add, UInt32.add_assoc, UInt32.add_comm 1]
      rfl

/-- **The send loop**, with the time of every submission. -/
theorem sendPlan_sends {res : Except FailureKind UInt32}
    (h : env.sendPlan sizes sentCount w = (res, w')) :
    ∃ sends, Extends w w' sends ∧ SendsBetween env sentCount w.now w'.now sends := by
  induction sizes generalizing sentCount w with
  | nil =>
      obtain ⟨-, rfl⟩ := Prod.mk.inj h
      exact ⟨[], Extends.refl w, SendsBetween.nil⟩
  | cons size sizes ih =>
      simp only [RoundEnv.sendPlan] at h
      rcases hone : env.sendOne size sentCount w with ⟨one, mid⟩
      have hmid : Extends w mid
          [.submit env.rpcClient w.now (env.statement sentCount size w.now)] := by
        have hsubmit := submitStatement_extends env.rpcClient
          (env.statement sentCount size w.now) w
        unfold RoundEnv.sendOne at hone
        rcases hanswer : submitStatement env.rpcClient (env.statement sentCount size w.now) w
          with ⟨_ | _, after⟩
        · rw [hanswer] at hone hsubmit
          obtain ⟨-, rfl⟩ := Prod.mk.inj hone
          exact hsubmit.logLine _
        · rw [hanswer] at hone hsubmit
          obtain ⟨-, rfl⟩ := Prod.mk.inj hone
          exact hsubmit
      obtain ⟨-, hcount⟩ := RoundEnv.sendOne_cases size hone
      rw [hone] at h
      rcases hcount with rfl | rfl
      · obtain ⟨sends, hsends, hbetween⟩ := ih h
        refine ⟨_, hmid.trans hsends, ?_⟩
        exact (hbetween.wider hmid.now_le (Nat.le_refl _)).cons (Nat.le_refl _)
          (hmid.now_le.trans hsends.now_le)
      · obtain ⟨-, rfl⟩ := Prod.mk.inj h
        exact ⟨_, hmid, SendsBetween.nil.cons (Nat.le_refl _) hmid.now_le⟩

/-- A round that has subscribed, up to the end of its send loop. -/
theorem opened_sends {filter : TopicFilter} {subscription : EventStream} {u v : World}
    {res : Except FailureKind UInt32}
    (hsub : subscribeTopic env.rpcClient filter w = (.ok subscription, v))
    (hplan : env.sendPlan (messagePlan env.config.messagesPattern) 0 v = (res, u)) :
    ∃ calls, Extends w u calls ∧ SendsBetween env 0 w.now u.now calls := by
  have hsubscribe := subscribeTopic_extends env.rpcClient filter w
  rw [hsub] at hsubscribe
  obtain ⟨sends, hsends, hbetween⟩ := sendPlan_sends hplan
  exact ⟨_, hsubscribe.trans hsends,
    (hbetween.wider hsubscribe.now_le (Nat.le_refl _)).subscribe env.rpcClient w.now filter⟩

/-- **A round**, with the time of every submission. -/
theorem executeRound_sends {fuel : Nat} {res : Except FailureKind RoundStats}
    (h : executeRound env fuel w = some (res, w')) :
    ∃ calls, Extends w w' calls ∧ SendsBetween env 0 w.now w'.now calls := by
  cases executeRound_exits h with
  | guarded => exact ⟨[], (Extends.refl w).logLine _, SendsBetween.nil⟩
  | refused hfits hsub =>
      have hsubscribe := subscribeTopic_extends env.rpcClient (.matchAny ⟨env.expected, hfits⟩) w
      rw [hsub] at hsubscribe
      exact ⟨_, hsubscribe.logLine _, SendsBetween.nil.subscribe _ _ _⟩
  | broken hfits hsub hplan =>
      exact opened_sends hsub hplan
  | @failed _ _ _ _ reading _ _ _ hfits hsub hplan =>
      obtain ⟨calls, hextends, hbetween⟩ := opened_sends hsub hplan
      exact ⟨calls, (hextends.wait reading.spent).logLine _,
        hbetween.wider (Nat.le_refl _) (Nat.le_add_right ..)⟩
  | @received _ _ _ _ _ reading _ hfits hsub hplan =>
      obtain ⟨calls, hextends, hbetween⟩ := opened_sends hsub hplan
      exact ⟨calls, hextends.wait reading.spent,
        hbetween.wider (Nat.le_refl _) (Nat.le_add_right ..)⟩

end Sends

/-! ## The life of a client -/

theorem ringChannelText_toList (clientId sentCount : UInt32) (testRunId : UInt64) :
    (ringChannelText clientId sentCount testRunId).toList =
      decimal clientId.toNat ++ '-' :: (decimal sentCount.toNat ++
        '-' :: decimal testRunId.toNat) := by
  simp only [ringChannelText, String.toList_append, toList_toString,
    show (toString "-").toList = ['-'] from rfl, List.append_assoc, List.cons_append,
    List.nil_append]

/-- **The channel text determines the client and the index.** -/
theorem ringChannelText_inj {runId runId' : UInt64} {c c' i i' : UInt32}
    (h : ringChannelText c i runId = ringChannelText c' i' runId') :
    c = c' ∧ i = i' ∧ runId = runId' := by
  have hlist := congrArg String.toList h
  rw [ringChannelText_toList, ringChannelText_toList] at hlist
  obtain ⟨hc, hlist⟩ := decimal_cut_first (by decide) hlist
  obtain ⟨hi, hrun⟩ := decimal_cut_first (by decide) hlist
  exact ⟨UInt32.toNat_inj.mp hc, UInt32.toNat_inj.mp hi,
    UInt64.toNat_inj.mp (decimal_injective hrun)⟩

/-- A round that a client has gone through. -/
structure RoundRun where
  round : Nat
  before : World
  after : World
  res : Except FailureKind RoundStats
  calls : List Call

/-- The rounds of one client, in order.  Each is a round of the code, with the
key pair the client was given, and starts when the one before is over. -/
structure ClientLife (crates : Crates) (clock : Clock) (args : RingArgs) (runId : UInt64)
    (c : UInt32) (keyring : Keypair) (life : List RoundRun) : Prop where
  rounds : ∀ run ∈ life, IsRound args run.round
  executed : ∀ run ∈ life, ∃ rpcClient fuel,
    executeRound ⟨crates, clock, clientConfig args runId c, rpcClient, keyring, run.round⟩ fuel
      run.before = some (run.res, run.after)
  calls : ∀ run ∈ life, run.after.calls = run.before.calls ++ run.calls
  order : life.Pairwise fun a b => a.round < b.round ∧ a.after.now ≤ b.before.now

/-- No expiry timestamp of the life overflows. -/
def TimestampsFit (clock : Clock) (args : RingArgs) (life : List RoundRun) : Prop :=
  ∀ run ∈ life, ∀ rpc now s, .submit rpc now s ∈ run.calls →
    ringDue clock now args.statementExpiryMs < 2 ^ 32

/-- What holds of the channels of a run, given by the lives of its clients. -/
structure ChannelsKept (args : RingArgs) (lives : UInt32 → List RoundRun) : Prop where
  /-- different clients or indices never share a channel of an account -/
  apart : ∀ c ∈ clientIds args, ∀ c' ∈ clientIds args, ∀ run ∈ lives c, ∀ run' ∈ lives c',
    ∀ (i i' : Nat) (s s' : Statement),
      (submitted run.calls)[i]? = some s → (submitted run'.calls)[i']? = some s' →
      (c, i) ≠ (c', i') → (s.signer, s.channel) ≠ (s'.signer, s'.channel)
  /-- a message of a later round is in the channel of the same message before, with a
  higher expiry -/
  superseded : ∀ c ∈ clientIds args, ∀ run ∈ lives c, ∀ run' ∈ lives c, run.round < run'.round →
    ∀ (i : Nat) (s s' : Statement),
      (submitted run.calls)[i]? = some s → (submitted run'.calls)[i]? = some s' →
      (s.signer, s.channel) = (s'.signer, s'.channel) ∧ s.expiry < s'.expiry

section Life

theorem roundStatement_signer (crates : Crates) (clock : Clock) (config : ClientConfig)
    (keyring : Keypair) (round : Nat) (sentCount : UInt32) (size : UInt64) (now : Instant) :
    (roundStatement crates clock config keyring round sentCount size now).signer =
      some keyring.account := rfl

theorem roundStatement_channel (crates : Crates) (clock : Clock) (config : ClientConfig)
    (keyring : Keypair) (round : Nat) (sentCount : UInt32) (size : UInt64) (now : Instant) :
    (roundStatement crates clock config keyring round sentCount size now).channel =
      some (crates.blake2_256 (ringChannelText config.clientId sentCount config.testRunId)) := rfl

variable {crates : Crates} {clock : Clock} {args : RingArgs} {runId : UInt64} {c : UInt32}
  {keyring : Keypair} {life : List RoundRun}

/-- **Statement `i` of a round**, with the time of its submission. -/
theorem ClientLife.get (h : ClientLife crates clock args runId c keyring life)
    (hmax : totalMessages args.messagesPattern ≤ 128) {run : RoundRun} (hrun : run ∈ life)
    {i : Nat} {s : Statement} (hs : (submitted run.calls)[i]? = some s) :
    i < totalMessages args.messagesPattern ∧ ∃ rpc now size,
      .submit rpc now s ∈ run.calls ∧ run.before.now ≤ now ∧ now ≤ run.after.now ∧
        s = roundStatement crates clock (clientConfig args runId c) keyring run.round
          (UInt32.ofNat i) size now := by
  obtain ⟨rpc, fuel, hexec⟩ := h.executed run hrun
  have hround : RingRound crates args runId c run.round run.res run.calls :=
    ⟨clock, rpc, keyring, fuel, run.before, run.after, hexec, h.calls run hrun⟩
  obtain ⟨calls, hextends, hbetween⟩ := executeRound_sends hexec
  obtain rfl := List.append_cancel_left ((h.calls run hrun).symm.trans hextends.calls)
  obtain ⟨now, size, hmem, hlo, hhi, heq⟩ := hbetween i s hs
  rw [UInt32.zero_add] at heq
  exact ⟨(ringRound_get hmax hround hs).1, rpc, now, size, hmem, hlo, hhi, heq⟩

/-- In the life of a client, a later round is not only later in number. -/
theorem ClientLife.later (h : ClientLife crates clock args runId c keyring life)
    {run run' : RoundRun} (hrun : run ∈ life) (hrun' : run' ∈ life)
    (hlt : run.round < run'.round) : run.after.now ≤ run'.before.now := by
  obtain ⟨p, hp, rfl⟩ := List.getElem_of_mem hrun
  obtain ⟨q, hq, rfl⟩ := List.getElem_of_mem hrun'
  have hordered := List.pairwise_iff_getElem.mp h.order
  rcases Nat.lt_trichotomy p q with hpq | rfl | hqp
  · exact (hordered p q hp hq hpq).2
  · exact absurd hlt (Nat.lt_irrefl _)
  · exact absurd hlt (Nat.lt_asymm (hordered q p hq hp hqp).1)

/-- The sequence number of message `i` in round `r`, when nothing overflows. -/
theorem ringSeq_toNat (hseq : totalMessages args.messagesPattern * args.numRounds < 2 ^ 32)
    {i r : Nat} (hi : i < totalMessages args.messagesPattern) (hr : IsRound args r)
    (hmax : totalMessages args.messagesPattern ≤ 128) :
    ((UInt32.ofNat i + 1) * UInt32.ofNat r).toNat = (i + 1) * r := by
  have hprod : (i + 1) * r < 2 ^ 32 := Nat.lt_of_le_of_lt (Nat.mul_le_mul hi hr.2) hseq
  have hr32 : r < 2 ^ 32 := Nat.lt_of_le_of_lt (Nat.le_mul_of_pos_left r (Nat.succ_pos i)) hprod
  have hi32 : (UInt32.ofNat i).toNat = i := UInt32.toNat_ofNat_of_lt' (show i < 2 ^ 32 by omega)
  have hsucc : (UInt32.ofNat i + 1).toNat = i + 1 := by
    rw [toNat_add_one (by omega), hi32]
  rw [UInt32.toNat_mul, hsucc, UInt32.toNat_ofNat_of_lt' hr32]
  exact Nat.mod_eq_of_lt hprod

theorem ringChannelText_mem (hc : c ∈ clientIds args) {i : Nat}
    (hi : i < totalMessages args.messagesPattern) :
    ringChannelText c (UInt32.ofNat i) runId ∈ hashedTexts args runId :=
  List.mem_flatMap.mpr ⟨c, hc, List.mem_flatMap.mpr ⟨i, List.mem_range.mpr hi,
    List.mem_cons_self ..⟩⟩

end Life

/-- **Channels of the ring.**  Over all rounds of all clients, whoever signs:
no channel is shared, and every statement replaces the one before it. -/
theorem ring_channels_superseded {crates : Crates} {clock : Clock} {args : RingArgs}
    {runId : UInt64} {keyrings : UInt32 → Keypair} {lives : UInt32 → List RoundRun}
    (hclock : Monotone clock) (hmax : totalMessages args.messagesPattern ≤ 128)
    (hseq : totalMessages args.messagesPattern * args.numRounds < 2 ^ 32)
    (hfree : CollisionFree crates args runId)
    (hlives : ∀ c ∈ clientIds args, ClientLife crates clock args runId c (keyrings c) (lives c))
    (hfit : ∀ c ∈ clientIds args, TimestampsFit clock args (lives c)) :
    ChannelsKept args lives where
  apart := by
    intro c hc c' hc' run hrun run' hrun' i i' s s' hs hs' hne heq
    obtain ⟨hi, rpc, now, size, -, -, -, rfl⟩ := (hlives c hc).get hmax hrun hs
    obtain ⟨hi', rpc', now', size', -, -, -, rfl⟩ := (hlives c' hc').get hmax hrun' hs'
    have hchannel := Option.some.inj (Prod.mk.inj heq).2
    have htext := hfree (ringChannelText_mem hc hi) (ringChannelText_mem hc' hi') hchannel
    obtain ⟨rfl, hidx, -⟩ := ringChannelText_inj htext
    have hnat := congrArg UInt32.toNat hidx
    rw [UInt32.toNat_ofNat_of_lt' (show i < 2 ^ 32 by omega),
      UInt32.toNat_ofNat_of_lt' (show i' < 2 ^ 32 by omega)] at hnat
    exact hne (by rw [hnat])
  superseded := by
    intro c hc run hrun run' hrun' hlt i s s' hs hs'
    have hlife := hlives c hc
    obtain ⟨hi, rpc, now, size, hmem, -, hnow, heq⟩ := hlife.get hmax hrun hs
    obtain ⟨-, rpc', now', size', hmem', hnow', -, heq'⟩ := hlife.get hmax hrun' hs'
    refine ⟨?_, ?_⟩
    · rw [heq, heq', roundStatement_signer, roundStatement_signer, roundStatement_channel,
        roundStatement_channel]
    · have hdue := hfit c hc run hrun rpc now s hmem
      have hdue' := hfit c hc run' hrun' rpc' now' s' hmem'
      have htime : now ≤ now' := hnow.trans ((hlife.later hrun hrun' hlt).trans hnow')
      have hrises : ringDue clock now args.statementExpiryMs ≤
          ringDue clock now' args.statementExpiryMs :=
        Nat.div_le_div_right (Nat.add_le_add_right (hclock htime) _)
      have hseqs : (i + 1) * run.round < (i + 1) * run'.round :=
        Nat.mul_lt_mul_of_pos_left hlt (Nat.succ_pos i)
      rw [heq, heq', roundStatement_expiry, roundStatement_expiry, pack_lt_pack,
        UInt32.lt_iff_toNat_lt, UInt32.lt_iff_toNat_lt, ← UInt32.toNat_inj,
        ringSeq_toNat hseq hi (hlife.rounds run hrun) hmax,
        ringSeq_toNat hseq hi (hlife.rounds run' hrun') hmax]
      have hms : (clientConfig args runId c).statementExpiryMs = args.statementExpiryMs := rfl
      rw [hms, UInt32.toNat_ofNat_of_lt' hdue, UInt32.toNat_ofNat_of_lt' hdue']
      omega

/-- Every subscription delivers two statements at once. -/
def promptWorld : World :=
  steadyWorld (.ok (Stream'.const (.item 0 (.ok (.newStatements [[0], [1]] none))))) (.ok .new)

/-- A round of one of three clients that share a key, at a clock that stands still. -/
def sharedRound (c : UInt32) (round : Nat) (before : World) : RoundRun :=
  match executeRound ⟨topicCodec, fixedClock, clientConfig threeClients 7 c, 0,
      ⟨paddedText "shared"⟩, round⟩ 1 before with
  | some (res, after) => ⟨round, before, after, res, after.calls.drop before.calls.length⟩
  | none => ⟨round, before, before, .error .taskPanicked, []⟩

theorem sharedRound_runs {c : UInt32} {round : Nat} {before : World}
    (hreturns : (executeRound ⟨topicCodec, fixedClock, clientConfig threeClients 7 c, 0,
      ⟨paddedText "shared"⟩, round⟩ 1 before).isSome = true) :
    executeRound ⟨topicCodec, fixedClock, clientConfig threeClients 7 c, 0,
        ⟨paddedText "shared"⟩, (sharedRound c round before).round⟩ 1
        (sharedRound c round before).before =
      some ((sharedRound c round before).res, (sharedRound c round before).after) := by
  obtain ⟨⟨res, after⟩, hexec⟩ := Option.isSome_iff_exists.mp hreturns
  simp only [sharedRound, hexec]

def sharedLife (c : UInt32) : List RoundRun :=
  let first := sharedRound c 1 promptWorld
  [first, sharedRound c 2 first.after]

theorem ring_channels_superseded_sharedKey : ChannelsKept threeClients sharedLife ∧
    (sharedLife 1).map (fun run => (submitted run.calls).length) = [2, 2] := by
  refine ⟨@ring_channels_superseded topicCodec fixedClock _ 7 (fun _ => ⟨paddedText "shared"⟩) _
    monotone_const (by decide) (by decide) ?_ ?_ ?_, rfl⟩
  · have hshort : (hashedTexts threeClients 7).all isShort = true := by decide
    exact paddedText_injOn.mono (List.all_eq_true.mp hshort)
  · intro c hc
    have hround : IsRound threeClients 1 ∧ IsRound threeClients 2 :=
      ⟨⟨by decide, by decide⟩, by decide, by decide⟩
    have hexec : ∀ run ∈ sharedLife c, executeRound ⟨topicCodec, fixedClock,
        clientConfig threeClients 7 c, 0, ⟨paddedText "shared"⟩, run.round⟩ 1 run.before =
          some (run.res, run.after) := by
      intro run hrun
      rcases List.mem_pair.mp hrun with rfl | rfl
      · exact sharedRound_runs rfl
      · exact sharedRound_runs rfl
    refine ⟨?_, ?_, ?_, ?_⟩
    · intro run hrun
      rcases List.mem_pair.mp hrun with rfl | rfl
      · exact hround.1
      · exact hround.2
    · exact fun run hrun => ⟨0, 1, hexec run hrun⟩
    · intro run hrun
      obtain ⟨calls, hextends, -⟩ := executeRound_sends (hexec run hrun)
      have hdrop : run.calls = run.after.calls.drop run.before.calls.length := by
        rcases List.mem_pair.mp hrun with rfl | rfl
        · rfl
        · rfl
      rw [hdrop, hextends.calls, List.drop_left]
    · exact List.pairwise_pair.mpr ⟨Nat.lt_succ_self 1, Nat.le_refl _⟩
  · intro c hc run hrun rpc now s hmem
    change (1700000000000000000 + 600000 * 1000000) / 1000000000 < 2 ^ 32
    decide

end StatementStore
