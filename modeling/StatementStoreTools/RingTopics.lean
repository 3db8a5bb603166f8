import StatementStoreTools.DashNames
import StatementStoreTools.RoundOutcome

/-!
# Who waits for what in the ring

Sender and receiver compute the topics of a round on two code paths: the send
loop with a running `sent_count`, and one flat range over `expected_count`.
Both name message `i` of client `c` in round `r` by the same text, the texts
of different messages differ, and the neighbour map is a bijection of the
clients.  So every statement of the ring is waited for by exactly one client,
in exactly one round (`ring_topics_agree`).
-/

namespace StatementStore

open DashNames

/-! ## The texts -/

theorem ringTopicText_toList (testRunId : UInt64) (clientId : UInt32) (round : Nat)
    (msgIdx : UInt32) :
    (ringTopicText testRunId clientId round msgIdx).toList =
      decimal testRunId.toNat ++ '-' :: (decimal clientId.toNat ++
        '-' :: (decimal round ++ '-' :: decimal msgIdx.toNat)) := by
  simp only [ringTopicText, String.toList_append, toList_toString,
    show (toString "-").toList = ['-'] from rfl, List.append_assoc, List.cons_append,
    List.nil_append]

/-- **The topic text determines its four numbers.** -/
theorem ringTopicText_inj {runId runId' : UInt64} {c c' i i' : UInt32} {r r' : Nat}
    (h : ringTopicText runId c r i = ringTopicText runId' c' r' i') :
    runId = runId' ∧ c = c' ∧ r = r' ∧ i = i' := by
  have hlist := congrArg String.toList h
  rw [ringTopicText_toList, ringTopicText_toList] at hlist
  obtain ⟨hrun, hlist⟩ := decimal_cut_first (by decide) hlist
  obtain ⟨hc, hlist⟩ := decimal_cut_first (by decide) hlist
  obtain ⟨hr, hi⟩ := decimal_cut_first (by decide) hlist
  exact ⟨UInt64.toNat_inj.mp hrun, UInt32.toNat_inj.mp hc, hr,
    UInt32.toNat_inj.mp (decimal_injective hi)⟩

/-! ## The clients of a run -/

/-- What `main` makes of the command line, as far as the clients see it. -/
structure RingArgs where
  numClients : UInt32
  messagesPattern : List (UInt64 × UInt64)
  receiveTimeoutMs : UInt64
  numRounds : Nat
  intervalMs : UInt64
  statementExpiryMs : UInt64
  failFast : Bool
  seed : List String

/-- The `ClientConfig` that `main` builds for a client. -/
def clientConfig (args : RingArgs) (testRunId : UInt64) (clientId : UInt32) : ClientConfig where
  clientId := clientId
  neighbourId := (clientId + 1) % args.numClients
  numClients := args.numClients
  numRounds := args.numRounds
  testRunId := testRunId
  messagesPattern := args.messagesPattern
  receiveTimeoutMs := args.receiveTimeoutMs
  intervalMs := args.intervalMs
  statementExpiryMs := args.statementExpiryMs
  failFast := args.failFast
  seed := if args.seed = [] then none else args.seed[clientId.toNat % args.seed.length]?

/-- `0..args.num_clients`. -/
def clientIds (args : RingArgs) : List UInt32 :=
  (List.range args.numClients.toNat).map UInt32.ofNat

/-- The rounds `1..num_rounds + 1`. -/
def IsRound (args : RingArgs) (r : Nat) : Prop := 1 ≤ r ∧ r ≤ args.numRounds

theorem mem_clientIds {args : RingArgs} {c : UInt32} :
    c ∈ clientIds args ↔ c.toNat < args.numClients.toNat := by
  constructor
  · intro h
    obtain ⟨k, hk, rfl⟩ := List.mem_map.mp h
    have hlt := List.mem_range.mp hk
    rw [UInt32.toNat_ofNat']
    have := args.numClients.toNat_lt
    omega
  · intro h
    exact List.mem_map.mpr ⟨c.toNat, List.mem_range.mpr h, UInt32.ofNat_toNat⟩

section Ring

variable {args : RingArgs} {runId : UInt64} {c p q : UInt32}

/-- The successor modulo `num_clients`; the 32-bit addition does not wrap. -/
theorem neighbourId_toNat (hp : p ∈ clientIds args) :
    (clientConfig args runId p).neighbourId.toNat =
      if p.toNat + 1 = args.numClients.toNat then 0 else p.toNat + 1 := by
  have hlt := mem_clientIds.mp hp
  have hmax := args.numClients.toNat_lt
  have hnext : (p + 1).toNat = p.toNat + 1 := toNat_add_one (by omega)
  rw [clientConfig, UInt32.toNat_mod, hnext]
  split
  · rename_i heq
    rw [heq, Nat.mod_self]
  · exact Nat.mod_eq_of_lt (by omega)

theorem neighbourId_mem (hp : p ∈ clientIds args) :
    (clientConfig args runId p).neighbourId ∈ clientIds args := by
  have hlt := mem_clientIds.mp hp
  rw [mem_clientIds, neighbourId_toNat hp]
  split <;> omega

/-- **The neighbour map is one to one.** -/
theorem neighbourId_inj (hp : p ∈ clientIds args) (hq : q ∈ clientIds args)
    (h : (clientConfig args runId p).neighbourId = (clientConfig args runId q).neighbourId) :
    p = q := by
  have hpq := congrArg UInt32.toNat h
  rw [neighbourId_toNat hp, neighbourId_toNat hq] at hpq
  refine UInt32.toNat_inj.mp ?_
  split at hpq <;> split at hpq <;> omega

/-- **The neighbour map is onto.** -/
theorem exists_predecessor (runId : UInt64) (hc : c ∈ clientIds args) :
    ∃ p ∈ clientIds args, (clientConfig args runId p).neighbourId = c := by
  have hlt := mem_clientIds.mp hc
  have hmax := args.numClients.toNat_lt
  have hk : ∃ k, k < args.numClients.toNat ∧
      (if k + 1 = args.numClients.toNat then 0 else k + 1) = c.toNat := by
    by_cases hzero : c.toNat = 0
    · exact ⟨args.numClients.toNat - 1, by omega, by rw [if_pos (by omega)]; omega⟩
    · exact ⟨c.toNat - 1, by omega, by rw [if_neg (by omega)]; omega⟩
  obtain ⟨k, hk, hnext⟩ := hk
  have hkval : (UInt32.ofNat k).toNat = k := by
    rw [UInt32.toNat_ofNat']
    omega
  have hmem : UInt32.ofNat k ∈ clientIds args := mem_clientIds.mpr (by omega)
  refine ⟨UInt32.ofNat k, hmem, UInt32.toNat_inj.mp ?_⟩
  rw [neighbourId_toNat hmem, hkval, hnext]

end Ring

/-! ## What the clients send and expect -/

/-- A round `r` of client `c`, on any connection and at any time, that has
ended with `res` after making `calls`. -/
def RingRound (crates : Crates) (args : RingArgs) (runId : UInt64) (c : UInt32) (r : Nat)
    (res : Except FailureKind RoundStats) (calls : List Call) : Prop :=
  ∃ clock rpcClient keyring fuel w w',
    executeRound ⟨crates, clock, clientConfig args runId c, rpcClient, keyring, r⟩ fuel w =
      some (res, w') ∧ w'.calls = w.calls ++ calls

/-- The topics client `p` expects in round `r`. -/
def expectedBy (crates : Crates) (args : RingArgs) (runId : UInt64) (p : UInt32) (r : Nat) :
    List Topic :=
  expectedTopics crates (clientConfig args runId p) r (expectedCount args.messagesPattern)

/-- The texts hashed by the clients of a run: the channel of every message and
its topic in every round. -/
def hashedTexts (args : RingArgs) (runId : UInt64) : List String :=
  (clientIds args).flatMap fun c =>
    (List.range (totalMessages args.messagesPattern)).flatMap fun i =>
      ringChannelText c (UInt32.ofNat i) runId ::
        (List.range' 1 args.numRounds).map fun r => ringTopicText runId c r (UInt32.ofNat i)

/-- No two texts hashed in the run have the same hash. -/
def CollisionFree (crates : Crates) (args : RingArgs) (runId : UInt64) : Prop :=
  Set.InjOn crates.blake2_256 { text | text ∈ hashedTexts args runId }

section Agreement

variable {crates : Crates} {args : RingArgs} {runId : UInt64} {c p : UInt32} {r : Nat}
  {res : Except FailureKind RoundStats} {calls : List Call}

theorem expectedBy_eq (hmax : totalMessages args.messagesPattern ≤ 128) :
    expectedBy crates args runId p r =
      (List.range (totalMessages args.messagesPattern)).map fun i =>
        generateTopic crates runId (clientConfig args runId p).neighbourId r (UInt32.ofNat i) := by
  have hcount := expectedCount_toNat args.messagesPattern
  rw [expectedBy, expectedTopics, hcount, Nat.mod_eq_of_lt (by omega)]
  rfl

/-- **What a client sends.**  A prefix of its topics of the round, all of them
when the round succeeds, after subscribing to what it expects. -/
theorem ringRound_calls (hmax : totalMessages args.messagesPattern ≤ 128)
    (h : RingRound crates args runId c r res calls) :
    (∃ filter : BoundedVec Topic 128,
      filter.elems = expectedBy crates args runId c r ∧ subscribed calls = [.matchAny filter]) ∧
    (submitted calls).length ≤ totalMessages args.messagesPattern ∧
    (submitted calls).map (·.topics) = (List.range (submitted calls).length).map (fun i =>
      [generateTopic crates runId c r (UInt32.ofNat i)]) ∧
    ∀ stats, res = .ok stats →
      (submitted calls).length = totalMessages args.messagesPattern := by
  obtain ⟨clock, rpcClient, keyring, fuel, w, w', hrun, hcalls⟩ := h
  have hcount := expectedCount_toNat args.messagesPattern
  rcases executeRound_cases hrun with ⟨hlt, -, -⟩ | ⟨sends, hopened⟩
  · exact absurd hlt (by simp only [clientConfig]; omega)
  obtain rfl := List.append_cancel_left (hcalls.symm.trans hopened.calls)
  refine ⟨⟨⟨_, hopened.fits⟩, rfl, ?_⟩, ?_, hopened.sentFrom.topics, ?_⟩
  · have := hopened.noSubscription
    simp_all [subscribed, Call.filter?]
  · rw [← messagePlan_length]
    exact hopened.sentFrom.length_le
  · intro stats heq
    obtain rfl := heq
    rcases hopened.outcome with ⟨kind, -, hres⟩ | ⟨_, _, _, -, hall, -⟩
    · cases hres
    · rw [← messagePlan_length]
      exact hall

/-- The topics of one client are what its predecessor expects, index by index. -/
theorem topics_eq_take_expectedBy (hmax : totalMessages args.messagesPattern ≤ 128)
    (hnext : (clientConfig args runId p).neighbourId = c)
    (h : RingRound crates args runId c r res calls) :
    (submitted calls).map (·.topics) =
      ((expectedBy crates args runId p r).take (submitted calls).length).map ([·]) := by
  obtain ⟨-, hle, htopics, -⟩ := ringRound_calls hmax h
  rw [htopics, expectedBy_eq hmax, hnext, ← List.map_take, List.take_range, Nat.min_eq_left hle,
    List.map_map]
  rfl

theorem ringTopicText_mem (hc : c ∈ clientIds args) (hr : IsRound args r) {i : Nat}
    (hi : i < totalMessages args.messagesPattern) :
    ringTopicText runId c r (UInt32.ofNat i) ∈ hashedTexts args runId := by
  refine List.mem_flatMap.mpr ⟨c, hc, List.mem_flatMap.mpr ⟨i, List.mem_range.mpr hi, ?_⟩⟩
  refine List.mem_cons_of_mem _ (List.mem_map.mpr ⟨r, ?_, rfl⟩)
  rw [List.mem_range'_1]
  exact ⟨hr.1, by have := hr.2; omega⟩

/-- The topics of different messages differ. -/
theorem generateTopic_inj (hfree : CollisionFree crates args runId)
    {c' : UInt32} {r' i i' : Nat} (hmax : totalMessages args.messagesPattern ≤ 128)
    (hc : c ∈ clientIds args) (hc' : c' ∈ clientIds args)
    (hr : IsRound args r) (hr' : IsRound args r')
    (hi : i < totalMessages args.messagesPattern) (hi' : i' < totalMessages args.messagesPattern)
    (h : generateTopic crates runId c r (UInt32.ofNat i) =
      generateTopic crates runId c' r' (UInt32.ofNat i')) :
    c = c' ∧ r = r' ∧ i = i' := by
  have htext := hfree (ringTopicText_mem hc hr hi) (ringTopicText_mem hc' hr' hi') h
  obtain ⟨-, rfl, rfl, hidx⟩ := ringTopicText_inj htext
  have hnat := congrArg UInt32.toNat hidx
  rw [UInt32.toNat_ofNat', UInt32.toNat_ofNat'] at hnat
  exact ⟨rfl, rfl, by omega⟩

/-- Statement `i` of a round carries the topic of message `i`, and no other. -/
theorem ringRound_get (hmax : totalMessages args.messagesPattern ≤ 128)
    (h : RingRound crates args runId c r res calls) {i : Nat} {s : Statement}
    (hs : (submitted calls)[i]? = some s) :
    i < totalMessages args.messagesPattern ∧
      s.topics = [generateTopic crates runId c r (UInt32.ofNat i)] := by
  obtain ⟨-, hle, htopics, -⟩ := ringRound_calls hmax h
  have hi : i < (submitted calls).length := (List.getElem?_eq_some_iff.mp hs).1
  refine ⟨by omega, ?_⟩
  have hget := congrArg (·[i]?) htopics
  simp only [List.getElem?_map, hs, List.getElem?_range hi] at hget
  exact Option.some.inj hget

/-- Who expects a topic: the predecessor of its sender, in its round. -/
theorem mem_expectedBy_iff (hfree : CollisionFree crates args runId)
    {p : UInt32} {r' i : Nat} (hmax : totalMessages args.messagesPattern ≤ 128)
    (hc : c ∈ clientIds args) (hp : p ∈ clientIds args)
    (hr : IsRound args r) (hr' : IsRound args r') (hi : i < totalMessages args.messagesPattern) :
    generateTopic crates runId c r (UInt32.ofNat i) ∈ expectedBy crates args runId p r' ↔
      (clientConfig args runId p).neighbourId = c ∧ r' = r := by
  rw [expectedBy_eq hmax, List.mem_map]
  constructor
  · intro hgiven
    obtain ⟨j, hj, heq⟩ := hgiven
    obtain ⟨hnext, hround, -⟩ := generateTopic_inj hfree hmax (neighbourId_mem hp) hc hr' hr
      (List.mem_range.mp hj) hi heq
    exact ⟨hnext, hround⟩
  · intro state
    obtain ⟨rfl, rfl⟩ := state
    exact ⟨i, List.mem_range.mpr hi, rfl⟩

end Agreement

/-- Senders and receivers of the ring agree on the topics. -/
structure TopicsAgree (crates : Crates) (args : RingArgs) (runId : UInt64) : Prop where
  /-- exactly one client is subscribed to a given one -/
  predecessor : ∀ c ∈ clientIds args,
    ∃! p, p ∈ clientIds args ∧ (clientConfig args runId p).neighbourId = c
  /-- what a client sends is, index by index, what its predecessor expects -/
  sends : ∀ c ∈ clientIds args, ∀ p ∈ clientIds args,
    (clientConfig args runId p).neighbourId = c → ∀ r, IsRound args r → ∀ res calls,
      RingRound crates args runId c r res calls →
      (submitted calls).map (·.topics) =
        ((expectedBy crates args runId p r).take (submitted calls).length).map ([·]) ∧
      ∀ stats, res = .ok stats →
        (submitted calls).map (·.topics) = (expectedBy crates args runId p r).map ([·])
  /-- and that is what the predecessor subscribes to -/
  subscribes : ∀ p ∈ clientIds args, ∀ r, IsRound args r → ∀ res calls,
    RingRound crates args runId p r res calls →
    ∃ filter : BoundedVec Topic 128, filter.elems = expectedBy crates args runId p r ∧
      subscribed calls = [.matchAny filter]
  /-- different messages share no topic -/
  distinct : ∀ c ∈ clientIds args, ∀ c' ∈ clientIds args, ∀ r r', IsRound args r →
    IsRound args r' → ∀ res res' calls calls', RingRound crates args runId c r res calls →
      RingRound crates args runId c' r' res' calls' →
      ∀ (i i' : Nat) (s s' : Statement),
      (submitted calls)[i]? = some s → (submitted calls')[i']? = some s' →
      (c, r, i) ≠ (c', r', i') → s.topics.Disjoint s'.topics
  /-- every statement sent is expected by one client in one round -/
  expectedOnce : ∀ c ∈ clientIds args, ∀ r, IsRound args r → ∀ res calls,
    RingRound crates args runId c r res calls → ∀ s ∈ submitted calls,
      ∃! pr : UInt32 × Nat, pr.1 ∈ clientIds args ∧ IsRound args pr.2 ∧
        ∃ t ∈ s.topics, t ∈ expectedBy crates args runId pr.1 pr.2
  /-- a round in which everybody succeeds sends as much as it expects -/
  totals : ∀ r, IsRound args r → ∀ callsOf : UInt32 → List Call,
    (∀ c ∈ clientIds args, ∃ stats, RingRound crates args runId c r (.ok stats) (callsOf c)) →
    ((clientIds args).map fun c => (submitted (callsOf c)).length).sum =
      ((clientIds args).map fun p => (expectedBy crates args runId p r).length).sum

/-- **The ring agrees on its topics.** -/
theorem ring_topics_agree {crates : Crates} {args : RingArgs} {runId : UInt64}
    (hmax : totalMessages args.messagesPattern ≤ 128)
    (hfree : CollisionFree crates args runId) : TopicsAgree crates args runId where
  predecessor := by
    intro c hc
    obtain ⟨p, hp, hnext⟩ := exists_predecessor runId hc
    exact ⟨p, ⟨hp, hnext⟩, fun q ⟨hq, hqnext⟩ => neighbourId_inj hq hp (hqnext.trans hnext.symm)⟩
  sends := by
    intro c hc p hp hnext r hr res calls h
    have htake := topics_eq_take_expectedBy hmax hnext h
    refine ⟨htake, fun stats hres => ?_⟩
    rw [htake, (ringRound_calls hmax h).2.2.2 stats hres, List.take_of_length_le]
    simp [expectedBy_eq hmax]
  subscribes := fun p hp r hr res calls h => (ringRound_calls hmax h).1
  distinct := by
    intro c hc c' hc' r r' hr hr' res res' calls calls' h h' i i' s s' hs hs' hne t ht ht'
    obtain ⟨hi, htopics⟩ := ringRound_get hmax h hs
    obtain ⟨hi', htopics'⟩ := ringRound_get hmax h' hs'
    rw [htopics, List.mem_singleton] at ht
    rw [htopics', List.mem_singleton] at ht'
    obtain ⟨rfl, rfl, rfl⟩ := generateTopic_inj hfree hmax hc hc' hr hr' hi hi' (ht.symm.trans ht')
    exact hne rfl
  expectedOnce := by
    intro c hc r hr res calls h s hs
    obtain ⟨i, hi⟩ := List.getElem?_of_mem hs
    obtain ⟨hlt, htopics⟩ := ringRound_get hmax h hi
    obtain ⟨p, hp, hnext⟩ := exists_predecessor runId hc
    rw [htopics]
    refine ⟨(p, r), ⟨hp, hr, _, List.mem_singleton_self _, ?_⟩, ?_⟩
    · exact (mem_expectedBy_iff hfree hmax hc hp hr hr hlt).mpr ⟨hnext, rfl⟩
    · intro state hgiven
      obtain ⟨q, r'⟩ := state
      obtain ⟨hq, hr', t, ht, hmem⟩ := hgiven
      obtain rfl := List.mem_singleton.mp ht
      obtain ⟨hqnext, rfl⟩ := (mem_expectedBy_iff hfree hmax hc hq hr hr' hlt).mp hmem
      exact Prod.ext (neighbourId_inj hq hp (hqnext.trans hnext.symm)) rfl
  totals := by
    intro r hr callsOf h
    refine congrArg List.sum (List.map_congr_left fun c hc => ?_)
    obtain ⟨stats, hround⟩ := h c hc
    rw [(ringRound_calls hmax hround).2.2.2 stats rfl, expectedBy_eq hmax]
    simp

/-- Three clients, two rounds, two messages in three entries. -/
def threeClients : RingArgs where
  numClients := 3
  messagesPattern := [(1, 4), (0, 9), (1, 2)]
  receiveTimeoutMs := 5000
  numRounds := 2
  intervalMs := 10000
  statementExpiryMs := 600000
  failFast := false
  seed := []

theorem ring_topics_agree_threeClients :
    TopicsAgree topicCodec threeClients 7 ∧
      ∃ stats calls, RingRound topicCodec threeClients 7 2 1 (.ok stats) calls ∧
        (submitted calls).length = 2 := by
  refine ⟨ring_topics_agree (by decide) ?_, ?_⟩
  · have hshort : (hashedTexts threeClients 7).all isShort = true := by decide
    exact paddedText_injOn.mono (List.all_eq_true.mp hshort)
  · exact ⟨_, _, ⟨fun now => now, 0, ⟨paddedText "client 2"⟩, 1,
      steadyWorld (.ok (Stream'.const (.item 0 (.ok (.newStatements [[0], [1]] none)))))
        (.ok .new), _, rfl, rfl⟩, rfl⟩

end StatementStore
