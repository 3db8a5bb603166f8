import StatementStoreTools.ExecuteRound

/-!
# What a successful round proves

A round is successful when enough deliveries have been counted.

* Deliveries are counted, not identified: `round_ok_missing` bounds the topics
  that never arrived by the deliveries that repeated a topic, and
  `round_ok_without_topic` is a run in which the bound is attained.
* The count is narrowed to 32 bits: `executeRound_guard_iff` says for which
  patterns the guard, the send loop and the receive loop agree on the number
  of messages.
-/

namespace StatementStore

open TimedStreams

theorem expectedCount_toNat (pattern : List (UInt64 × UInt64)) :
    (expectedCount pattern).toNat = totalMessages pattern % 2 ^ 32 := by
  rw [expectedCount, UInt64.toNat_toUInt32, messagesPerClient_toNat]
  omega

/-! ## Which topics have arrived -/

/-- The payload is a statement with this topic. -/
def Carries (crates : Crates) (payload : Bytes) (topic : Topic) : Prop :=
  ∃ statement, crates.decode payload = some statement ∧ topic ∈ statement.topics

section Missing

variable {env : RoundEnv} {fuel : Nat} {w w' : World} {stats : RoundStats}

/-- A successful round has consumed at least `expected_count` deliveries. -/
theorem executeRound_ok_received (h : executeRound env fuel w = some (.ok stats, w')) :
    ∃ subscription n, Received env w subscription n := by
  rcases executeRound_cases h with ⟨-, hres, -⟩ | ⟨sends, hopened⟩
  · cases hres
  · rcases hopened.outcome with ⟨kind, -, hres⟩ | ⟨_, subscription, n, -, -, hreceived⟩
    · cases hres
    · exact ⟨subscription, n, hreceived⟩

/-- **Counting.**  The missing topics and the topics that arrived are different
expected ones, and there are no more of those than deliveries. -/
theorem missing_add_arrived_le {expected missing : List Topic} {deliveries : List Bytes}
    {topicOf : Bytes → Topic} {crates : Crates} (henough : expected.length ≤ deliveries.length)
    (htopic : ∀ m ∈ deliveries, topicOf m ∈ expected ∧ Carries crates m (topicOf m))
    (hnodup : missing.Nodup)
    (hmissing : ∀ t ∈ missing, t ∈ expected ∧ ∀ m ∈ deliveries, ¬ Carries crates m t) :
    missing.length + (deliveries.map topicOf).dedup.length ≤ deliveries.length := by
  have hdisjoint : missing.Disjoint (deliveries.map topicOf).dedup := by
    intro t ht hmem
    obtain ⟨m, hm, rfl⟩ := List.mem_map.mp (List.mem_dedup.mp hmem)
    exact (hmissing _ ht).2 m hm (htopic m hm).2
  have hall : (missing ++ (deliveries.map topicOf).dedup).Nodup :=
    hnodup.append (List.nodup_dedup _) hdisjoint
  have hsub : missing ++ (deliveries.map topicOf).dedup ⊆ expected := by
    intro t ht
    rcases List.mem_append.mp ht with ht | ht
    · exact (hmissing t ht).1
    · obtain ⟨m, hm, rfl⟩ := List.mem_map.mp (List.mem_dedup.mp ht)
      exact (htopic m hm).1
  have hlen := (List.subperm_of_subset hall hsub).length_le
  rw [List.length_append] at hlen
  exact hlen.trans henough

/-- **What success says about the neighbour's topics.**  At least as many
deliveries as messages have been consumed; the topics that never arrived are
at most as many as the deliveries that repeated one; and without a repetition
every topic has arrived. -/
theorem round_ok_missing (h : executeRound env fuel w = some (.ok stats, w'))
    (hmax : totalMessages env.config.messagesPattern ≤ 128) :
    ∃ subscription n, (w.conns env.rpcClient).subscriptions.head.2 = .ok subscription ∧
      (∀ i < n, ∃ ev, DeliversAt (Duration.fromMillis env.config.receiveTimeoutMs)
        subscription i ev) ∧
      totalMessages env.config.messagesPattern ≤ (payloads subscription n).length ∧
      ∀ topicOf : Bytes → Topic,
        (∀ m ∈ payloads subscription n,
          topicOf m ∈ env.expected ∧ Carries env.crates m (topicOf m)) →
        (∀ missing : List Topic, missing.Nodup →
          (∀ t ∈ missing, t ∈ env.expected ∧
            ∀ m ∈ payloads subscription n, ¬ Carries env.crates m t) →
          missing.length + ((payloads subscription n).map topicOf).dedup.length ≤
            (payloads subscription n).length) ∧
        (((payloads subscription n).map topicOf).Nodup → ∀ t ∈ env.expected,
          ∃ m ∈ payloads subscription n, Carries env.crates m t) := by
  obtain ⟨subscription, n, hreceived⟩ := executeRound_ok_received h
  have henough := hreceived.enough
  have hlen : env.expected.length ≤ (payloads subscription n).length := by
    rw [RoundEnv.expected_length]
    exact henough
  refine ⟨subscription, n, hreceived.opened, hreceived.delivered, ?_, ?_⟩
  · rw [expectedCount_toNat] at henough
    omega
  · intro topicOf htopic
    refine ⟨fun missing hnodup hmissing =>
      missing_add_arrived_le hlen htopic hnodup hmissing, ?_⟩
    intro hdistinct t ht
    by_contra hnone
    have hmissing : ∀ u ∈ [t], u ∈ env.expected ∧
        ∀ m ∈ payloads subscription n, ¬ Carries env.crates m u := by
      intro u hu
      obtain rfl := List.mem_singleton.mp hu
      exact ⟨ht, fun m hm hcarry => hnone ⟨m, hm, hcarry⟩⟩
    have hcount := missing_add_arrived_le hlen htopic (List.nodup_singleton t) hmissing
    rw [List.dedup_eq_self.mpr hdistinct, List.length_map, List.length_singleton] at hcount
    omega

end Missing

/-! ### A round that succeeds without one of its topics -/

/-- A 32-byte hash that keeps short texts apart: their characters, padded. -/
def paddedText (text : String) : Bytes32 :=
  Vector.ofFn fun i => UInt8.ofNat ((text.toList.map Char.toNat).getD i.val 0)

/-- At most 32 characters, each of one non-zero byte. -/
def isShort (text : String) : Bool :=
  text.toList.length ≤ 32 && text.toList.all fun c => 0 < c.toNat && c.toNat < 256

/-- A padded list of non-zero codes determines its characters. -/
private theorem getElem?_eq_of_padded {xs ys : List Char} {i : Nat}
    (hxs : ∀ c ∈ xs, 0 < c.toNat) (hys : ∀ c ∈ ys, 0 < c.toNat)
    (h : (xs.map Char.toNat).getD i 0 = (ys.map Char.toNat).getD i 0) : xs[i]? = ys[i]? := by
  simp only [List.getD_eq_getElem?_getD, List.getElem?_map] at h
  cases hx : xs[i]? with
  | none =>
      cases hy : ys[i]? with
      | none => rfl
      | some d =>
          have hpos := hys d (List.mem_of_getElem? hy)
          simp only [hx, hy, Option.map_none, Option.map_some, Option.getD_none,
            Option.getD_some] at h
          omega
  | some c =>
      have hpos := hxs c (List.mem_of_getElem? hx)
      cases hy : ys[i]? with
      | none =>
          simp only [hx, hy, Option.map_none, Option.map_some, Option.getD_none,
            Option.getD_some] at h
          omega
      | some d =>
          simp only [hx, hy, Option.map_some, Option.getD_some] at h
          rw [Char.toNat_inj.mp h]

theorem paddedText_injOn : Set.InjOn paddedText { text | isShort text = true } := by
  have hchars : ∀ {text : String}, isShort text = true →
      text.toList.length ≤ 32 ∧ ∀ c ∈ text.toList, 0 < c.toNat ∧ c.toNat < 256 := by
    intro text htext
    simpa [isShort] using htext
  have hbyte : ∀ {text : String}, isShort text = true →
      ∀ i, (text.toList.map Char.toNat).getD i 0 < 256 := by
    intro text htext i
    rw [List.getD_eq_getElem?_getD, List.getElem?_map]
    cases hget : text.toList[i]? with
    | none => simp
    | some c => simpa using ((hchars htext).2 c (List.mem_of_getElem? hget)).2
  intro a ha b hb hab
  refine String.toList_inj.mp (List.ext_getElem? fun i => ?_)
  by_cases hi : i < 32
  · have hget := congrArg (fun v => v[i].toNat) hab
    simp only [paddedText, Vector.getElem_ofFn, UInt8.toNat_ofNat'] at hget
    rw [Nat.mod_eq_of_lt (hbyte ha i), Nat.mod_eq_of_lt (hbyte hb i)] at hget
    exact getElem?_eq_of_padded (fun c hc => ((hchars ha).2 c hc).1)
      (fun c hc => ((hchars hb).2 c hc).1) hget
  · have hlena := (hchars ha).1
    have hlenb := (hchars hb).1
    rw [List.getElem?_eq_none (by omega), List.getElem?_eq_none (by omega)]

/-- The payload of a statement is its topic. -/
def topicCodec : Crates where
  blake2_256 := paddedText
  encode s := (s.topics.headD (paddedText "")).toList
  decode bytes := some { Statement.new with
    topics := [Vector.ofFn fun i => bytes.getD i.val 0] }
  hash s := s.topics.headD (paddedText "")

/-- Client `0` of two, in round `1`. -/
def firstClient (pattern : List (UInt64 × UInt64)) : RoundEnv where
  crates := topicCodec
  clock now := 1700000000000000000 + now
  config :=
    { clientId := 0, neighbourId := 1, numClients := 2, numRounds := 1, testRunId := 7
      messagesPattern := pattern, receiveTimeoutMs := 5000, intervalMs := 10000
      statementExpiryMs := 600000, failFast := false, seed := none }
  rpcClient := 0
  keyring := ⟨paddedText "client 0"⟩
  round := 1

/-- The neighbour's first message. -/
def firstMessage : Bytes := (paddedText "7-1-1-0").toList

/-- The neighbour's first message twice, then nothing more. -/
def repeatedDelivery : EventStream :=
  Stream'.cons (.item 0 (.ok (.newStatements [firstMessage, firstMessage] none)))
    (Stream'.const .silent)

private theorem repeatedDelivery_ok :
    ∃ stats w', executeRound (firstClient [(2, 1)]) 1
      (steadyWorld (.ok repeatedDelivery) (.ok .new)) = some (.ok stats, w') :=
  ⟨_, _, rfl⟩

theorem round_ok_without_topic :
    totalMessages (firstClient [(2, 1)]).config.messagesPattern ≤ 128 ∧
    (∃ stats w', executeRound (firstClient [(2, 1)]) 1
      (steadyWorld (.ok repeatedDelivery) (.ok .new)) = some (.ok stats, w')) ∧
    (∀ i ev, DeliversAt (Duration.fromMillis 5000) repeatedDelivery i ev →
      ∀ m ∈ ev.statements, ∃ t ∈ (firstClient [(2, 1)]).expected, Carries topicCodec m t) ∧
    paddedText "7-1-1-1" ∈ (firstClient [(2, 1)]).expected ∧
    ∀ i ev, DeliversAt (Duration.fromMillis 5000) repeatedDelivery i ev →
      ∀ m ∈ ev.statements, ¬ Carries topicCodec m (paddedText "7-1-1-1") := by
  have hone : ∀ i ev, DeliversAt (Duration.fromMillis 5000) repeatedDelivery i ev →
      ev.statements = [firstMessage, firstMessage] := by
    intro i ev hev
    cases i with
    | zero =>
        have : Next.item (.ok (.newStatements [firstMessage, firstMessage] none)) =
            (Next.item (.ok ev) : Next (Except String StatementEvent)) := hev
        obtain rfl : StatementEvent.newStatements [firstMessage, firstMessage] none = ev := by
          simpa using this
        rfl
    | succ i =>
        have : (Next.elapsed : Next (Except String StatementEvent)) = .item (.ok ev) := hev
        cases this
  refine ⟨by decide, repeatedDelivery_ok, ?_, by decide, ?_⟩
  · intro i ev hev m hm
    rw [hone i ev hev] at hm
    obtain rfl : m = firstMessage := by simpa using hm
    exact ⟨paddedText "7-1-1-0", by decide, _, rfl, by decide⟩
  · intro i ev hev m hm
    rw [hone i ev hev] at hm
    obtain rfl : m = firstMessage := by simpa using hm
    intro hgiven
    obtain ⟨statement, hdecode, hmem⟩ := hgiven
    obtain rfl := Option.some.inj hdecode
    exact absurd hmem (by decide)

theorem round_ok_missing_repeated :
    ∃ subscription n, Except.ok repeatedDelivery = (.ok subscription : Except String EventStream) ∧
      2 ≤ (payloads subscription n).length ∧
      ∀ topicOf : Bytes → Topic,
        (∀ m ∈ payloads subscription n,
          topicOf m ∈ (firstClient [(2, 1)]).expected ∧ Carries topicCodec m (topicOf m)) →
        ∀ missing : List Topic, missing.Nodup →
          (∀ t ∈ missing, t ∈ (firstClient [(2, 1)]).expected ∧
            ∀ m ∈ payloads subscription n, ¬ Carries topicCodec m t) →
          missing.length + ((payloads subscription n).map topicOf).dedup.length ≤
            (payloads subscription n).length := by
  obtain ⟨stats, w', hrun⟩ := repeatedDelivery_ok
  obtain ⟨subscription, n, hopened, -, henough, hmissing⟩ := round_ok_missing hrun (by decide)
  exact ⟨subscription, n, hopened, henough, fun topicOf h => (hmissing topicOf h).1⟩

/-! ## The guard and the narrowed count -/

/-- The round has got past the guard and has opened one subscription; it is
successful only after sending all messages of the pattern and waiting for as
many deliveries. -/
def GoesOn (env : RoundEnv) (w w' : World) (res : Except FailureKind RoundStats) : Prop :=
  ∃ calls, w'.calls = w.calls ++ calls ∧ (subscribed calls).length = 1 ∧
    res ≠ .error .tooManyTopics ∧
    ∀ stats, res = .ok stats →
      (submitted calls).length = totalMessages env.config.messagesPattern ∧
      ∃ subscription n, (w.conns env.rpcClient).subscriptions.head.2 = .ok subscription ∧
        (∀ i < n, ∃ ev, DeliversAt (Duration.fromMillis env.config.receiveTimeoutMs)
          subscription i ev) ∧
        totalMessages env.config.messagesPattern ≤ (payloads subscription n).length

/-- What the guard on the number of topics is for: the pattern is rejected
before any call when it has more than 128 messages, and is otherwise sent and
waited for in full. -/
def GuardsTotal (pattern : List (UInt64 × UInt64)) : Prop :=
  ∀ (env : RoundEnv) (fuel : Nat) (w : World), env.config.messagesPattern = pattern →
    (128 < totalMessages pattern →
      ∃ w', executeRound env fuel w = some (.error .tooManyTopics, w') ∧ w'.calls = w.calls) ∧
    (totalMessages pattern ≤ 128 →
      env.expected.length = totalMessages pattern ∧
      ∀ res w', executeRound env fuel w = some (res, w') → GoesOn env w w' res)

theorem tooManyTopics_not_mem_roundFailures : FailureKind.tooManyTopics ∉ roundFailures := by
  decide

section Guard

variable {env : RoundEnv} {fuel : Nat} {w w' : World} {res : Except FailureKind RoundStats}

/-- A round that has got past the guard does not fail with `TooManyTopics`. -/
theorem Opened.ne_tooManyTopics {sends : List Call} (h : Opened env w w' res sends) :
    res ≠ .error .tooManyTopics := by
  intro heq
  obtain rfl := heq
  rcases h.outcome with ⟨kind, hkind, hres⟩ | ⟨_, _, _, hres, -⟩
  · obtain rfl := Except.error.inj hres
    exact tooManyTopics_not_mem_roundFailures hkind
  · cases hres

/-- Up to 128 messages nothing is lost in the narrowing. -/
theorem executeRound_of_total_le (hmax : totalMessages env.config.messagesPattern ≤ 128)
    (h : executeRound env fuel w = some (res, w')) : GoesOn env w w' res := by
  have hcount := expectedCount_toNat env.config.messagesPattern
  rcases executeRound_cases h with ⟨hlt, -, -⟩ | ⟨sends, hopened⟩
  · omega
  refine ⟨_, hopened.calls, ?_, hopened.ne_tooManyTopics, ?_⟩
  · have := hopened.noSubscription
    simp_all [subscribed, Call.filter?]
  · intro stats heq
    obtain rfl := heq
    rcases hopened.outcome with ⟨kind, -, hres⟩ | ⟨_, subscription, n, -, hall, hreceived⟩
    · cases hres
    · refine ⟨?_, subscription, n, hreceived.opened, hreceived.delivered, ?_⟩
      · rw [← messagePlan_length, ← hall]
        rfl
      · have := hreceived.enough
        omega

/-- **When the guard guards.**  Exactly for the patterns whose total survives
the narrowing to 32 bits on the right side of 128. -/
theorem executeRound_guard_iff (pattern : List (UInt64 × UInt64)) :
    GuardsTotal pattern ↔
      totalMessages pattern ≤ 128 ∨ 128 < totalMessages pattern % 2 ^ 32 := by
  have hcount := expectedCount_toNat pattern
  constructor
  · intro h
    by_contra hnot
    obtain ⟨hbig, hsmall⟩ := not_or.mp hnot
    obtain ⟨hreject, -⟩ := h (firstClient pattern) 0 (steadyWorld (.error "") (.error "")) rfl
    obtain ⟨w', hrun, -⟩ := hreject (by omega)
    rcases executeRound_cases hrun with ⟨hlt, -, -⟩ | ⟨sends, hopened⟩
    · exact hsmall (by rw [← hcount]; exact hlt)
    · exact hopened.ne_tooManyTopics rfl
  · intro hcond env fuel w heq
    obtain rfl := heq
    refine ⟨fun hbig => executeRound_of_lt fuel w (by omega),
      fun hmax => ⟨?_, fun res w' hrun => ?_⟩⟩
    · rw [RoundEnv.expected_length]
      omega
    · exact executeRound_of_total_le hmax hrun

end Guard

/-- The counts of this pattern add up to `2 ^ 32`: the round opens a
subscription to nothing and starts to send. -/
theorem executeRound_guard_wraps :
    parseMessagesPattern "4294967296:1" = .ok [(4294967296, 1)] ∧
    128 < totalMessages [(4294967296, 1)] ∧
    ∃ w', executeRound (firstClient [(4294967296, 1)]) 0
        (steadyWorld (.ok (Stream'.const .silent)) (.error "rejected")) =
          some (.error .submitFailed, w') ∧
      (subscribed w'.calls).length = 1 ∧ (submitted w'.calls).length = 1 := by
  exact ⟨by decide, by decide, _, rfl, rfl, rfl⟩

end StatementStore
