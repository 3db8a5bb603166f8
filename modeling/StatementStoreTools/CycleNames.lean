import Mathlib.Data.List.ProdSigma
import StatementStoreTools.DashNames
import StatementStoreTools.PeriodicLoop

/-!
# The names a cycle gives to its statements

Channel and topic of a statement are hashes of texts made of the run id, a
scope and an index.  The three phases of a cycle make their scopes in three
ways: `submit` from the URL of the endpoint, `propagation` from the row-major
index of the pair, `subscribe` from the index of the endpoint.

`cycleNames_nodup`: the names of a cycle are pairwise different exactly when
the URLs are.  A text determines scope and index, whatever the URL is made of.
-/

namespace StatementStore

open DashNames

/-! ## Row-major indices -/

theorem rowMajor_eq_range (m n : Nat) :
    ((List.range m).flatMap fun i => (List.range n).map fun j => i * n + j) =
      List.range (m * n) := by
  induction m with
  | zero => simp
  | succ m ih =>
      rw [List.range_succ, List.flatMap_append, ih, List.flatMap_singleton, Nat.succ_mul,
        List.range_add]

/-- `0..n`. -/
def indices (n : Nat) : List UInt32 := (List.range n).map UInt32.ofNat

theorem indices_nodup {n : Nat} (h : n ≤ 2 ^ 32) : (indices n).Nodup := by
  refine List.Nodup.map_on ?_ List.nodup_range
  intro i hi j hj hij
  have hi' : i < 2 ^ 32 := Nat.lt_of_lt_of_le (List.mem_range.mp hi) h
  have hj' : j < 2 ^ 32 := Nat.lt_of_lt_of_le (List.mem_range.mp hj) h
  have hnat := congrArg UInt32.toNat hij
  rwa [UInt32.toNat_ofNat_of_lt' hi', UInt32.toNat_ofNat_of_lt' hj'] at hnat

theorem indices_ne_nil {n : Nat} (h : 0 < n) : indices n ≠ [] := by
  simp [indices, Nat.ne_of_gt h]

/-- Batch by batch, the running index counts through. -/
theorem submitIndices_eq (config : SubmitConfig) :
    submitIndices config = indices (config.iterations.toNat * config.iterationBatch.toNat) := by
  rw [indices, ← rowMajor_eq_range, List.map_flatMap, submitIndices]
  refine List.flatMap_congr fun batchIdx _ => ?_
  rw [List.map_map]
  refine List.map_congr_left fun subIdx _ => ?_
  simp [UInt32.ofNat_add, UInt32.ofNat_mul]

theorem zipIdx_range {α : Type} (xs : List α) : xs.zipIdx.map (·.2) = List.range xs.length := by
  rw [List.range_eq_range']
  exact List.zipIdx_map_snd 0 xs

theorem zipIdx_indices {α : Type} (xs : List α) :
    (xs.zipIdx.map fun x => UInt32.ofNat x.2) = indices xs.length := by
  rw [indices, ← zipIdx_range, List.map_map]
  rfl

/-- Pair by pair, so does the index of the pair. -/
theorem endpointPairs_indices (submitEndpoints subscribeEndpoints : List (String × Handle)) :
    ((endpointPairs submitEndpoints subscribeEndpoints).map fun pair => UInt32.ofNat pair.2) =
      indices (submitEndpoints.length * subscribeEndpoints.length) := by
  rw [indices, ← rowMajor_eq_range, ← zipIdx_range submitEndpoints,
    ← zipIdx_range subscribeEndpoints, endpointPairs]
  simp only [List.map_flatMap, List.flatMap_map, List.map_map]
  rfl

/-! ## The texts -/

section Texts

variable {runId runId' : UInt64} {scope scope' : String} {i i' : UInt32}

theorem topicText_toList : (topicText runId scope i).toList =
    "ops-bench-topic-".toList ++ (decimal runId.toNat ++
      '-' :: (scope.toList ++ '-' :: decimal i.toNat)) := by
  change ("ops-bench-topic-" ++ toString runId.toNat ++ "-" ++ scope ++ "-" ++
    toString i.toNat).toList = _
  simp only [String.toList_append, toList_toString, show "-".toList = ['-'] from rfl,
    List.append_assoc, List.cons_append, List.nil_append]

theorem channelText_toList : (channelText runId scope i).toList =
    "ops-bench-channel-".toList ++ (decimal runId.toNat ++
      '-' :: (scope.toList ++ '-' :: decimal i.toNat)) := by
  change ("ops-bench-channel-" ++ toString runId.toNat ++ "-" ++ scope ++ "-" ++
    toString i.toNat).toList = _
  simp only [String.toList_append, toList_toString, show "-".toList = ['-'] from rfl,
    List.append_assoc, List.cons_append, List.nil_append]

/-- Behind the same beginning a name is read from both ends: the run id has no
dash, and neither has the index. -/
private theorem name_parts_inj {front : List Char}
    (h : front ++ (decimal runId.toNat ++ '-' :: (scope.toList ++ '-' :: decimal i.toNat)) =
      front ++ (decimal runId'.toNat ++ '-' :: (scope'.toList ++ '-' :: decimal i'.toNat))) :
    runId = runId' ∧ scope = scope' ∧ i = i' := by
  obtain ⟨hrun, hrest⟩ := decimal_cut_first (by decide) (List.append_cancel_left h)
  obtain ⟨hscope, hi⟩ := decimal_cut_last (by decide) hrest
  exact ⟨UInt64.toNat_inj.mp hrun, String.toList_inj.mp hscope, UInt32.toNat_inj.mp hi⟩

/-- **The topic text determines run id, scope and index**, whatever the scope. -/
theorem topicText_inj (h : topicText runId scope i = topicText runId' scope' i') :
    runId = runId' ∧ scope = scope' ∧ i = i' := by
  have hlist := congrArg String.toList h
  rw [topicText_toList, topicText_toList] at hlist
  exact name_parts_inj hlist

/-- So does the channel text. -/
theorem channelText_inj (h : channelText runId scope i = channelText runId' scope' i') :
    runId = runId' ∧ scope = scope' ∧ i = i' := by
  have hlist := congrArg String.toList h
  rw [channelText_toList, channelText_toList] at hlist
  exact name_parts_inj hlist

end Texts

/-! ## The scopes -/

theorem submitScope_toList (endpoint : String) :
    (submitScope endpoint).toList = "submit-".toList ++ endpoint.toList := by
  change ("submit-" ++ endpoint).toList = _
  rw [String.toList_append]

theorem propagationScope_toList (i : UInt32) :
    (propagationScope i).toList = "prop-".toList ++ decimal i.toNat := by
  change ("prop-" ++ toString i.toNat).toList = _
  rw [String.toList_append, toList_toString]

theorem subscribeScope_toList (i : UInt32) :
    (subscribeScope i).toList = "subscribe-".toList ++ decimal i.toNat := by
  change ("subscribe-" ++ toString i.toNat).toList = _
  rw [String.toList_append, toList_toString]

theorem submitScope_injective : Function.Injective submitScope := by
  intro a b h
  have hlist := congrArg String.toList h
  rw [submitScope_toList, submitScope_toList] at hlist
  exact String.toList_inj.mp (List.append_cancel_left hlist)

theorem propagationScope_injective : Function.Injective propagationScope := by
  intro i j h
  have hlist := congrArg String.toList h
  rw [propagationScope_toList, propagationScope_toList] at hlist
  exact UInt32.toNat_inj.mp (decimal_injective (List.append_cancel_left hlist))

theorem subscribeScope_injective : Function.Injective subscribeScope := by
  intro i j h
  have hlist := congrArg String.toList h
  rw [subscribeScope_toList, subscribeScope_toList] at hlist
  exact UInt32.toNat_inj.mp (decimal_injective (List.append_cancel_left hlist))

theorem submitScope_ne_propagationScope (endpoint : String) (i : UInt32) :
    submitScope endpoint ≠ propagationScope i := by
  intro h
  have hlist := congrArg String.toList h
  rw [submitScope_toList, propagationScope_toList] at hlist
  cases hlist

theorem submitScope_ne_subscribeScope (endpoint : String) (i : UInt32) :
    submitScope endpoint ≠ subscribeScope i := by
  intro h
  have hlist := congrArg String.toList h
  rw [submitScope_toList, subscribeScope_toList] at hlist
  have hfour := congrArg (·[3]?) hlist
  cases hfour

theorem propagationScope_ne_subscribeScope (i j : UInt32) :
    propagationScope i ≠ subscribeScope j := by
  intro h
  have hlist := congrArg String.toList h
  rw [propagationScope_toList, subscribeScope_toList] at hlist
  cases hlist

/-! ## The names -/

/-- Scope and index. -/
abbrev Name := String × UInt32

def submitNames (config : SubmitConfig) (endpoints : Endpoints) : List Name :=
  (endpoints.map fun entry => submitScope entry.1) ×ˢ submitIndices config

def pairNames (config : PropagationConfig) (endpoints : Endpoints) : List Name :=
  ((endpointPairs endpoints endpoints).map fun pair => propagationScope (UInt32.ofNat pair.2)) ×ˢ
    indices config.iterations.toNat

def seedNames (endpoints : Endpoints) : List Name :=
  (endpoints.zipIdx.map fun entry => subscribeScope (UInt32.ofNat entry.2)) ×ˢ [0]

/-- The names of a cycle, phase by phase. -/
def cycleNames (config : LoopConfig) (endpoints : Endpoints) : List Name :=
  submitNames config.submitConfig endpoints ++
    (pairNames config.propagationConfig endpoints ++ seedNames endpoints)

/-- The running indices of the three phases fit into a `u32`. -/
structure IndicesFit (config : LoopConfig) (endpoints : Endpoints) : Prop where
  submit : config.submitConfig.iterations.toNat * config.submitConfig.iterationBatch.toNat ≤ 2 ^ 32
  pairs : endpoints.length * endpoints.length ≤ 2 ^ 32

section Names

variable {config : LoopConfig} {endpoints : Endpoints}

/-- With an index at all, names repeat when scopes do. -/
theorem left_nodup_of_product {α β : Type} {xs : List α} {ys : List β} (hne : ys ≠ [])
    (h : (xs ×ˢ ys).Nodup) : xs.Nodup := by
  obtain ⟨y, hy⟩ := List.exists_mem_of_ne_nil ys hne
  have happart := (List.nodup_flatMap.mp h).2
  refine happart.imp fun {a b} hdisjoint heq => ?_
  have hmem : (a, y) ∈ ys.map (Prod.mk a) := List.mem_map_of_mem hy
  exact hdisjoint hmem (heq ▸ hmem)

theorem right_nodup_of_product {α β : Type} {xs : List α} {ys : List β} (hne : xs ≠ [])
    (h : (xs ×ˢ ys).Nodup) : ys.Nodup := by
  obtain ⟨x, hx⟩ := List.exists_mem_of_ne_nil xs hne
  exact ((List.nodup_flatMap.mp h).1 x hx).of_map _

/-- The endpoints' scopes in `submit` are as different as the URLs. -/
theorem submitNames_nodup (hsubmit : config.submitConfig.validate = .ok ())
    (hfit : IndicesFit config endpoints) :
    (submitNames config.submitConfig endpoints).Nodup ↔ (endpoints.map (·.1)).Nodup := by
  have hscopes : endpoints.map (fun entry => submitScope entry.1) =
      (endpoints.map (·.1)).map submitScope := by
    rw [List.map_map]
    rfl
  rw [submitNames, hscopes, submitIndices_eq]
  constructor
  · intro h
    obtain ⟨hiterations, hbatch, -⟩ := SubmitConfig.validate_ok.mp hsubmit
    have hpos := Nat.mul_pos (UInt32.lt_iff_toNat_lt.mp hiterations)
      (UInt32.lt_iff_toNat_lt.mp hbatch)
    exact (left_nodup_of_product (indices_ne_nil hpos) h).of_map _
  · intro h
    exact (h.map submitScope_injective).product (indices_nodup hfit.submit)

theorem pairNames_nodup (hfit : IndicesFit config endpoints) :
    (pairNames config.propagationConfig endpoints).Nodup := by
  have hscopes : (endpointPairs endpoints endpoints).map
      (fun pair => propagationScope (UInt32.ofNat pair.2)) =
        (indices (endpoints.length * endpoints.length)).map propagationScope := by
    rw [← endpointPairs_indices, List.map_map]
    rfl
  rw [pairNames, hscopes]
  exact ((indices_nodup hfit.pairs).map propagationScope_injective).product
    (indices_nodup (Nat.le_of_lt config.propagationConfig.iterations.toNat_lt))

theorem seedNames_nodup (hfit : IndicesFit config endpoints) : (seedNames endpoints).Nodup := by
  have hlen : endpoints.length ≤ 2 ^ 32 := (Nat.le_mul_self _).trans hfit.pairs
  have hscopes : endpoints.zipIdx.map (fun entry => subscribeScope (UInt32.ofNat entry.2)) =
      (indices endpoints.length).map subscribeScope := by
    rw [← zipIdx_indices, List.map_map]
    rfl
  rw [seedNames, hscopes]
  exact ((indices_nodup hlen).map subscribeScope_injective).product (List.nodup_singleton 0)

theorem mem_submitNames {config : SubmitConfig} {name : Name}
    (h : name ∈ submitNames config endpoints) : ∃ endpoint, name.1 = submitScope endpoint := by
  obtain ⟨entry, -, heq⟩ := List.mem_map.mp (List.mem_product.mp h).1
  exact ⟨_, heq.symm⟩

theorem mem_pairNames {config : PropagationConfig} {name : Name}
    (h : name ∈ pairNames config endpoints) : ∃ i, name.1 = propagationScope i := by
  obtain ⟨pair, -, heq⟩ := List.mem_map.mp (List.mem_product.mp h).1
  exact ⟨_, heq.symm⟩

theorem mem_seedNames {name : Name} (h : name ∈ seedNames endpoints) :
    ∃ i, name.1 = subscribeScope i := by
  obtain ⟨entry, -, heq⟩ := List.mem_map.mp (List.mem_product.mp h).1
  exact ⟨_, heq.symm⟩

/-- **The names of a cycle** are pairwise different exactly when the URLs are:
the index of a pair and the index of an endpoint take care of themselves. -/
theorem cycleNames_nodup (hsubmit : config.submitConfig.validate = .ok ())
    (hfit : IndicesFit config endpoints) :
    (cycleNames config endpoints).Nodup ↔ (endpoints.map (·.1)).Nodup := by
  rw [cycleNames, List.nodup_append', submitNames_nodup hsubmit hfit]
  refine ⟨fun h => h.1, fun h => ⟨h, ?_, ?_⟩⟩
  · refine List.nodup_append'.mpr ⟨pairNames_nodup hfit, seedNames_nodup hfit, ?_⟩
    intro name hpair hseed
    obtain ⟨i, hi⟩ := mem_pairNames hpair
    obtain ⟨j, hj⟩ := mem_seedNames hseed
    exact propagationScope_ne_subscribeScope i j (hi.symm.trans hj)
  · intro name hname hother
    obtain ⟨endpoint, hendpoint⟩ := mem_submitNames hname
    rcases List.mem_append.mp hother with hpair | hseed
    · obtain ⟨i, hi⟩ := mem_pairNames hpair
      exact submitScope_ne_propagationScope endpoint i (hendpoint.symm.trans hi)
    · obtain ⟨i, hi⟩ := mem_seedNames hseed
      exact submitScope_ne_subscribeScope endpoint i (hendpoint.symm.trans hi)

end Names

end StatementStore
