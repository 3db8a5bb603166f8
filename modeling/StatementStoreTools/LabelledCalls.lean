import StatementStoreTools.RpcWorld

/-!
# Calls in the order of their labels

The phases work through a list of labels.  For each of them they make a few
calls: subscriptions, and at most one submission, of a statement with that
label.  A subscription that probes for fresh topics (`MatchAny`) asks for the
topics of its own label, before the statement is submitted.

So what the labels say about each other carries over to the calls:
`CallsForAll.undisturbed` — when no two labels share a topic, no probe can see
a statement submitted earlier.
-/

namespace StatementStore

/-- If `a` submits a statement and `b` probes for fresh topics, they are about
different topics. -/
def Undisturbed (a b : Call) : Prop :=
  ∀ s topics, a.statement? = some s → b.filter? = some (.matchAny topics) →
    ∀ t ∈ s.topics, t ∉ topics.elems

/-- The calls made for one label. -/
structure CallsFor (label : Label) (calls : List Call) : Prop where
  statements : ∀ s ∈ submitted calls, s.label = label
  once : (submitted calls).length ≤ 1
  probes : ∀ topics, .matchAny topics ∈ subscribed calls → topics.elems = label.topics
  fresh : calls.Pairwise Undisturbed

/-- The calls made for a list of labels, one after the other. -/
inductive CallsForAll : List Label → List Call → Prop
  | nil : CallsForAll [] []
  | cons {label : Label} {g : List Call} {rest : List Label} {calls : List Call} :
      CallsFor label g → CallsForAll rest calls → CallsForAll (label :: rest) (g ++ calls)

variable {ls ls' : List Label} {l : Label} {calls calls' : List Call}

theorem CallsForAll.append (h : CallsForAll ls calls) (h' : CallsForAll ls' calls') :
    CallsForAll (ls ++ ls') (calls ++ calls') := by
  induction h with
  | nil => exact h'
  | cons hfirst _ ih =>
      rw [List.append_assoc]
      exact .cons hfirst ih

theorem CallsFor.all (h : CallsFor l calls) : CallsForAll [l] calls := by
  have hall := CallsForAll.cons h .nil
  rwa [List.append_nil] at hall

/-- The submitted statements follow the labels; some may be left out. -/
theorem CallsForAll.sublist (h : CallsForAll ls calls) : (labels calls).Sublist ls := by
  induction h with
  | nil => exact List.Sublist.refl _
  | @cons label g rest calls hfirst _ ih =>
      rw [labels_append]
      have hone : labels g = [] ∨ labels g = [label] := by
        have hlabels := hfirst.statements
        have honce := hfirst.once
        unfold labels
        rcases hsub : submitted g with _ | ⟨s, _ | ⟨s', more⟩⟩ <;> rw [hsub] at hlabels honce
        · exact Or.inl rfl
        · exact Or.inr (congrArg (fun l => [l]) (hlabels s (List.mem_cons_self ..)))
        · exact absurd honce (by simp only [List.length_cons]; omega)
      rcases hone with hnil | hsingle
      · rw [hnil, List.nil_append]
        exact ih.cons _
      · rw [hsingle, List.singleton_append]
        exact ih.cons_cons _

theorem mem_submitted {s : Statement} :
    s ∈ submitted calls ↔ ∃ c ∈ calls, c.statement? = some s := by
  simp [submitted, List.mem_filterMap]

theorem mem_subscribed {f : TopicFilter} :
    f ∈ subscribed calls ↔ ∃ c ∈ calls, c.filter? = some f := by
  simp [subscribed, List.mem_filterMap]

/-- A probe among the calls is for the topics of one of the labels. -/
theorem CallsForAll.probe (h : CallsForAll ls calls) {topics : BoundedVec Topic 128}
    (hmem : .matchAny topics ∈ subscribed calls) : ∃ l ∈ ls, topics.elems = l.topics := by
  induction h with
  | nil => cases hmem
  | cons hfirst _ ih =>
      rw [subscribed_append, List.mem_append] at hmem
      rcases hmem with hmem | hmem
      · exact ⟨_, List.mem_cons_self .., hfirst.probes topics hmem⟩
      · obtain ⟨l, hl, heq⟩ := ih hmem
        exact ⟨l, List.mem_cons_of_mem _ hl, heq⟩

/-- **Different topics do not disturb.**  When no two labels share a topic, no
probe is for the topic of a statement submitted before it. -/
theorem CallsForAll.undisturbed (h : CallsForAll ls calls)
    (hdistinct : ls.Pairwise fun a b => a.topics.Disjoint b.topics) :
    calls.Pairwise Undisturbed := by
  induction h with
  | nil => exact List.Pairwise.nil
  | cons hfirst hrest ih =>
      obtain ⟨hhead, htail⟩ := List.pairwise_cons.mp hdistinct
      refine List.pairwise_append.mpr ⟨hfirst.fresh, ih htail, ?_⟩
      intro a ha b hb s topics hs hf t ht hprobe
      have hlabel := hfirst.statements s (mem_submitted.mpr ⟨a, ha, hs⟩)
      obtain ⟨l, hl, helems⟩ := hrest.probe (mem_subscribed.mpr ⟨b, hb, hf⟩)
      have htopic : t ∈ s.label.topics := ht
      rw [hlabel] at htopic
      rw [helems] at hprobe
      exact hhead l hl htopic hprobe

section Probe

variable {c c' : Handle} {t t' : Instant} {topics : BoundedVec Topic 128} {s : Statement}

private theorem probes_only (h : topics.elems = l.topics) (topics' : BoundedVec Topic 128)
    (hmem : TopicFilter.matchAny topics' ∈ [TopicFilter.matchAny topics]) :
    topics'.elems = l.topics := by
  obtain rfl : topics' = topics := by simpa using hmem
  exact h

/-- A probe that comes to nothing. -/
theorem callsFor_probe (h : topics.elems = l.topics) :
    CallsFor l [.subscribe c t (.matchAny topics)] where
  statements s hs := by cases hs
  once := Nat.zero_le _
  probes := probes_only h
  fresh := List.pairwise_singleton _ _

/-- A probe, then the statement it was for. -/
theorem callsFor_probe_submit (h : topics.elems = l.topics) (hs : s.label = l) :
    CallsFor l [.subscribe c t (.matchAny topics), .submit c' t' s] where
  statements s' hs' := by
    obtain rfl := List.mem_singleton.mp hs'
    exact hs
  once := Nat.le_refl _
  probes := probes_only h
  fresh := List.pairwise_pair.mpr fun s topics hs => by cases hs

end Probe

/-- Calls that neither submit nor probe. -/
structure Quiet (calls : List Call) : Prop where
  submitted : submitted calls = []
  probes : ∀ topics, .matchAny topics ∉ subscribed calls

theorem Quiet.nil : Quiet [] := ⟨rfl, fun topics hmem => by cases hmem⟩

theorem Quiet.append (h : Quiet calls) (h' : Quiet calls') : Quiet (calls ++ calls') where
  submitted := by rw [submitted_append, h.submitted, h'.submitted]; rfl
  probes topics hmem := by
    rw [subscribed_append, List.mem_append] at hmem
    exact hmem.elim (h.probes topics) (h'.probes topics)

theorem quiet_matchAll (c : Handle) (t : Instant) (topics : BoundedVec Topic 4) :
    Quiet [.subscribe c t (.matchAll topics)] :=
  ⟨rfl, fun topics' hmem => by simp at hmem⟩

theorem Quiet.pairwise (h : Quiet calls) : calls.Pairwise Undisturbed := by
  refine List.pairwise_of_forall_mem_list ?_
  intro a ha b hb s topics hs
  have hmem : s ∈ StatementStore.submitted calls := mem_submitted.mpr ⟨a, ha, hs⟩
  rw [h.submitted] at hmem
  cases hmem

/-- Quiet calls belong to any label. -/
theorem Quiet.callsFor (h : Quiet calls) : CallsFor l calls where
  statements s hs := by rw [h.submitted] at hs; cases hs
  once := by rw [h.submitted]; exact Nat.zero_le _
  probes topics hmem := absurd hmem (h.probes topics)
  fresh := h.pairwise

/-- A statement of the label, and quiet calls after it. -/
theorem Quiet.callsFor_submit (h : Quiet calls) {c : Handle} {t : Instant} {s : Statement}
    (hs : s.label = l) : CallsFor l (.submit c t s :: calls) where
  statements s' hs' := by
    rw [← List.singleton_append, submitted_append, h.submitted] at hs'
    obtain rfl := List.mem_singleton.mp hs'
    exact hs
  once := by
    rw [← List.singleton_append, submitted_append, h.submitted]
    exact Nat.le_refl _
  probes topics hmem := by
    rw [← List.singleton_append, subscribed_append] at hmem
    exact absurd hmem (h.probes topics)
  fresh := by
    refine List.pairwise_cons.mpr ⟨?_, h.pairwise⟩
    intro b hb s topics _ hf
    exact absurd (mem_subscribed.mpr ⟨b, hb, hf⟩) (h.probes topics)

/-- Submissions alone, each for its own label. -/
theorem callsForAll_of_submissions (h : subscribed calls = []) :
    CallsForAll (labels calls) calls := by
  induction calls with
  | nil => exact .nil
  | cons c calls ih =>
      cases c with
      | subscribe c t f => cases h
      | submit c t s =>
          refine CallsForAll.cons (g := [.submit c t s]) ⟨?_, by simp, ?_, by simp⟩ (ih h)
          · intro s' hs'
            obtain rfl : s' = s := by simpa using hs'
            rfl
          · intro topics hmem
            cases hmem

end StatementStore
