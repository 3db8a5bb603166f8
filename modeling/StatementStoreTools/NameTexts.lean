import StatementStoreTools.CycleNames
import StatementStoreTools.RingExpiry

/-!
# The hashed texts are unambiguous

Topics and channels are hashes of texts that join numbers, and in one scheme a
free-form scope, by dashes.  Nothing escapes a dash in the scope, so such a
text is read from both ends: the run id is what stands before the first dash,
the index what stands behind the last one, the scope whatever is left.

`names_unambiguous`: over all run ids, scopes and indices a text has one
reading, in the two schemes of `statement-ops-bench` and in the two of the
ring benchmark, and a topic text is never a channel text.
-/

namespace StatementStore

open DashNames

/-! ## The texts of `derive_topic` and `derive_channel` -/

section Derived

variable {runId runId' : UInt64} {scope scope' : String} {idx idx' : UInt32}

theorem topicText_injective :
    Function.Injective fun name : UInt64 × String × UInt32 =>
      topicText name.1 name.2.1 name.2.2 := by
  intro a b h
  obtain ⟨hrun, hscope, hidx⟩ := topicText_inj h
  apply Prod.ext hrun
  exact Prod.ext hscope hidx

theorem channelText_injective :
    Function.Injective fun name : UInt64 × String × UInt32 =>
      channelText name.1 name.2.1 name.2.2 := by
  intro a b h
  obtain ⟨hrun, hscope, hidx⟩ := channelText_inj h
  apply Prod.ext hrun
  exact Prod.ext hscope hidx

/-- The beginnings part after `ops-bench-`. -/
theorem topicText_ne_channelText : topicText runId scope idx ≠ channelText runId' scope' idx' := by
  have htopic : "ops-bench-topic-".toList = "ops-bench-".toList ++ 't' :: "opic-".toList := rfl
  have hchannel : "ops-bench-channel-".toList = "ops-bench-".toList ++ 'c' :: "hannel-".toList :=
    rfl
  intro h
  have hlist := congrArg String.toList h
  rw [topicText_toList, channelText_toList, htopic, hchannel, List.append_assoc,
    List.append_assoc] at hlist
  have hletter := (List.cons.inj (List.append_cancel_left hlist)).1
  exact absurd hletter (by decide)

end Derived

/-! ## The texts of the ring benchmark -/

section Ring

variable {runId runId' : UInt64} {c c' i i' : UInt32} {r : Nat}

theorem ringTopicText_injective :
    Function.Injective fun name : UInt64 × UInt32 × Nat × UInt32 =>
      ringTopicText name.1 name.2.1 name.2.2.1 name.2.2.2 := by
  intro a b h
  obtain ⟨hrun, hclient, hround, hmsg⟩ := ringTopicText_inj h
  apply Prod.ext hrun
  apply Prod.ext hclient
  exact Prod.ext hround hmsg

theorem ringChannelText_injective :
    Function.Injective fun name : UInt32 × UInt32 × UInt64 =>
      ringChannelText name.1 name.2.1 name.2.2 := by
  intro a b h
  obtain ⟨hclient, hmsg, hrun⟩ := ringChannelText_inj h
  apply Prod.ext hclient
  exact Prod.ext hmsg hrun

/-- Both schemes join numbers and nothing else, but a topic joins one more:
behind two dashes a channel text has no third. -/
theorem ringTopicText_ne_ringChannelText :
    ringTopicText runId c r i ≠ ringChannelText c' i' runId' := by
  intro h
  have hlist := congrArg String.toList h
  rw [ringTopicText_toList, ringChannelText_toList] at hlist
  obtain ⟨-, hlist⟩ := decimal_cut_first (by decide) hlist
  obtain ⟨-, hlist⟩ := decimal_cut_first (by decide) hlist
  apply not_mem_decimal (show '-'.isDigit = false by decide) runId'.toNat
  rw [← hlist]
  exact List.mem_append_right _ List.mem_cons_self

end Ring

/-- **The naming schemes are unambiguous.** -/
theorem names_unambiguous :
    (Function.Injective fun name : UInt64 × String × UInt32 =>
      topicText name.1 name.2.1 name.2.2) ∧
    (Function.Injective fun name : UInt64 × String × UInt32 =>
      channelText name.1 name.2.1 name.2.2) ∧
    (∀ runId scope idx runId' scope' idx',
      topicText runId scope idx ≠ channelText runId' scope' idx') ∧
    (Function.Injective fun name : UInt64 × UInt32 × Nat × UInt32 =>
      ringTopicText name.1 name.2.1 name.2.2.1 name.2.2.2) ∧
    (Function.Injective fun name : UInt32 × UInt32 × UInt64 =>
      ringChannelText name.1 name.2.1 name.2.2) ∧
    (∀ runId c r i c' i' runId', ringTopicText runId c r i ≠ ringChannelText c' i' runId') := by
  refine ⟨topicText_injective, channelText_injective, ?_, ringTopicText_injective,
    ringChannelText_injective, ?_⟩
  · intro runId scope idx runId' scope' idx'
    exact topicText_ne_channelText
  · intro runId c r i c' i' runId'
    exact ringTopicText_ne_ringChannelText

end StatementStore
