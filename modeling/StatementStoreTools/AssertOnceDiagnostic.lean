import StatementStoreTools.Tallies
import StatementStoreTools.SubscribePhase

/-!
# What a failed `--assert-once` read reports

With two or more statements received, the error text carries three numbers:
how many came, how many different ones, and how often the most frequent of
them.  They are read off a map of counts; the counts are a tally of the
received payloads, so the text says the same in every order of arrival
(`assertExactlyOnce_diagnostic`).
-/

namespace StatementStore

open Tallies

theorem countPayload_eq_bump : countPayload = bump := by
  funext counts b
  induction counts with
  | nil => rfl
  | cons entry counts ih =>
      obtain ⟨key, n⟩ := entry
      simp only [countPayload, bump, ih]

/-- The map of counts, after all payloads. -/
theorem isTally_countPayload (received : List Bytes) :
    IsTally (received.foldl countPayload []) received := by
  rw [countPayload_eq_bump]
  exact isTally_foldl received

/-- What the two numbers of the text say about the received payloads. -/
structure Diagnoses (received : List Bytes) (distinct maxRepeat : Nat) : Prop where
  distinct_eq : distinct = received.toFinset.card
  repeat_bound : ∀ b, received.count b ≤ maxRepeat
  repeat_attained : ∃ b ∈ received, received.count b = maxRepeat
  one_statement : distinct = 1 ↔ ∀ a ∈ received, ∀ b ∈ received, a = b
  no_repeat : maxRepeat = 1 ↔ received.Nodup
  at_least : distinct + maxRepeat - 1 ≤ received.length
  at_most : received.length ≤ distinct * maxRepeat

theorem diagnoses_of_tally {counts : List (Bytes × Nat)} {received : List Bytes}
    (h : IsTally counts received) (hne : received ≠ []) :
    Diagnoses received counts.length (largest counts) where
  distinct_eq := h.length_eq.trans (List.card_toFinset received).symm
  repeat_bound b := by convert h.count_le b
  repeat_attained := by
    obtain ⟨b, hb, heq⟩ := h.exists_count_eq hne
    refine ⟨b, hb, ?_⟩
    convert heq
  one_statement := h.length_eq_one_iff hne
  no_repeat := h.largest_eq_one_iff hne
  at_least := h.le_length hne
  at_most := h.length_le

/-- The error text for several statements. -/
def severalReceived (topic : Bytes32) (received distinct maxRepeat : Nat) : String :=
  s!"topic 0x{hexFull topic}: received {received} statements " ++
    s!"(distinct={distinct}, max_repeat={maxRepeat}); expected exactly one"

theorem assertExactlyOnce_several {received : List Bytes} (topic : Bytes32)
    (h : 2 ≤ received.length) : assertExactlyOnce received topic =
      .error (severalReceived topic received.length (received.foldl countPayload []).length
        (largest (received.foldl countPayload []))) := by
  have hlength : received.length ≠ 1 := by omega
  have hne : received ≠ [] := by
    intro hnil
    simp [hnil] at h
  rw [assertExactlyOnce, if_neg hlength, if_neg hne]
  rfl

/-- **The diagnostic is faithful**, and the same in every order of arrival. -/
theorem assertExactlyOnce_diagnostic (topic : Bytes32) (received : List Bytes)
    (h : 2 ≤ received.length) : ∃ distinct maxRepeat, Diagnoses received distinct maxRepeat ∧
      ∀ arrived, arrived.Perm received → assertExactlyOnce arrived topic =
        .error (severalReceived topic received.length distinct maxRepeat) := by
  have hne : received ≠ [] := by
    intro hnil
    simp [hnil] at h
  have htally := isTally_countPayload received
  refine ⟨_, _, diagnoses_of_tally htally hne, fun arrived hp => ?_⟩
  have hlength := hp.length_eq
  have hsame := ((isTally_countPayload arrived).perm hp).unique htally
  rw [assertExactlyOnce_several topic (by omega), hlength, hsame.length_eq, largest_perm hsame]

/-- Three payloads, two of them the same. -/
theorem assertExactlyOnce_diagnostic_three :
    2 ≤ ([[7, 7], [1], [7, 7]] : List Bytes).length ∧
      ∃ distinct maxRepeat, Diagnoses [[7, 7], [1], [7, 7]] distinct maxRepeat ∧
        ∀ arrived, arrived.Perm [[7, 7], [1], [7, 7]] →
          assertExactlyOnce arrived (Vector.replicate 32 0) =
            .error (severalReceived (Vector.replicate 32 0) 3 distinct maxRepeat) :=
  ⟨by decide, assertExactlyOnce_diagnostic _ _ (by decide)⟩

end StatementStore
