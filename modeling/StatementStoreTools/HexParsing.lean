import StatementStoreTools.Chunking
import StatementStoreTools.HexDigits
import StatementStoreTools.MessagePattern
import StatementStoreTools.OpsCommon

/-!
# `--topic` and `--account`

`parse_topic_hex` and `parse_account` decode 32 bytes from hex digits, each
with a loop of its own over pairs of bytes; `parse_account` also takes SS58
addresses.  Indices and slices that could be out of range are looked up here,
and a parser that panics answers `none`.

* `parseTopicHex_ok` — what `parse_topic_hex` accepts: 64 hex digits, behind
  `0x` or `0X` or nothing, read as the bytes they denote;
* `hexFull_of_denoted`, `parseTopicHex_hexFull` — the encoder is its inverse;
* `parseAccount_hex`, `parseAccount_ss58` — which account texts are hex and
  which are left to the SS58 decoder.
-/

namespace StatementStore

open Chunking HexDigits

/-! ## The parsers -/

/-- `{:?}` of a byte as a character. -/
def debugByteAsChar (b : UInt8) : String :=
  let n := b.toNat
  let shown :=
    if n = 0 then "\\0"
    else if n = 9 then "\\t"
    else if n = 10 then "\\n"
    else if n = 13 then "\\r"
    else if n = 39 then "\\'"
    else if n = 92 then "\\\\"
    else if n < 32 ∨ (127 ≤ n ∧ n ≤ 160) ∨ n = 173 then
      "\\u\x7b" ++ String.ofList (Nat.toDigits 16 n) ++ "\x7d"
    else String.ofList [Char.ofNat n]
  "'" ++ shown ++ "'"

def hexNibble (c : UInt8) : Except String UInt8 :=
  if 48 ≤ c ∧ c ≤ 57 then .ok (c - 48)
  else if 97 ≤ c ∧ c ≤ 102 then .ok (c - 97 + 10)
  else if 65 ≤ c ∧ c ≤ 70 then .ok (c - 65 + 10)
  else .error s!"invalid hex character: {debugByteAsChar c}"

/-- The loop over the numbered pairs of bytes, alike in both parsers. -/
def hexLoop : List (List UInt8 × Nat) → Bytes32 → Option (Except String Bytes32)
  | [], out => some (.ok out)
  | (chunk, i) :: rest, out =>
      chunk[0]?.bind fun c =>
        match hexNibble c with
        | .error e => some (.error e)
        | .ok hi =>
            chunk[1]?.bind fun c =>
              match hexNibble c with
              | .error e => some (.error e)
              | .ok lo =>
                  if h : i < 32 then hexLoop rest (out.set i (hi <<< 4 ||| lo)) else none

/-- `strip_prefix("0x")`, else `strip_prefix("0X")`, else the text itself. -/
def stripHexPrefix (s : List Char) : List Char :=
  ((s.dropPrefix? ['0', 'x']).or (s.dropPrefix? ['0', 'X'])).getD s

def parseTopicHex (s : String) : Option (Except String Bytes32) :=
  let stripped := utf8 (stripHexPrefix s.toList)
  if stripped.length ≠ 64 then
    some (.error s!"--topic must be 64 hex chars (32 bytes), got {stripped.length} chars")
  else hexLoop (chunks 2 stripped).zipIdx (Vector.replicate 32 0)

/-- `&s[n..]`: out of range when `n` is not the start of a character. -/
def sliceFrom : Nat → List Char → Option (List Char)
  | 0, s => some s
  | _ + 1, [] => none
  | n + 1, c :: s => if c.utf8Size ≤ n + 1 then sliceFrom (n + 1 - c.utf8Size) s else none

/-- `starts_with("0x") || starts_with("0X")`. -/
def hasHexPrefix (s : List Char) : Bool :=
  ['0', 'x'].isPrefixOf s || ['0', 'X'].isPrefixOf s

/-- `u8::is_ascii_hexdigit`. -/
def isAsciiHexdigit (b : UInt8) : Bool :=
  (48 ≤ b && b ≤ 57) || (65 ≤ b && b ≤ 70) || (97 ≤ b && b ≤ 102)

/-- `AccountId32::from_ss58check`, its errors as `{e:?}` shows them, and
`{trimmed:?}` of a text. -/
structure Ss58 where
  fromSs58check : List Char → Except String Bytes32
  debugText : List Char → String

def parseAccount (ss58 : Ss58) (s : String) : Option (Except String Bytes32) :=
  let trimmed := trim s.toList
  let hasPrefix := hasHexPrefix trimmed
  (if hasPrefix then sliceFrom 2 trimmed else some trimmed).bind fun hexBody =>
    let bytes := utf8 hexBody
    let looksLikeHex := bytes.length = 64 && bytes.all isAsciiHexdigit
    if hasPrefix || looksLikeHex then
      if bytes.length ≠ 64 then
        some (.error
          s!"--account hex must be 64 hex chars (32 bytes), got {bytes.length} chars")
      else hexLoop (chunks 2 bytes).zipIdx (Vector.replicate 32 0)
    else
      match ss58.fromSs58check trimmed with
      | .ok account => some (.ok account)
      | .error e => some (.error
          (s!"--account must be an SS58 address or 32-byte hex (with or without 0x); " ++
            s!"{ss58.debugText trimmed} is neither ({e})"))

/-! ## The loop -/

section Loop

variable {b : UInt8} {c : Char} {e : String}

theorem hexNibble_asciiByte (h : c.isHexDigit = true) :
    hexNibble (asciiByte c) = .ok (UInt8.ofNat (digitValue c)) := by
  have hall : ∀ d ∈ digits, hexNibble (asciiByte d) = .ok (UInt8.ofNat (digitValue d)) := by
    intro d hd
    fin_cases hd <;> rfl
  exact hall c (isHexDigit_iff.mp h)

theorem isAsciiHexdigit_iff : isAsciiHexdigit b = true ↔ IsHexByte b := by
  constructor
  · intro h
    simp only [isAsciiHexdigit, Bool.or_eq_true, Bool.and_eq_true, decide_eq_true_eq,
      UInt8.le_iff_toNat_le] at h
    have hbounds : (48 ≤ b.toNat ∧ b.toNat ≤ 57) ∨ (65 ≤ b.toNat ∧ b.toNat ≤ 70) ∨
        (97 ≤ b.toNat ∧ b.toNat ≤ 102) := or_assoc.mp h
    have hbyte : UInt8.ofNat b.toNat = b := UInt8.ofNat_toNat
    generalize b.toNat = n at hbounds hbyte
    subst hbyte
    refine ⟨Char.ofNat n, ?_, ?_⟩
    · rcases hbounds with ⟨hlo, hhi⟩ | ⟨hlo, hhi⟩ | ⟨hlo, hhi⟩ <;> interval_cases n <;> decide
    · rcases hbounds with ⟨hlo, hhi⟩ | ⟨hlo, hhi⟩ | ⟨hlo, hhi⟩ <;> interval_cases n <;> rfl
  · intro h
    obtain ⟨c, hc, rfl⟩ := h
    have hall : (digits.all fun d => isAsciiHexdigit (asciiByte d)) = true := by decide
    exact List.all_eq_true.mp hall c (isHexDigit_iff.mp hc)

theorem hexNibble_error : (∃ e, hexNibble b = .error e) ↔ ¬ IsHexByte b := by
  constructor
  · intro h hhex
    obtain ⟨e, he⟩ := h
    obtain ⟨c, hc, rfl⟩ := hhex
    rw [hexNibble_asciiByte hc] at he
    cases he
  · intro h
    rw [← isAsciiHexdigit_iff, isAsciiHexdigit, Bool.not_eq_true] at h
    simp only [Bool.or_eq_false_iff, Bool.and_eq_false_iff, decide_eq_false_iff_not] at h
    rw [hexNibble, if_neg (by tauto), if_neg (by tauto), if_neg (by tauto)]
    exact ⟨_, rfl⟩

theorem chunks_two (b₀ b₁ : UInt8) (bytes : List UInt8) :
    chunks 2 (b₀ :: b₁ :: bytes) = [b₀, b₁] :: chunks 2 bytes :=
  chunks_of_ne_nil (by decide) (List.cons_ne_nil _ _)

/-- One turn of the loop on two hex digits. -/
theorem hexLoop_cons {hi lo : Char} (hhi : hi.isHexDigit = true) (hlo : lo.isHexDigit = true)
    {i : Nat} (hi32 : i < 32) (rest : List (List UInt8 × Nat)) (out : Bytes32) :
    hexLoop (([asciiByte hi, asciiByte lo], i) :: rest) out =
      hexLoop rest (out.set i (UInt8.ofNat (16 * digitValue hi + digitValue lo))) := by
  have hbyte : UInt8.ofNat (digitValue hi) <<< 4 ||| UInt8.ofNat (digitValue lo) =
      UInt8.ofNat (16 * digitValue hi + digitValue lo) := by
    have hhi16 := digitValue_lt hhi
    have hlo16 := digitValue_lt hlo
    have hhiNat : (UInt8.ofNat (digitValue hi)).toNat = digitValue hi := by
      rw [UInt8.toNat_ofNat']
      omega
    have hloNat : (UInt8.ofNat (digitValue lo)).toNat = digitValue lo := by
      rw [UInt8.toNat_ofNat']
      omega
    rw [nibbles _ _ (by omega) (by omega), hhiNat, hloNat]
  simp [hexLoop, hexNibble_asciiByte hhi, hexNibble_asciiByte hlo, hi32, hbyte]

/-- **On hex digits** the loop fills in the bytes they denote. -/
theorem hexLoop_ok {text : List Char} {k i : Nat} (out : Bytes32)
    (hhex : ∀ c ∈ text, c.isHexDigit = true) (hlen : text.length = 2 * k) (hik : i + k = 32) :
    ∃ out', hexLoop ((chunks 2 (text.map asciiByte)).zipIdx i) out = some (.ok out') ∧
      out'.toList = out.toList.take i ++ denoted text := by
  induction k generalizing text i out with
  | zero =>
      obtain rfl := List.eq_nil_of_length_eq_zero hlen
      refine ⟨out, rfl, ?_⟩
      rw [denoted_nil, List.append_nil, List.take_of_length_le]
      rw [Vector.length_toList]
      omega
  | succ k ih =>
      match text, hhex, hlen with
      | hi :: lo :: rest, hhex, hlen =>
          have hi32 : i < 32 := by omega
          have hhi := hhex hi List.mem_cons_self
          have hlo := hhex lo (List.mem_cons_of_mem _ List.mem_cons_self)
          simp only [List.length_cons] at hlen
          obtain ⟨out', hrun, hout⟩ := ih
            (out.set i (UInt8.ofNat (16 * digitValue hi + digitValue lo)))
            (fun c hc => hhex c (List.mem_cons_of_mem _ (List.mem_cons_of_mem _ hc)))
            (show rest.length = 2 * k by omega) (show i + 1 + k = 32 by omega)
          refine ⟨out', ?_, ?_⟩
          · rw [List.map_cons, List.map_cons, chunks_two, List.zipIdx_cons,
              hexLoop_cons hhi hlo hi32, hrun]
          · have htake : (out.toList.set i
                (UInt8.ofNat (16 * digitValue hi + digitValue lo))).take (i + 1) =
                out.toList.take i ++ [UInt8.ofNat (16 * digitValue hi + digitValue lo)] := by
              rw [List.take_add_one, List.take_set_of_le (Nat.le_refl i),
                List.getElem?_set_self (by rwa [Vector.length_toList])]
              rfl
            rw [hout, Vector.toList_set, htake, denoted, List.append_assoc, List.cons_append,
              List.nil_append]

/-- **On anything else** it ends with an error. -/
theorem hexLoop_error {bytes : List UInt8} {k i : Nat} (out : Bytes32)
    (hbad : ¬ ∀ b ∈ bytes, IsHexByte b) (hlen : bytes.length = 2 * k) (hik : i + k = 32) :
    ∃ e, hexLoop ((chunks 2 bytes).zipIdx i) out = some (.error e) := by
  induction k generalizing bytes i out with
  | zero =>
      obtain rfl := List.eq_nil_of_length_eq_zero hlen
      exact absurd (by simp) hbad
  | succ k ih =>
      match bytes, hbad, hlen with
      | b₀ :: b₁ :: bytes, hbad, hlen =>
          have hi32 : i < 32 := by omega
          simp only [List.length_cons] at hlen
          rw [chunks_two, List.zipIdx_cons]
          cases hb₀ : hexNibble b₀ with
          | error e => exact ⟨e, by simp [hexLoop, hb₀]⟩
          | ok hi =>
              cases hb₁ : hexNibble b₁ with
              | error e => exact ⟨e, by simp [hexLoop, hb₀, hb₁]⟩
              | ok lo =>
                  have hhex₀ : IsHexByte b₀ := by
                    by_contra hnot
                    obtain ⟨e, he⟩ := hexNibble_error.mpr hnot
                    rw [hb₀] at he
                    cases he
                  have hhex₁ : IsHexByte b₁ := by
                    by_contra hnot
                    obtain ⟨e, he⟩ := hexNibble_error.mpr hnot
                    rw [hb₁] at he
                    cases he
                  have hrest : ¬ ∀ b ∈ bytes, IsHexByte b := by
                    intro hall
                    apply hbad
                    exact List.forall_mem_cons.mpr
                      ⟨hhex₀, List.forall_mem_cons.mpr ⟨hhex₁, hall⟩⟩
                  obtain ⟨e, he⟩ := ih (out.set i (hi <<< 4 ||| lo)) hrest (by omega)
                    (show i + 1 + k = 32 by omega)
                  exact ⟨e, by simp [hexLoop, hb₀, hb₁, hi32, he]⟩

/-- **The loop**, on 64 bytes of a text. -/
theorem hexLoop_text {text : List Char} (hlen : (utf8 text).length = 64) (out : Bytes32) :
    ((∀ c ∈ text, c.isHexDigit = true) ∧
      ∃ out', hexLoop (chunks 2 (utf8 text)).zipIdx out = some (.ok out') ∧
        out'.toList = denoted text) ∨
    ((¬ ∀ c ∈ text, c.isHexDigit = true) ∧
      ∃ e, hexLoop (chunks 2 (utf8 text)).zipIdx out = some (.error e)) := by
  by_cases hhex : ∀ c ∈ text, c.isHexDigit = true
  · rw [utf8_of_hex hhex] at hlen ⊢
    obtain ⟨out', hrun, hout⟩ := hexLoop_ok (k := 32) (i := 0) out hhex
      (by rwa [List.length_map] at hlen) rfl
    exact Or.inl ⟨hhex, out', hrun, hout⟩
  · have hbad : ¬ ∀ b ∈ utf8 text, IsHexByte b := fun hall => hhex (utf8_hex_iff.mp hall)
    exact Or.inr ⟨hhex, hexLoop_error (k := 32) (i := 0) out hbad hlen rfl⟩

end Loop

/-! ## The encoder -/

section Encoder

variable {n : Nat} {c : Char} {text : List Char} {bytes : List UInt8}

theorem hexDigit_toNat (hn : n < 16) :
    (hexDigit n).toNat = if n < 10 then 48 + n else 87 + n := by
  interval_cases n <;> rfl

/-- A digit of either case, by its lowercase. -/
theorem toLower_eq_hexDigit_iff (hn : n < 16) :
    c.toLower = hexDigit n ↔ c.isHexDigit = true ∧ digitValue c = n := by
  rw [← Char.toNat_inj, toLower_toNat, hexDigit_toNat hn, isHexDigit_bounds, digitValue]
  grind

/-- Two digits of either case, by the byte they denote. -/
theorem toLower_eq_hexByte_iff {hi lo : Char} {b : UInt8} :
    [hi.toLower, lo.toLower] = hexByte b ↔ hi.isHexDigit = true ∧ lo.isHexDigit = true ∧
      UInt8.ofNat (16 * digitValue hi + digitValue lo) = b := by
  have hb := b.toNat_lt
  have hhi : b.toNat / 16 < 16 := by omega
  have hlo : b.toNat % 16 < 16 := by omega
  rw [hexByte, List.cons.injEq, List.cons.injEq, toLower_eq_hexDigit_iff hhi,
    toLower_eq_hexDigit_iff hlo]
  constructor
  · intro h
    obtain ⟨⟨hhiHex, hhi⟩, ⟨hloHex, hlo⟩, -⟩ := h
    rw [hhi, hlo, Nat.div_add_mod, UInt8.ofNat_toNat]
    exact ⟨hhiHex, hloHex, rfl⟩
  · intro h
    obtain ⟨hhiHex, hloHex, hbyte⟩ := h
    have hhi16 := digitValue_lt hhiHex
    have hlo16 := digitValue_lt hloHex
    have hnat := congrArg UInt8.toNat hbyte
    rw [UInt8.toNat_ofNat'] at hnat
    exact ⟨⟨hhiHex, by omega⟩, ⟨hloHex, by omega⟩, rfl⟩

/-- **The encoder is the decoder's inverse**, up to the case of the digits. -/
theorem map_toLower_eq_iff : text.map Char.toLower = bytes.flatMap hexByte ↔
    (∀ c ∈ text, c.isHexDigit = true) ∧ text.length = 2 * bytes.length ∧
      denoted text = bytes := by
  induction bytes generalizing text with
  | nil =>
      constructor
      · intro h
        obtain rfl := List.map_eq_nil_iff.mp h
        exact ⟨by simp, rfl, rfl⟩
      · intro h
        obtain rfl := List.eq_nil_of_length_eq_zero h.2.1
        rfl
  | cons b bytes ih =>
      match text with
      | [] => simp [hexByte]
      | [c] =>
          apply iff_of_false
          · simp [hexByte]
          · intro h
            have hodd := h.2.1
            rw [List.length_singleton, List.length_cons] at hodd
            omega
      | hi :: lo :: rest =>
          have hsplit : (hi :: lo :: rest).map Char.toLower = (b :: bytes).flatMap hexByte ↔
              [hi.toLower, lo.toLower] = hexByte b ∧
                rest.map Char.toLower = bytes.flatMap hexByte := by
            simp [hexByte, and_assoc]
          have hlength : (hi :: lo :: rest).length = 2 * (b :: bytes).length ↔
              rest.length = 2 * bytes.length := by
            simp only [List.length_cons]
            omega
          rw [hsplit, toLower_eq_hexByte_iff, ih, hlength, denoted, List.forall_mem_cons,
            List.forall_mem_cons, List.cons.injEq]
          grind

end Encoder

/-! ## What the parsers accept -/

/-- The two prefixes of a hex text. -/
def hexPrefixes : List (List Char) := [['0', 'x'], ['0', 'X']]

/-- An optional prefix and 64 hex digits. -/
structure IsHexText (s text : List Char) : Prop where
  shape : s = text ∨ ∃ pre ∈ hexPrefixes, s = pre ++ text
  length_eq : text.length = 64
  hex : ∀ c ∈ text, c.isHexDigit = true

/-- The account texts that are decoded as hex. -/
def TreatedAsHex (s : List Char) : Prop :=
  (∃ pre ∈ hexPrefixes, ∃ rest, s = pre ++ rest) ∨
    (s.length = 64 ∧ ∀ c ∈ s, c.isHexDigit = true)

section Parsers

variable {s pre rest text : List Char} {b : Bytes32}

theorem hasHexPrefix_iff :
    hasHexPrefix s = true ↔ ∃ pre ∈ hexPrefixes, ∃ rest, s = pre ++ rest := by
  rw [hasHexPrefix, Bool.or_eq_true, List.isPrefixOf_iff_prefix, List.isPrefixOf_iff_prefix]
  simp [hexPrefixes, List.IsPrefix, eq_comm]

theorem stripHexPrefix_append (h : pre ∈ hexPrefixes) (rest : List Char) :
    stripHexPrefix (pre ++ rest) = rest := by
  rcases List.mem_cons.mp h with rfl | h
  · simp [stripHexPrefix, List.dropPrefix?]
  · obtain rfl := List.mem_singleton.mp h
    simp [stripHexPrefix, List.dropPrefix?]

theorem stripHexPrefix_of_bare (h : hasHexPrefix s = false) : stripHexPrefix s = s := by
  have hnone : ∀ pre ∈ hexPrefixes, s.dropPrefix? pre = none := by
    intro pre hpre
    rw [Option.eq_none_iff_forall_not_mem]
    intro rest hrest
    obtain ⟨pre', hs, heq⟩ := List.dropPrefix?_eq_some_iff.mp hrest
    have hs' : s = pre ++ rest := by rw [hs, eq_of_beq heq]
    have htrue := hasHexPrefix_iff.mpr ⟨pre, hpre, rest, hs'⟩
    rw [h] at htrue
    cases htrue
  rw [stripHexPrefix, hnone _ List.mem_cons_self,
    hnone _ (List.mem_cons_of_mem _ List.mem_cons_self)]
  rfl

/-- The prefix takes two bytes. -/
theorem sliceFrom_append (h : pre ∈ hexPrefixes) (rest : List Char) :
    sliceFrom 2 (pre ++ rest) = some rest := by
  have hzero : '0'.utf8Size = 1 := rfl
  rcases List.mem_cons.mp h with rfl | h
  · have hx : 'x'.utf8Size = 1 := rfl
    simp [sliceFrom, hzero, hx]
  · obtain rfl := List.mem_singleton.mp h
    have hx : 'X'.utf8Size = 1 := rfl
    simp [sliceFrom, hzero, hx]

/-- Hex digits do not start with a prefix. -/
theorem hasHexPrefix_of_hex (h : ∀ c ∈ s, c.isHexDigit = true) : hasHexPrefix s = false := by
  rw [Bool.eq_false_iff]
  intro htrue
  obtain ⟨pre, hpre, rest, rfl⟩ := hasHexPrefix_iff.mp htrue
  have hall : ∀ c ∈ pre, c.isHexDigit = true := fun c hc => h c (List.mem_append_left _ hc)
  rcases List.mem_cons.mp hpre with rfl | hpre
  · cases hall 'x' (by simp)
  · obtain rfl := List.mem_singleton.mp hpre
    cases hall 'X' (by simp)

/-- What is left of a hex text without its prefix. -/
theorem IsHexText.strip (h : IsHexText s text) : stripHexPrefix s = text := by
  rcases h.shape with rfl | ⟨pre, hpre, rfl⟩
  · exact stripHexPrefix_of_bare (hasHexPrefix_of_hex h.hex)
  · exact stripHexPrefix_append hpre text

theorem isHexText_strip (hlen : (stripHexPrefix s).length = 64)
    (hhex : ∀ c ∈ stripHexPrefix s, c.isHexDigit = true) : IsHexText s (stripHexPrefix s) := by
  refine ⟨?_, hlen, hhex⟩
  cases hprefix : hasHexPrefix s with
  | false => exact Or.inl (stripHexPrefix_of_bare hprefix).symm
  | true =>
      obtain ⟨pre, hpre, rest, rfl⟩ := hasHexPrefix_iff.mp hprefix
      exact Or.inr ⟨pre, hpre, by rw [stripHexPrefix_append hpre]⟩

/-- **What `parse_topic_hex` accepts.** -/
theorem parseTopicHex_ok {s : String} : parseTopicHex s = some (.ok b) ↔
    ∃ text, IsHexText s.toList text ∧ b.toList = denoted text := by
  constructor
  · intro h
    rw [parseTopicHex] at h
    by_cases hlen : (utf8 (stripHexPrefix s.toList)).length = 64
    · rw [if_neg (not_not_intro hlen)] at h
      rcases hexLoop_text hlen (Vector.replicate 32 0) with ⟨hhex, out, hrun, hout⟩ | ⟨-, e, he⟩
      · rw [hrun] at h
        obtain rfl := Except.ok.inj (Option.some.inj h)
        rw [utf8_of_hex hhex, List.length_map] at hlen
        exact ⟨_, isHexText_strip hlen hhex, hout⟩
      · rw [he] at h
        cases h
    · rw [if_pos hlen] at h
      cases h
  · intro h
    obtain ⟨text, htext, hb⟩ := h
    have hlen : (utf8 text).length = 64 := by
      rw [utf8_of_hex htext.hex, List.length_map, htext.length_eq]
    rw [parseTopicHex, htext.strip, if_neg (not_not_intro hlen)]
    rcases hexLoop_text hlen (Vector.replicate 32 0) with ⟨-, out, hrun, hout⟩ | ⟨hbad, -⟩
    · rw [hrun, Vector.toList_inj.mp (hout.trans hb.symm)]
    · exact absurd htext.hex hbad

theorem hexLoop_ne_none (hlen : (utf8 text).length = 64) (out : Bytes32) :
    hexLoop (chunks 2 (utf8 text)).zipIdx out ≠ none := by
  intro hnone
  rcases hexLoop_text hlen out with ⟨-, out', h, -⟩ | ⟨-, e, h⟩
  · rw [hnone] at h
    cases h
  · rw [hnone] at h
    cases h

/-- **It never panics.** -/
theorem parseTopicHex_ne_none (s : String) : parseTopicHex s ≠ none := by
  rw [parseTopicHex]
  split
  · exact Option.some_ne_none _
  · rename_i hlen
    exact hexLoop_ne_none (not_not.mp hlen) _

theorem hexFull_toList (b : Bytes32) : (hexFull b).toList = b.toList.flatMap hexByte := by
  rw [hexFull, String.toList_ofList]

/-- `hex_full` writes the digits in lowercase. -/
theorem hexFull_of_denoted {s : List Char} (h : IsHexText s text) (hb : b.toList = denoted text) :
    (hexFull b).toList = text.map Char.toLower := by
  rw [hexFull_toList]
  symm
  rw [map_toLower_eq_iff]
  refine ⟨h.hex, ?_, hb.symm⟩
  rw [h.length_eq, Vector.length_toList]

/-- **The round trip**, with either prefix or none and in any mixture of cases. -/
theorem parseTopicHex_hexFull (htext : text.map Char.toLower = (hexFull b).toList)
    (hpre : pre = [] ∨ pre ∈ hexPrefixes) :
    parseTopicHex (String.ofList (pre ++ text)) = some (.ok b) := by
  rw [hexFull_toList] at htext
  obtain ⟨hhex, hlen, hdenoted⟩ := map_toLower_eq_iff.mp htext
  rw [Vector.length_toList] at hlen
  rw [parseTopicHex_ok, String.toList_ofList]
  refine ⟨text, ⟨?_, hlen, hhex⟩, hdenoted.symm⟩
  rcases hpre with rfl | hpre
  · exact Or.inl rfl
  · exact Or.inr ⟨pre, hpre, rfl⟩

/-- Only hex digits look like hex digits. -/
theorem looksLikeHex_iff : ((utf8 s).length = 64 && (utf8 s).all isAsciiHexdigit) = true ↔
    s.length = 64 ∧ ∀ c ∈ s, c.isHexDigit = true := by
  have hall : (utf8 s).all isAsciiHexdigit = true ↔ ∀ c ∈ s, c.isHexDigit = true := by
    rw [List.all_eq_true, ← utf8_hex_iff]
    simp only [isAsciiHexdigit_iff]
  rw [Bool.and_eq_true, decide_eq_true_eq, hall]
  constructor
  · intro h
    obtain ⟨hlen, hhex⟩ := h
    rw [utf8_of_hex hhex, List.length_map] at hlen
    exact ⟨hlen, hhex⟩
  · intro h
    obtain ⟨hlen, hhex⟩ := h
    rw [utf8_of_hex hhex, List.length_map]
    exact ⟨hlen, hhex⟩

/-- The account parser on a text with a prefix. -/
theorem parseAccount_of_marked (ss58 : Ss58) {s : String} (hpre : pre ∈ hexPrefixes)
    (htrim : trim s.toList = pre ++ rest) : parseAccount ss58 s =
      if (utf8 rest).length ≠ 64 then
        some (.error
          s!"--account hex must be 64 hex chars (32 bytes), got {(utf8 rest).length} chars")
      else hexLoop (chunks 2 (utf8 rest)).zipIdx (Vector.replicate 32 0) := by
  have hprefix : hasHexPrefix (pre ++ rest) = true := hasHexPrefix_iff.mpr ⟨pre, hpre, rest, rfl⟩
  simp only [parseAccount, htrim, hprefix, if_true, sliceFrom_append hpre, Option.bind_some,
    Bool.true_or]

/-- On a text of 64 hex digits. -/
theorem parseAccount_of_hex (ss58 : Ss58) {s : String} (hlen : (trim s.toList).length = 64)
    (hhex : ∀ c ∈ trim s.toList, c.isHexDigit = true) : parseAccount ss58 s =
      hexLoop (chunks 2 (utf8 (trim s.toList))).zipIdx (Vector.replicate 32 0) := by
  have hlooks := looksLikeHex_iff.mpr ⟨hlen, hhex⟩
  have hbytes : (utf8 (trim s.toList)).length = 64 := by
    rw [utf8_of_hex hhex, List.length_map, hlen]
  simp only [parseAccount, hasHexPrefix_of_hex hhex, Bool.false_eq_true, if_false,
    Option.bind_some, Bool.false_or]
  rw [if_pos hlooks, if_neg (not_not_intro hbytes)]

/-- **Account texts treated as hex** are read like topics. -/
theorem parseAccount_hex (ss58 : Ss58) {s : String} (h : TreatedAsHex (trim s.toList)) :
    parseAccount ss58 s = some (.ok b) ↔
      parseTopicHex (String.ofList (trim s.toList)) = some (.ok b) := by
  rw [parseTopicHex, String.toList_ofList]
  rcases h with ⟨pre, hpre, rest, htrim⟩ | ⟨hlen, hhex⟩
  · rw [parseAccount_of_marked ss58 hpre htrim, htrim, stripHexPrefix_append hpre]
    by_cases hlen : (utf8 rest).length = 64
    · rw [if_neg (not_not_intro hlen), if_neg (not_not_intro hlen)]
    · rw [if_pos hlen, if_pos hlen]
      simp
  · have hbytes : (utf8 (trim s.toList)).length = 64 := by
      rw [utf8_of_hex hhex, List.length_map, hlen]
    rw [parseAccount_of_hex ss58 hlen hhex,
      stripHexPrefix_of_bare (hasHexPrefix_of_hex hhex), if_neg (not_not_intro hbytes)]

/-- **Every other text** is passed to the SS58 decoder. -/
theorem parseAccount_ss58 (ss58 : Ss58) {s : String} (h : ¬ TreatedAsHex (trim s.toList)) :
    parseAccount ss58 s = some (match ss58.fromSs58check (trim s.toList) with
      | .ok account => .ok account
      | .error e => .error
          (s!"--account must be an SS58 address or 32-byte hex (with or without 0x); " ++
            s!"{ss58.debugText (trim s.toList)} is neither ({e})")) := by
  rw [TreatedAsHex, ← hasHexPrefix_iff, ← looksLikeHex_iff, not_or, Bool.not_eq_true,
    Bool.not_eq_true] at h
  simp only [parseAccount, h.1, Bool.false_eq_true, if_false, Option.bind_some, h.2, Bool.or_self]
  cases ss58.fromSs58check (trim s.toList) <;> rfl

theorem parseAccount_ne_none (ss58 : Ss58) (s : String) : parseAccount ss58 s ≠ none := by
  by_cases h : TreatedAsHex (trim s.toList)
  · rcases h with ⟨pre, hpre, rest, htrim⟩ | ⟨hlen, hhex⟩
    · rw [parseAccount_of_marked ss58 hpre htrim]
      split
      · exact Option.some_ne_none _
      · rename_i hlen
        exact hexLoop_ne_none (not_not.mp hlen) _
    · rw [parseAccount_of_hex ss58 hlen hhex]
      apply hexLoop_ne_none
      rw [utf8_of_hex hhex, List.length_map, hlen]
  · rw [parseAccount_ss58 ss58 h]
    exact Option.some_ne_none _

end Parsers

/-- **The parsers and the encoder agree** on every text. -/
theorem hex_parsers_agree :
    (∀ s b, parseTopicHex s = some (.ok b) ↔
      ∃ text, IsHexText s.toList text ∧ b.toList = denoted text) ∧
    (∀ s text (b : Bytes32), IsHexText s text → b.toList = denoted text →
      (hexFull b).toList = text.map Char.toLower) ∧
    (∀ (b : Bytes32) (text pre : List Char), text.map Char.toLower = (hexFull b).toList →
      (pre = [] ∨ pre ∈ hexPrefixes) →
        parseTopicHex (String.ofList (pre ++ text)) = some (.ok b)) ∧
    (∀ ss58 s b, TreatedAsHex (trim s.toList) → (parseAccount ss58 s = some (.ok b) ↔
      parseTopicHex (String.ofList (trim s.toList)) = some (.ok b))) ∧
    (∀ ss58 s, ¬ TreatedAsHex (trim s.toList) →
      parseAccount ss58 s = some (match ss58.fromSs58check (trim s.toList) with
        | .ok account => .ok account
        | .error e => .error
            (s!"--account must be an SS58 address or 32-byte hex (with or without 0x); " ++
              s!"{ss58.debugText (trim s.toList)} is neither ({e})"))) ∧
    (∀ s, parseTopicHex s ≠ none) ∧ (∀ ss58 s, parseAccount ss58 s ≠ none) := by
  refine ⟨fun s b => parseTopicHex_ok, ?_, ?_, ?_, ?_, parseTopicHex_ne_none,
    parseAccount_ne_none⟩
  · exact fun s text b htext hb => hexFull_of_denoted htext hb
  · exact fun b text pre htext hpre => parseTopicHex_hexFull htext hpre
  · exact fun ss58 s b h => parseAccount_hex ss58 h
  · exact fun ss58 s h => parseAccount_ss58 ss58 h

end StatementStore
