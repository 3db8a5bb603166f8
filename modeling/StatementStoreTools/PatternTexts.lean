import StatementStoreTools.DashNames
import StatementStoreTools.Loops
import StatementStoreTools.MessagePattern

/-!
# Which texts denote a message pattern

`PartReads` says what a part of the `--messages-pattern` argument means: behind
the whitespace around it, a number, a colon and a number.  `Malformed` lists
what can be wrong with a part.  Every part is one or the other, and the parser
knows which (`parsePart_ok`, `parsePart_error`).

* `parseMessagesPattern_ok` — a pattern is accepted exactly when each part
  between two commas reads as the pair in its place;
* `parseMessagesPattern_renderPattern` — a pattern that is written out, with any
  whitespace around its parts, is read back;
* `parseMessagesPattern_error` — it is refused exactly when a part is malformed.
-/

namespace StatementStore

open DashNames

/-! ## Numbers -/

/-- The text without an optional `+` in front. -/
def withoutPlus : List Char → List Char
  | '+' :: rest => rest
  | text => text

/-- `text` is an optional `+` and the decimal digits of `n`, leading zeros
allowed. -/
structure NumberText (text : List Char) (n : Nat) : Prop where
  ne_nil : withoutPlus text ≠ []
  digits : ∀ c ∈ withoutPlus text, c.isDigit = true
  value : Nat.ofDigitChars 10 (withoutPlus text) 0 = n

/-- What is wrong with a text that is no `usize`. -/
inductive BadNumber (text : List Char) : Prop
  | empty (h : withoutPlus text = [])
  | nonDigit (c : Char) (h : c ∈ withoutPlus text) (hc : c.isDigit = false)
  | tooLarge (n : Nat) (h : NumberText text n) (hn : 2 ^ 64 ≤ n)

section Numbers

variable {text : List Char} {n : Nat} {v : UInt64} {c : Char}

theorem withoutPlus_of_ne {rest : List Char} (h : c ≠ '+') :
    withoutPlus (c :: rest) = c :: rest := by
  rw [withoutPlus]
  exact fun _ heq => h (List.cons.inj heq).1

theorem parseUsize_eq (text : List Char) : parseUsize text =
    if withoutPlus text = [] then none
    else if (withoutPlus text).all Char.isDigit then
      if Nat.ofDigitChars 10 (withoutPlus text) 0 < 2 ^ 64 then
        some (UInt64.ofNat (Nat.ofDigitChars 10 (withoutPlus text) 0))
      else none
    else none := by
  cases text with
  | nil => rfl
  | cons c rest =>
      by_cases hc : c = '+'
      · subst hc
        rfl
      · rw [withoutPlus_of_ne hc, parseUsize]
        exact fun _ heq => hc (List.cons.inj heq).1

/-- **What `usize` parses**: numbers below `2 ^ 64`. -/
theorem parseUsize_eq_some : parseUsize text = some v ↔ NumberText text v.toNat := by
  rw [parseUsize_eq]
  constructor
  · intro h
    split at h
    · cases h
    · split at h
      · rename_i hne hdigits
        split at h
        · rename_i hlt
          obtain rfl := Option.some.inj h
          refine ⟨hne, List.all_eq_true.mp hdigits, ?_⟩
          rw [UInt64.toNat_ofNat_of_lt' hlt]
        · cases h
      · cases h
  · intro h
    have hlt : Nat.ofDigitChars 10 (withoutPlus text) 0 < 2 ^ 64 := by
      rw [h.value]
      exact v.toNat_lt
    rw [if_neg h.ne_nil, if_pos (List.all_eq_true.mpr h.digits), if_pos hlt, h.value,
      UInt64.ofNat_toNat]

theorem parseUsize_eq_none : parseUsize text = none ↔ BadNumber text := by
  constructor
  · intro h
    by_cases hempty : withoutPlus text = []
    · exact .empty hempty
    · by_cases hdigits : ∀ c ∈ withoutPlus text, c.isDigit = true
      · refine .tooLarge _ ⟨hempty, hdigits, rfl⟩ ?_
        by_contra hlt
        rw [parseUsize_eq, if_neg hempty, if_pos (List.all_eq_true.mpr hdigits),
          if_pos (Nat.lt_of_not_le hlt)] at h
        cases h
      · push Not at hdigits
        obtain ⟨c, hmem, hc⟩ := hdigits
        exact .nonDigit c hmem (Bool.eq_false_iff.mpr hc)
  · intro hbad
    cases hparse : parseUsize text with
    | none => rfl
    | some v =>
        have h := parseUsize_eq_some.mp hparse
        cases hbad with
        | empty hempty => exact absurd hempty h.ne_nil
        | nonDigit c hmem hc =>
            rw [h.digits c hmem] at hc
            cases hc
        | tooLarge n hn hle =>
            have hlt := v.toNat_lt
            rw [← h.value, hn.value] at hlt
            omega

/-- A number is made of digits, behind a `+` at most. -/
theorem NumberText.mem (h : NumberText text n) (hc : c ∈ text) : c = '+' ∨ c.isDigit = true := by
  have hdigits := h.digits
  unfold withoutPlus at hdigits
  split at hdigits
  · rcases List.mem_cons.mp hc with rfl | hc
    · exact Or.inl rfl
    · exact Or.inr (hdigits c hc)
  · exact Or.inr (hdigits c hc)

theorem numberText_decimal (n : Nat) : NumberText (decimal n) n := by
  have hplus : withoutPlus (decimal n) = decimal n := by
    cases htext : decimal n with
    | nil => rfl
    | cons c rest =>
        apply withoutPlus_of_ne
        intro heq
        apply not_mem_decimal (show '+'.isDigit = false by decide) n
        rw [htext, heq]
        exact List.mem_cons_self
  refine ⟨?_, ?_, ?_⟩
  · rw [hplus]
    exact Nat.toDigits_ne_nil
  · rw [hplus]
    exact fun c hc => Nat.isDigit_of_mem_toDigits (by decide) (by decide) hc
  · rw [hplus]
    exact Nat.ofDigitChars_ten_toDigits

theorem isWhitespace_not_digit (h : isWhitespace c = true) : c ≠ '+' ∧ c ≠ ':' ∧ c ≠ ',' ∧
    c.isDigit = false := by
  refine ⟨?_, ?_, ?_, ?_⟩
  · intro heq
    subst heq
    cases h
  · intro heq
    subst heq
    cases h
  · intro heq
    subst heq
    cases h
  · rw [Bool.eq_false_iff]
    intro hdigit
    have hbounds : 48 ≤ c.toNat ∧ c.toNat ≤ 57 := Char.isDigit_iff_toNat.mp hdigit
    simp only [isWhitespace, Bool.or_eq_true, Bool.and_eq_true, decide_eq_true_eq] at h
    omega

end Numbers

/-! ## Parts -/

section Parts

variable {part a b : List Char} {pair : UInt64 × UInt64}

theorem splitOnce_eq_some {sep : Char} :
    splitOnce sep part = some (a, b) ↔ part = a ++ sep :: b ∧ sep ∉ a := by
  induction part generalizing a with
  | nil => simp [splitOnce]
  | cons c part ih =>
      rw [splitOnce]
      by_cases hc : c = sep
      · rw [if_pos hc]
        cases a with
        | nil => simp [hc, eq_comm]
        | cons d a => grind
      · rw [if_neg hc, Option.map_eq_some_iff]
        constructor
        · intro h
          obtain ⟨p, hp, heq⟩ := h
          obtain ⟨rfl, rfl⟩ := Prod.mk.inj heq
          obtain ⟨rfl, hmem⟩ := ih.mp hp
          exact ⟨rfl, by simp [hmem, Ne.symm hc]⟩
        · intro h
          obtain ⟨hpart, hmem⟩ := h
          cases a with
          | nil => exact absurd (List.cons.inj hpart).1 hc
          | cons d a =>
              obtain ⟨rfl, rfl⟩ := List.cons.inj hpart
              rw [List.mem_cons, not_or] at hmem
              exact ⟨(a, b), ih.mpr ⟨rfl, hmem.2⟩, rfl⟩

theorem splitOnce_eq_none {sep : Char} : splitOnce sep part = none ↔ sep ∉ part := by
  induction part with
  | nil => simp [splitOnce]
  | cons c part ih =>
      by_cases hc : c = sep
      · simp [splitOnce, hc]
      · simp [splitOnce, hc, ih, Ne.symm hc]

theorem dropWhile_stops {text : List Char} (hne : text ≠ [])
    (h : ∀ c ∈ text, isWhitespace c = false) (rest : List Char) :
    (text ++ rest).dropWhile isWhitespace = text ++ rest := by
  cases text with
  | nil => exact absurd rfl hne
  | cons c text =>
      rw [List.cons_append, List.dropWhile_cons_of_neg]
      simp [h c List.mem_cons_self]

/-- Whitespace around a text without any is cut off. -/
theorem trim_padded {lead body trail : List Char} (hne : body ≠ [])
    (hlead : ∀ c ∈ lead, isWhitespace c = true) (hbody : ∀ c ∈ body, isWhitespace c = false)
    (htrail : ∀ c ∈ trail, isWhitespace c = true) : trim (lead ++ body ++ trail) = body := by
  have hrev : ∀ c ∈ body.reverse, isWhitespace c = false :=
    fun c hc => hbody c (List.mem_reverse.mp hc)
  have hstop := dropWhile_stops (List.reverse_ne_nil_iff.mpr hne) hrev []
  rw [List.append_nil] at hstop
  rw [trim, List.append_assoc, List.dropWhile_append_of_pos hlead, dropWhile_stops hne hbody,
    List.rdropWhile, List.reverse_append,
    List.dropWhile_append_of_pos (fun c hc => htrail c (List.mem_reverse.mp hc)), hstop,
    List.reverse_reverse]

/-- The part reads as the pair: the texts before and after its first colon are
the two numbers. -/
def PartReads (part : List Char) (pair : UInt64 × UInt64) : Prop :=
  ∃ countText sizeText, trim part = countText ++ ':' :: sizeText ∧ ':' ∉ countText ∧
    NumberText countText pair.1.toNat ∧ NumberText sizeText pair.2.toNat

/-- What can be wrong with a part. -/
inductive Malformed (part : List Char) : Prop
  | noColon (h : ':' ∉ trim part)
  | secondColon (a b c : List Char) (h : trim part = a ++ ':' :: (b ++ ':' :: c))
  | count (a b : List Char) (h : trim part = a ++ ':' :: b) (first : ':' ∉ a) (bad : BadNumber a)
  | size (a b : List Char) (h : trim part = a ++ ':' :: b) (first : ':' ∉ a) (bad : BadNumber b)
  | innerSpace (c : Char) (h : c ∈ trim part) (hc : isWhitespace c = true)

theorem parsePart_ok : parsePart part = .ok pair ↔ PartReads part pair := by
  constructor
  · intro h
    unfold parsePart at h
    dsimp only at h
    split at h
    · cases h
    · rename_i countText sizeText hsplit
      split at h
      · cases h
      · rename_i count hcount
        split at h
        · cases h
        · rename_i size hsize
          obtain rfl := Except.ok.inj h
          obtain ⟨htrim, hcolon⟩ := splitOnce_eq_some.mp hsplit
          exact ⟨countText, sizeText, htrim, hcolon, parseUsize_eq_some.mp hcount,
            parseUsize_eq_some.mp hsize⟩
  · intro h
    obtain ⟨countText, sizeText, htrim, hcolon, hcount, hsize⟩ := h
    have hsplit := splitOnce_eq_some.mpr ⟨htrim, hcolon⟩
    simp only [parsePart, hsplit, parseUsize_eq_some.mpr hcount, parseUsize_eq_some.mpr hsize]

/-- The characters of a part that reads as a pair. -/
theorem PartReads.mem (h : PartReads part pair) {c : Char} (hc : c ∈ trim part) :
    c = '+' ∨ c = ':' ∨ c.isDigit = true := by
  obtain ⟨countText, sizeText, htrim, -, hcount, hsize⟩ := h
  rw [htrim, List.mem_append, List.mem_cons] at hc
  rcases hc with hc | hc | hc
  · rcases hcount.mem hc with hplus | hdigit
    · exact Or.inl hplus
    · exact Or.inr (Or.inr hdigit)
  · exact Or.inr (Or.inl hc)
  · rcases hsize.mem hc with hplus | hdigit
    · exact Or.inl hplus
    · exact Or.inr (Or.inr hdigit)

theorem NumberText.colon_not_mem {text : List Char} {n : Nat} (h : NumberText text n) :
    ':' ∉ text := by
  intro hmem
  rcases h.mem hmem with heq | heq <;> cases heq

/-- A part never reads as a pair and is malformed. -/
theorem Malformed.not_partReads (hbad : Malformed part) : ¬ PartReads part pair := by
  intro h
  obtain ⟨countText, sizeText, htrim, hcolon, hcount, hsize⟩ := id h
  cases hbad with
  | noColon hnone =>
      rw [htrim] at hnone
      exact hnone (List.mem_append_right _ List.mem_cons_self)
  | secondColon a b c heq =>
      have htwo := congrArg (List.count ':') (htrim.symm.trans heq)
      simp only [List.count_append, List.count_cons_self,
        List.count_eq_zero_of_not_mem hcount.colon_not_mem,
        List.count_eq_zero_of_not_mem hsize.colon_not_mem] at htwo
      omega
  | count a b heq hfirst hbad =>
      obtain ⟨rfl, -⟩ := cut_first hcolon hfirst (htrim.symm.trans heq)
      have hnone := parseUsize_eq_none.mpr hbad
      rw [parseUsize_eq_some.mpr hcount] at hnone
      cases hnone
  | size a b heq hfirst hbad =>
      obtain ⟨-, rfl⟩ := cut_first hcolon hfirst (htrim.symm.trans heq)
      have hnone := parseUsize_eq_none.mpr hbad
      rw [parseUsize_eq_some.mpr hsize] at hnone
      cases hnone
  | innerSpace c hmem hc =>
      obtain ⟨hplus, hcol, -, hdigit⟩ := isWhitespace_not_digit hc
      rcases h.mem hmem with heq | heq | heq
      · exact hplus heq
      · exact hcol heq
      · rw [hdigit] at heq
        cases heq

/-- **A part is refused** exactly when it is malformed. -/
theorem parsePart_error : (∃ e, parsePart part = .error e) ↔ Malformed part := by
  constructor
  · intro h
    cases hsplit : splitOnce ':' (trim part) with
    | none => exact .noColon (splitOnce_eq_none.mp hsplit)
    | some p =>
        obtain ⟨a, b⟩ := p
        obtain ⟨htrim, hcolon⟩ := splitOnce_eq_some.mp hsplit
        cases hcount : parseUsize a with
        | none => exact .count a b htrim hcolon (parseUsize_eq_none.mp hcount)
        | some count =>
            cases hsize : parseUsize b with
            | none => exact .size a b htrim hcolon (parseUsize_eq_none.mp hsize)
            | some size =>
                obtain ⟨e, he⟩ := h
                simp [parsePart, hsplit, hcount, hsize] at he
  · intro hbad
    cases hparse : parsePart part with
    | error e => exact ⟨e, rfl⟩
    | ok pair => exact absurd (parsePart_ok.mp hparse) hbad.not_partReads

end Parts

/-! ## Patterns -/

section Patterns

variable {pattern : String} {pairs : List (UInt64 × UInt64)}

/-- **What the parser accepts**: as many parts as pairs, each reading as its
pair. -/
theorem parseMessagesPattern_ok : parseMessagesPattern pattern = .ok pairs ↔
    List.Forall₂ PartReads (pattern.toList.splitOn ',') pairs := by
  rw [parseMessagesPattern, Loops.mapM_ok]
  have hparts : (fun part pair => parsePart part = .ok pair) = PartReads := by
    funext part pair
    exact propext parsePart_ok
  rw [hparts]

/-- **What it refuses**: one malformed part is enough. -/
theorem parseMessagesPattern_error : (∃ e, parseMessagesPattern pattern = .error e) ↔
    ∃ part ∈ pattern.toList.splitOn ',', Malformed part := by
  rw [parseMessagesPattern, Loops.mapM_error]
  simp only [parsePart_error]

/-- A pair and the whitespace to write around it. -/
structure PaddedPair where
  pair : UInt64 × UInt64
  lead : List Char
  trail : List Char
  lead_whitespace : ∀ c ∈ lead, isWhitespace c = true
  trail_whitespace : ∀ c ∈ trail, isWhitespace c = true

/-- `count:size`. -/
def renderPair (pair : UInt64 × UInt64) : List Char :=
  decimal pair.1.toNat ++ ':' :: decimal pair.2.toNat

def PaddedPair.render (p : PaddedPair) : List Char :=
  p.lead ++ renderPair p.pair ++ p.trail

/-- The parts, joined by commas. -/
def renderPattern (parts : List PaddedPair) : String :=
  String.ofList ([','].intercalate (parts.map PaddedPair.render))

theorem mem_renderPair {pair : UInt64 × UInt64} {c : Char} (h : c ∈ renderPair pair) :
    c = ':' ∨ c.isDigit = true := by
  rw [renderPair, List.mem_append, List.mem_cons] at h
  rcases h with hc | hc | hc
  · exact Or.inr (Nat.isDigit_of_mem_toDigits (by decide) (by decide) hc)
  · exact Or.inl hc
  · exact Or.inr (Nat.isDigit_of_mem_toDigits (by decide) (by decide) hc)

theorem PaddedPair.trim_render (p : PaddedPair) : trim p.render = renderPair p.pair := by
  apply trim_padded
  · simp [renderPair]
  · exact p.lead_whitespace
  · intro c hc
    rw [Bool.eq_false_iff]
    intro hspace
    obtain ⟨-, hcolon, -, hdigit⟩ := isWhitespace_not_digit hspace
    rcases mem_renderPair hc with heq | heq
    · exact hcolon heq
    · rw [hdigit] at heq
      cases heq
  · exact p.trail_whitespace

theorem PaddedPair.partReads (p : PaddedPair) : PartReads p.render p.pair :=
  ⟨_, _, p.trim_render, not_mem_decimal (by decide) _, numberText_decimal _, numberText_decimal _⟩

theorem PaddedPair.comma_not_mem (p : PaddedPair) : ',' ∉ p.render := by
  intro h
  rw [PaddedPair.render, List.mem_append, List.mem_append] at h
  rcases h with (h | h) | h
  · exact (isWhitespace_not_digit (p.lead_whitespace _ h)).2.2.1 rfl
  · rcases mem_renderPair h with heq | heq <;> cases heq
  · exact (isWhitespace_not_digit (p.trail_whitespace _ h)).2.2.1 rfl

/-- **A pattern that is written out is read back.** -/
theorem parseMessagesPattern_renderPattern {parts : List PaddedPair} (h : parts ≠ []) :
    parseMessagesPattern (renderPattern parts) = .ok (parts.map (·.pair)) := by
  have hsplit : (renderPattern parts).toList.splitOn ',' = parts.map PaddedPair.render := by
    rw [renderPattern, String.toList_ofList]
    apply List.splitOn_intercalate
    · intro text htext
      obtain ⟨p, -, rfl⟩ := List.mem_map.mp htext
      exact p.comma_not_mem
    · simpa using h
  rw [parseMessagesPattern_ok, hsplit, List.forall₂_map_left_iff, List.forall₂_map_right_iff,
    List.forall₂_same]
  exact fun p _ => p.partReads

end Patterns

/-- **The argument and its reading**: written-out patterns are read back, an
accepted argument has one pair for each part, and one malformed part is enough
to refuse it. -/
theorem parseMessagesPattern_reads :
    (∀ parts : List PaddedPair, parts ≠ [] →
      parseMessagesPattern (renderPattern parts) = .ok (parts.map (·.pair))) ∧
    (∀ pattern pairs, parseMessagesPattern pattern = .ok pairs ↔
      List.Forall₂ PartReads (pattern.toList.splitOn ',') pairs) ∧
    (∀ pattern, (∃ e, parseMessagesPattern pattern = .error e) ↔
      ∃ part ∈ pattern.toList.splitOn ',', Malformed part) := by
  refine ⟨fun parts h => parseMessagesPattern_renderPattern h, ?_, ?_⟩
  · exact fun pattern pairs => parseMessagesPattern_ok
  · exact fun pattern => parseMessagesPattern_error

example : parseMessagesPattern "5:512, 3:1024" = .ok [(5, 512), (3, 1024)] := by decide

end StatementStore
