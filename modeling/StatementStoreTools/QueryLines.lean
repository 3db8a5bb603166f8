import StatementStoreTools.DurationTexts
import StatementStoreTools.HexParsing
import StatementStoreTools.LabelledFields
import StatementStoreTools.QueryIsolation

/-!
# The log of `query` as a record of its reports

`log_endpoint_report` writes a block of lines for every endpoint: a header with
the figures, or with the error, and one line for every statement.  The header
tells how many lines follow, so that the log of a run falls apart into the
blocks in one way only, and every line is a filled template whose values do not
contain what ends them.

* `statementLine_inj` — the line of a statement shows the whole of its summary,
  and through the time that remains the time of the report;
* `queryReportLines_append_inj` — the block of an endpoint ends where it ends,
  and determines the report;
* `query_log_records` — runs over the same endpoints that log the same lines
  have the same reports, and have asked for the same topic.
-/

namespace StatementStore

open DashNames HexDigits LabelledFields Loops UnitNumbers

/-- A text in an interpolated string stands for itself. -/
theorem toString_text (text : String) : toString text = text := rfl

/-! ## Hashes and keys -/

section Hex

variable {n : Nat} {c : Char} {b : Bytes32} {o : Option Bytes32}

theorem isHexDigit_hexDigit (hn : n < 16) : (hexDigit n).isHexDigit = true := by
  interval_cases n <;> rfl

theorem toLower_hexDigit (hn : n < 16) : (hexDigit n).toLower = hexDigit n := by
  interval_cases n <;> rfl

/-- A character of the text of some bytes is the digit of a half of one of them. -/
theorem mem_hexFull (h : c ∈ (hexFull b).toList) : ∃ n < 16, c = hexDigit n := by
  rw [hexFull_toList, List.mem_flatMap] at h
  obtain ⟨byte, -, hc⟩ := h
  have hbyte := byte.toNat_lt
  simp only [hexByte, List.mem_cons, List.not_mem_nil, or_false] at hc
  rcases hc with rfl | rfl
  · exact ⟨byte.toNat / 16, by omega, rfl⟩
  · exact ⟨byte.toNat % 16, by omega, rfl⟩

theorem not_mem_hexFull (hc : c.isHexDigit = false) : c ∉ (hexFull b).toList := by
  intro h
  obtain ⟨n, hn, rfl⟩ := mem_hexFull h
  rw [isHexDigit_hexDigit hn] at hc
  cases hc

/-- The text denotes the bytes. -/
theorem denoted_hexFull (b : Bytes32) : denoted (hexFull b).toList = b.toList := by
  have hlower : (hexFull b).toList.map Char.toLower = b.toList.flatMap hexByte := by
    rw [← hexFull_toList, List.map_congr_left (g := id), List.map_id]
    intro c hc
    obtain ⟨n, hn, rfl⟩ := mem_hexFull hc
    exact toLower_hexDigit hn
  exact (map_toLower_eq_iff.mp hlower).2.2

theorem hexFull_injective : Function.Injective hexFull := by
  intro b b' h
  apply Vector.toList_inj.mp
  rw [← denoted_hexFull b, h, denoted_hexFull b']

/-- The text of a key or of a topic. -/
theorem optHex_some_toList (b : Bytes32) :
    (optHex (some b)).toList = '0' :: 'x' :: (hexFull b).toList := by
  change ("0x" ++ hexFull b).toList = _
  rw [String.toList_append]
  rfl

theorem optHex_some_ne {text : List Char} (h : text.head? ≠ some '0') :
    (optHex (some b)).toList ≠ text := by
  intro heq
  rw [← heq, optHex_some_toList] at h
  exact h rfl

theorem optHex_injective : Function.Injective optHex := by
  intro o o' h
  have hlist := String.toList_inj.mpr h
  cases o with
  | none =>
      cases o' with
      | none => rfl
      | some b' => exact absurd hlist.symm (optHex_some_ne (by decide))
  | some b =>
      cases o' with
      | none => exact absurd hlist (optHex_some_ne (by decide))
      | some b' =>
          rw [optHex_some_toList, optHex_some_toList] at hlist
          have htail := (List.cons.inj (List.cons.inj hlist).2).2
          rw [hexFull_injective (String.toList_inj.mp htail)]

theorem not_mem_optHex (hc : c.isHexDigit = false) (hx : c ∉ ("none" ++ "0x").toList) :
    c ∉ (optHex o).toList := by
  rw [String.toList_append, List.mem_append, not_or] at hx
  cases o with
  | none => exact hx.1
  | some b =>
      rw [optHex_some_toList]
      intro h
      rcases List.mem_cons.mp h with rfl | h
      · exact hx.2 (by decide)
      · rcases List.mem_cons.mp h with rfl | h
        · exact hx.2 (by decide)
        · exact not_mem_hexFull hc h

end Hex

/-! ## The line of a statement -/

section StatementLine

variable {now now' : UInt64} {i i' : Nat} {s s' : StatementSummary} {c : Char}

theorem topics_inj {topics topics' : List Bytes32}
    (h : ",".intercalate (topics.map fun t => optHex (some t)) =
      ",".intercalate (topics'.map fun t => optHex (some t))) : topics = topics' := by
  have hvalues : ∀ topics : List Bytes32, ∀ text ∈
      (topics.map fun t => optHex (some t)).map String.toList, text ≠ [] ∧ ',' ∉ text := by
    intro topics text htext
    simp only [List.map_map, List.mem_map, Function.comp_apply] at htext
    obtain ⟨t, -, rfl⟩ := htext
    exact ⟨by simp [optHex_some_toList], not_mem_optHex (by decide) (by decide)⟩
  have hlist := String.toList_inj.mpr h
  rw [String.toList_intercalate, String.toList_intercalate] at hlist
  have hsame := intercalate_inj (hvalues topics) (hvalues topics') hlist
  rw [List.map_map, List.map_map] at hsame
  apply List.map_injective_iff.mpr _ hsame
  intro t t' ht
  exact Option.some.inj (optHex_injective (String.toList_inj.mp ht))

/-- The values of the line, each with the character that ends it. -/
def statementTemplate : List (Char × List Char) :=
  [(']', " hash=0x".toList), (' ', "expires_at=".toList), (' ', "(".toList),
    (')', " seq=".toList), (' ', "data_len=".toList), (' ', "account=".toList),
    (' ', "channel=".toList), (' ', "topics=[".toList), (']', [])]

def statementValues (nowSecs : UInt64) (i : Nat) (s : StatementSummary) : List (List Char) :=
  [decimal i, (hexFull s.hash).toList, decimal s.expirySecs.toNat,
    (formatRemaining nowSecs s.expirySecs).toList, decimal s.seq.toNat, decimal s.dataLen,
    (optHex s.account).toList, (optHex s.channel).toList,
    (",".intercalate (s.topics.map fun t => optHex (some t))).toList]

theorem statementLine_toList (now : UInt64) (i : Nat) (s : StatementSummary) :
    (statementLine now i s).toList =
      "  [".toList ++ fill statementTemplate (statementValues now i s) := by
  simp only [statementLine, statementTemplate, statementValues, fill, toList_toString, toString_text,
    String.toList_append, optHex, List.append_assoc, String.reduceToList, List.cons_append,
    List.nil_append]

theorem not_mem_formatDurationSecs (hdigit : c.isDigit = false)
    (hletter : ∀ u, timeUnits.letter u ≠ c) (secs : UInt64) :
    c ∉ (formatDurationSecs secs).toList := by
  rw [formatDurationSecs_toList, Units.render, List.mem_flatMap]
  intro h
  obtain ⟨field, -, hc⟩ := h
  rcases List.mem_append.mp hc with hc | hc
  · exact not_mem_decimal hdigit _ hc
  · exact hletter field.2 (List.mem_singleton.mp hc).symm

/-- The time that remains stands in brackets, and does not close them. -/
theorem not_mem_formatRemaining (now : UInt64) (expiry : UInt32) :
    ')' ∉ (formatRemaining now expiry).toList := by
  have hduration : ∀ secs, ')' ∉ (formatDurationSecs secs).toList := by
    apply not_mem_formatDurationSecs
    · decide
    · intro u
      cases u <;> decide
  simp only [formatRemaining]
  split
  · simp [toString_text, hduration]
  · split
    · simp [toString_text, hduration]
    · decide

theorem statementValues_fit (now : UInt64) (i : Nat) (s : StatementSummary) :
    Fits statementTemplate (statementValues now i s) := by
  have hnum : ∀ {c : Char} (n : Nat), c.isDigit = false → c ∉ decimal n :=
    fun n hc => not_mem_decimal hc n
  have hopt : ∀ o, ' ' ∉ (optHex o).toList := fun o => not_mem_optHex (by decide) (by decide)
  have htopics : ']' ∉ (",".intercalate (s.topics.map fun t => optHex (some t))).toList := by
    rw [String.toList_intercalate]
    intro h
    rcases mem_intercalate h with h | h
    · exact absurd h (by decide)
    · obtain ⟨text, htext, hc⟩ := h
      simp only [List.map_map, List.mem_map, Function.comp_apply] at htext
      obtain ⟨t, -, rfl⟩ := htext
      exact not_mem_optHex (by decide) (by decide) hc
  unfold Fits statementTemplate statementValues
  simp only [List.forall₂_cons, List.forall₂_nil_left_iff, and_true]
  exact ⟨hnum _ (by decide), not_mem_hexFull (by decide), hnum _ (by decide),
    not_mem_formatRemaining _ _, hnum _ (by decide), hnum _ (by decide), hopt _, hopt _, htopics⟩

/-- **The line of a statement** shows its place in the report, its summary and
the time at which it was written. -/
theorem statementLine_inj (h : statementLine now i s = statementLine now' i' s') :
    i = i' ∧ s = s' ∧ now = now' := by
  have hlist := String.toList_inj.mpr h
  rw [statementLine_toList, statementLine_toList] at hlist
  have hvalues := fill_inj (statementValues_fit now i s) (statementValues_fit now' i' s')
    (List.append_cancel_left hlist)
  simp only [statementValues, List.cons.injEq, and_true] at hvalues
  obtain ⟨hi, hhash, hexpiry, hremaining, hseq, hlen, haccount, hchannel, htopics⟩ := hvalues
  have hexpiry := UInt32.toNat_inj.mp (decimal_injective hexpiry)
  refine ⟨decimal_injective hi, ?_, ?_⟩
  · cases s
    cases s'
    have hhash := hexFull_injective (String.toList_inj.mp hhash)
    have hseq := UInt32.toNat_inj.mp (decimal_injective hseq)
    have hlen := decimal_injective hlen
    have haccount := optHex_injective (String.toList_inj.mp haccount)
    have hchannel := optHex_injective (String.toList_inj.mp hchannel)
    have htopics := topics_inj (String.toList_inj.mp htopics)
    simp_all
  · have hdiff := formatRemaining_determines (String.toList_inj.mp hremaining)
    rw [hexpiry] at hdiff
    exact UInt64.toNat_inj.mp (by omega)

/-- The lines of the statements, numbered from `k` on. -/
theorem statementLines_inj {k : Nat} {ss ss' : List StatementSummary}
    (h : ((ss.zipIdx k).map fun p => statementLine now p.2 p.1) =
      (ss'.zipIdx k).map fun p => statementLine now' p.2 p.1) :
    ss = ss' ∧ (ss ≠ [] → now = now') := by
  induction ss generalizing ss' k with
  | nil =>
      cases ss' with
      | nil => exact ⟨rfl, by simp⟩
      | cons s' ss' => exact absurd h (by simp)
  | cons s ss ih =>
      cases ss' with
      | nil => exact absurd h (by simp)
      | cons s' ss' =>
          rw [List.zipIdx_cons, List.zipIdx_cons, List.map_cons, List.map_cons] at h
          obtain ⟨hline, hlines⟩ := List.cons.inj h
          obtain ⟨-, rfl, hnow⟩ := statementLine_inj hline
          obtain ⟨rfl, -⟩ := ih hlines
          exact ⟨rfl, fun _ => hnow⟩

end StatementLine

/-! ## The block of an endpoint -/

section Block

variable {now now' : UInt64} {config config' : QueryConfig} {r r' : QueryEndpointReport}

/-- An endpoint that could not be queried has nothing to report but the error. -/
def Settled (r : QueryEndpointReport) : Prop :=
  r.error ≠ none → r.statements = [] ∧ r.undecodable = 0

theorem filterLabel_eq (topic : Option Bytes32) :
    (filterLabel topic).toList = match topic with
      | some t => (optHex (some t)).toList
      | none => "any".toList := by
  cases topic <;> rfl

theorem filterLabel_injective : Function.Injective filterLabel := by
  intro topic topic' h
  have hlist := String.toList_inj.mpr h
  rw [filterLabel_eq, filterLabel_eq] at hlist
  cases topic with
  | none =>
      cases topic' with
      | none => rfl
      | some t' => exact absurd hlist.symm (optHex_some_ne (by decide))
  | some t =>
      cases topic' with
      | none => exact absurd hlist (optHex_some_ne (by decide))
      | some t' => exact optHex_injective (String.toList_inj.mp hlist)

theorem blank_not_mem_filterLabel (topic : Option Bytes32) :
    ' ' ∉ (filterLabel topic).toList := by
  rw [filterLabel_eq]
  cases topic with
  | none => decide
  | some t => exact not_mem_optHex (by decide) (by decide)

/-- The header of an endpoint whose report is in order. -/
def headerTemplate : List (Char × List Char) :=
  [(' ', "n=".toList), (' ', "undecodable=".toList),
    (' ', "(sorted by expiry, soonest first)".toList)]

def headerValues (config : QueryConfig) (r : QueryEndpointReport) : List (List Char) :=
  [(filterLabel config.topic).toList, decimal r.statements.length, decimal r.undecodable]

/-- The first line of the block, behind the name of the endpoint. -/
def headerRest (config : QueryConfig) (r : QueryEndpointReport) : List Char :=
  match r.error with
  | some e => (filterLabel config.topic).toList ++ ' ' :: ("failed: ".toList ++ e.toList)
  | none => fill headerTemplate (headerValues config r)

/-- What the block has below its first line. -/
def bodyLines (nowSecs : UInt64) (r : QueryEndpointReport) : List String :=
  match r.error with
  | some _ => []
  | none =>
      if r.statements = [] then ["  (no matching statements)"]
      else r.statements.zipIdx.map fun p => statementLine nowSecs p.2 p.1

theorem queryReportLines_eq (now : UInt64) (config : QueryConfig) (r : QueryEndpointReport) :
    ∃ header, queryReportLines now config r = header :: bodyLines now r ∧
      header.toList = "query endpoint=".toList ++
        (r.endpoint.toList ++ (" filter=".toList ++ headerRest config r)) := by
  cases herror : r.error with
  | some e =>
      simp only [queryReportLines, bodyLines, headerRest, herror]
      refine ⟨_, rfl, ?_⟩
      simp only [toString_text, String.toList_append, List.append_assoc, String.reduceToList,
        List.cons_append, List.nil_append]
  | none =>
      simp only [queryReportLines, bodyLines, headerRest, herror]
      refine ⟨_, rfl, ?_⟩
      simp only [toString_text, String.toList_append, List.append_assoc, String.reduceToList,
        List.cons_append, List.nil_append, headerTemplate, headerValues, fill, toList_toString]

theorem bodyLines_length (now : UInt64) (r : QueryEndpointReport) : (bodyLines now r).length =
    if r.error = none then max 1 r.statements.length else 0 := by
  unfold bodyLines
  cases r.error with
  | some e => rfl
  | none =>
      by_cases hempty : r.statements = []
      · simp [hempty]
      · have hpos := List.length_pos_iff.mpr hempty
        simp only [if_neg hempty, List.length_map, List.length_zipIdx, if_true]
        omega

theorem headerValues_fit (config : QueryConfig) (r : QueryEndpointReport) :
    Fits headerTemplate (headerValues config r) := by
  unfold Fits headerTemplate headerValues
  simp only [List.forall₂_cons, List.forall₂_nil_left_iff, and_true]
  exact ⟨blank_not_mem_filterLabel _, not_mem_decimal (by decide) _, not_mem_decimal (by decide) _⟩

/-- **The header** tells the topic, the error if there is one, and the figures. -/
theorem headerRest_inj (h : headerRest config r = headerRest config' r') :
    config.topic = config'.topic ∧ r.error = r'.error ∧
      (r.error = none → r.statements.length = r'.statements.length ∧
        r.undecodable = r'.undecodable) := by
  have hblank := blank_not_mem_filterLabel
  unfold headerRest at h
  cases herror : r.error with
  | some e =>
      cases herror' : r'.error with
      | some e' =>
          simp only [herror, herror'] at h
          obtain ⟨hlabel, htext⟩ := cut_first (hblank _) (hblank _) h
          have he := String.toList_inj.mp (List.append_cancel_left htext)
          rw [he]
          exact ⟨filterLabel_injective (String.toList_inj.mp hlabel), rfl, by simp⟩
      | none =>
          simp only [herror, herror', headerTemplate, headerValues, fill] at h
          obtain ⟨-, htext⟩ := cut_first (hblank _) (hblank _) h
          exact absurd htext (by simp)
  | none =>
      cases herror' : r'.error with
      | some e' =>
          simp only [herror, herror', headerTemplate, headerValues, fill] at h
          obtain ⟨-, htext⟩ := cut_first (hblank _) (hblank _) h
          exact absurd htext (by simp)
      | none =>
          simp only [herror, herror'] at h
          have hvalues := fill_inj (headerValues_fit config r) (headerValues_fit config' r') h
          simp only [headerValues, List.cons.injEq, and_true] at hvalues
          obtain ⟨hlabel, hlen, hbad⟩ := hvalues
          exact ⟨filterLabel_injective (String.toList_inj.mp hlabel), rfl,
            fun _ => ⟨decimal_injective hlen, decimal_injective hbad⟩⟩

/-- **The block of an endpoint** ends where its header says, and determines the
report. -/
theorem queryReportLines_append_inj {more more' : List String}
    (hname : r.endpoint = r'.endpoint) (hsettled : Settled r) (hsettled' : Settled r')
    (h : queryReportLines now config r ++ more = queryReportLines now' config' r' ++ more') :
    r = r' ∧ config.topic = config'.topic ∧ (r.statements ≠ [] → now = now') ∧ more = more' := by
  obtain ⟨header, hlines, hheader⟩ := queryReportLines_eq now config r
  obtain ⟨header', hlines', hheader'⟩ := queryReportLines_eq now' config' r'
  rw [hlines, hlines', List.cons_append, List.cons_append] at h
  obtain ⟨hfirst, hrest⟩ := List.cons.inj h
  have hrestLine : headerRest config r = headerRest config' r' := by
    have hsame := congrArg String.toList hfirst
    rw [hheader, hheader', hname] at hsame
    exact List.append_cancel_left (List.append_cancel_left (List.append_cancel_left hsame))
  obtain ⟨htopic, herror, hfigures⟩ := headerRest_inj hrestLine
  have hlength : (bodyLines now r).length = (bodyLines now' r').length := by
    rw [bodyLines_length, bodyLines_length, ← herror]
    by_cases hok : r.error = none
    · rw [if_pos hok, if_pos hok, (hfigures hok).1]
    · rw [if_neg hok, if_neg hok]
  obtain ⟨hbody, hmore⟩ := List.append_inj hrest hlength
  have hstatements : r.statements = r'.statements ∧ (r.statements ≠ [] → now = now') := by
    by_cases hok : r.error = none
    · have hlen := (hfigures hok).1
      unfold bodyLines at hbody
      rw [hok, ← herror, hok] at hbody
      by_cases hempty : r.statements = []
      · rw [hempty] at hlen
        rw [hempty, List.eq_nil_of_length_eq_zero hlen.symm]
        exact ⟨rfl, fun hne => absurd rfl hne⟩
      · have hempty' : r'.statements ≠ [] := by
          rw [← List.length_pos_iff, ← hlen, List.length_pos_iff]
          exact hempty
        simp only [if_neg hempty, if_neg hempty'] at hbody
        exact statementLines_inj hbody
    · rw [(hsettled hok).1, (hsettled' (herror ▸ hok)).1]
      exact ⟨rfl, fun hne => absurd rfl hne⟩
  have hundecodable : r.undecodable = r'.undecodable := by
    by_cases hok : r.error = none
    · exact (hfigures hok).2
    · rw [(hsettled hok).2, (hsettled' (herror ▸ hok)).2]
  refine ⟨?_, htopic, hstatements.2, hmore⟩
  cases r
  cases r'
  obtain ⟨hsame, -⟩ := hstatements
  simp_all

end Block

/-! ## The log of a run -/

section Run

variable {crates crates' : Crates} {clock clock' : Clock} {fuel fuel' : Nat}
  {config config' : QueryConfig} {w w' v v' : World}

/-- Reports with the times at which they were logged. -/
def reportLines (config : QueryConfig) (reports : List (QueryEndpointReport × UInt64)) :
    List String :=
  reports.flatMap fun p => queryReportLines p.2 config p.1

theorem queryEndpoint_settled {endpoint : String} {rpc : Handle} {r : QueryEndpointReport}
    (h : queryEndpoint crates fuel endpoint rpc config w = some (r, w')) : Settled r := by
  unfold queryEndpoint at h
  obtain ⟨filter, hfilter⟩ := filterFor_ok config.topic
  simp only [hfilter] at h
  rcases hsub : subscribeTopic rpc filter w with ⟨answer, w₁⟩
  rw [hsub] at h
  cases answer with
  | error e =>
      obtain ⟨rfl, -⟩ := Prod.mk.inj (Option.some.inj h)
      exact fun _ => ⟨rfl, rfl⟩
  | ok stream =>
      obtain ⟨dump, -, h⟩ := Option.map_eq_some_iff.mp h
      cases hresult : dump.result with
      | error e =>
          simp only [hresult] at h
          obtain ⟨rfl, -⟩ := Prod.mk.inj h
          exact fun _ => ⟨rfl, rfl⟩
      | ok payloads =>
          simp only [hresult] at h
          obtain ⟨rfl, -⟩ := Prod.mk.inj h
          exact fun hne => absurd rfl hne

/-- A run logs the blocks of its reports, one after the other. -/
theorem runQuery_lines {endpoints : List (String × Handle)}
    {perEndpoint : List QueryEndpointReport}
    (h : runQuery crates clock fuel endpoints config w = some (.ok perEndpoint, w')) :
    ∃ reports : List (QueryEndpointReport × UInt64),
      perEndpoint = reports.map (·.1) ∧
      reports.map (·.1.endpoint) = endpoints.map (·.1) ∧
      (∀ p ∈ reports, Settled p.1) ∧ w'.log = w.log ++ reportLines config reports := by
  unfold runQuery at h
  cases hvalid : config.validate with
  | error e =>
      rw [hvalid] at h
      cases h
  | ok _ =>
      simp only [hvalid] at h
      obtain ⟨⟨perEndpoint', v⟩, hfold, heq⟩ := Option.map_eq_some_iff.mp h
      obtain ⟨hout, rfl⟩ := Prod.mk.inj heq
      obtain rfl := Except.ok.inj hout
      apply foldlM_rule
        (fun done (state : List QueryEndpointReport × World) =>
          ∃ reports : List (QueryEndpointReport × UInt64),
            state.1 = reports.map (·.1) ∧
            reports.map (·.1.endpoint) = done.map (·.1) ∧
            (∀ p ∈ reports, Settled p.1) ∧
              state.2.log = w.log ++ reportLines config reports)
        ?turn ?start hfold
      case start =>
        exact ⟨[], rfl, rfl, by simp, by simp [reportLines]⟩
      case turn =>
        intro done entry rest state state' hsplit hgiven hturn
        obtain ⟨reports, hreports, hnames, hsettled, hlog⟩ := hgiven
        obtain ⟨⟨r, v₁⟩, hone, heq⟩ := Option.map_eq_some_iff.mp hturn
        obtain rfl := heq
        obtain ⟨hname, hqueried, -⟩ := queryEndpoint_spec hone
        refine ⟨reports ++ [(r, nowUnixSecs clock v₁.now)], ?_, ?_, ?_, ?_⟩
        · simp [hreports]
        · simp [hnames, hname]
        · intro p hp
          rcases List.mem_append.mp hp with hp | hp
          · exact hsettled p hp
          · rw [List.mem_singleton.mp hp]
            exact queryEndpoint_settled hone
        · simp [reportLines, hqueried.log, hlog]

/-- **The blocks of a log** are told apart from the left. -/
theorem reportLines_inj {reports reports' : List (QueryEndpointReport × UInt64)}
    (hnames : reports.map (·.1.endpoint) = reports'.map (·.1.endpoint))
    (hsettled : ∀ p ∈ reports, Settled p.1) (hsettled' : ∀ p ∈ reports', Settled p.1)
    (h : reportLines config reports = reportLines config' reports') :
    reports.map (·.1) = reports'.map (·.1) ∧
      (reports ≠ [] → config.topic = config'.topic) := by
  induction reports generalizing reports' with
  | nil =>
      cases reports' with
      | nil => exact ⟨rfl, by simp⟩
      | cons p' reports' => exact absurd hnames (by simp)
  | cons p reports ih =>
      cases reports' with
      | nil => exact absurd hnames (by simp)
      | cons p' reports' =>
          rw [List.map_cons, List.map_cons] at hnames
          obtain ⟨hname, hnames⟩ := List.cons.inj hnames
          obtain ⟨hreport, htopic, -, hmore⟩ := queryReportLines_append_inj hname
            (hsettled p List.mem_cons_self) (hsettled' p' List.mem_cons_self) h
          obtain ⟨hrest, -⟩ := ih hnames (fun q hq => hsettled q (List.mem_cons_of_mem p hq))
            (fun q hq => hsettled' q (List.mem_cons_of_mem p' hq)) hmore
          rw [List.map_cons, List.map_cons, hreport, hrest]
          exact ⟨rfl, fun _ => htopic⟩

end Run

/-- **The log of `query` is a complete record.**  Two runs over the same
endpoints that add the same lines to the log return the same reports, and
have asked for the same topic; the connections, the clock, the codec and what
was logged before do not matter. -/
theorem query_log_records {crates crates' : Crates} {clock clock' : Clock} {fuel fuel' : Nat}
    {config config' : QueryConfig} {w w' v v' : World}
    {endpoints endpoints' : List (String × Handle)}
    {perEndpoint perEndpoint' : List QueryEndpointReport} {lines : List String}
    (hrun : runQuery crates clock fuel endpoints config w = some (.ok perEndpoint, w'))
    (hrun' : runQuery crates' clock' fuel' endpoints' config' v = some (.ok perEndpoint', v'))
    (hnames : endpoints.map (·.1) = endpoints'.map (·.1))
    (hlog : w'.log = w.log ++ lines) (hlog' : v'.log = v.log ++ lines) :
    perEndpoint = perEndpoint' ∧ (endpoints ≠ [] → config.topic = config'.topic) := by
  obtain ⟨reports, rfl, hends, hsettled, hlines⟩ := runQuery_lines hrun
  obtain ⟨reports', rfl, hends', hsettled', hlines'⟩ := runQuery_lines hrun'
  have hwritten := List.append_cancel_left (hlog.symm.trans hlines)
  have hwritten' := List.append_cancel_left (hlog'.symm.trans hlines')
  obtain ⟨hreports, htopic⟩ := reportLines_inj
    (hends.trans (hnames.trans hends'.symm)) hsettled hsettled'
    (hwritten.symm.trans hwritten')
  refine ⟨hreports, ?_⟩
  intro hne
  apply htopic
  intro hnil
  rw [hnil] at hends
  exact hne (List.map_eq_nil_iff.mp hends.symm)

/-- Every payload decodes, to a statement without data. -/
def bareCrates : Crates :=
  { plainCrates with decode := fun _ => some Statement.new }

/-- One statement, in one event. -/
def oneEvent : EventStream :=
  Stream'.cons (.item 0 (.ok (.newStatements [[3]] none))) (Stream'.const .silent)

/-- One statement, after an event that only announces it. -/
def announced : EventStream :=
  Stream'.cons (.item 0 (.ok (.newStatements [] (some 1))))
    (Stream'.cons (.item 0 (.ok (.newStatements [[7, 7]] (some 0)))) (Stream'.const .silent))

/-- The second run comes later in the same log, and its dump in two events. -/
theorem query_log_records_announced :
    ∃ perEndpoint perEndpoint' w' v',
      runQuery bareCrates id 1 [("ws://a", 0)] ⟨none, 15000⟩
        (steadyWorld (.ok oneEvent) (.ok .new)) = some (.ok perEndpoint, w') ∧
      runQuery bareCrates id 2 [("ws://a", 5)] ⟨none, 9000⟩
        ((steadyWorld (.ok announced) (.ok .new)).logLine "again") =
          some (.ok perEndpoint', v') ∧
      perEndpoint = perEndpoint' := by
  -- the payloads differ, and what they decode to does not
  let lines := queryReportLines 0 ⟨none, 15000⟩ ⟨"ws://a", (summarize bareCrates [[3]]).1, 0, none⟩
  obtain ⟨perEndpoint, w', hrun, hlog⟩ : ∃ perEndpoint w',
      runQuery bareCrates id 1 [("ws://a", 0)] ⟨none, 15000⟩
        (steadyWorld (.ok oneEvent) (.ok .new)) = some (.ok perEndpoint, w') ∧
      w'.log = (steadyWorld (.ok oneEvent) (.ok .new)).log ++ lines := ⟨_, _, rfl, rfl⟩
  obtain ⟨perEndpoint', v', hrun', hlog'⟩ : ∃ perEndpoint' v',
      runQuery bareCrates id 2 [("ws://a", 5)] ⟨none, 9000⟩
        ((steadyWorld (.ok announced) (.ok .new)).logLine "again") =
          some (.ok perEndpoint', v') ∧
      v'.log = ((steadyWorld (.ok announced) (.ok .new)).logLine "again").log ++ lines :=
    ⟨_, _, rfl, rfl⟩
  exact ⟨perEndpoint, perEndpoint', w', v', hrun, hrun',
    (query_log_records hrun hrun' rfl hlog hlog').1⟩

end StatementStore
