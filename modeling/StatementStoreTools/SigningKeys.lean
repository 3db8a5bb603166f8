import StatementStoreTools.PatternTexts
import StatementStoreTools.SetupAllowances

/-!
# Where the signing keys come from

The benchmarks sign with the pair of `--seed`, or with an account of their own.
`admin set-quota` takes its key from one of three sources: a secret URI on the
command line, a file with one, or an encrypted backup with a password.  What is
read on the way, from the files and from the operator, is part of the model.

* `sudo_key_formats` — a secret URI counts the same however it is written: with
  whitespace around it, in a file, or quoted in a keystore file;
* `sudo_key_source` — one source decides, and nothing else is looked at;
* `password_file_iff` — which files give a password, to the last character.
-/

namespace StatementStore

/-! ## The seed of a benchmark -/

/-- What the crates make of a seed, and `{:?}` of a text. -/
structure KeyCrates where
  /-- `sr25519::Pair::from_string(suri, None)` -/
  pairFromString : String → Except String Keypair
  /-- `test_utils::get_keypair` -/
  getKeypair : UInt32 → Keypair
  debugText : String → String

def parseSeed (keys : KeyCrates) : Option String → Except String Keypair
  | some suri =>
      match keys.pairFromString suri with
      | .ok keypair => .ok keypair
      | .error e => .error s!"Invalid sr25519 SURI {keys.debugText suri}: {e}"
  | none => .ok (keys.getKeypair 0)

/-! ## The sudo key -/

/-- What a command finds outside: the files, and the operator at the prompt. -/
structure Outside where
  files : String → Except String String
  prompt : Except String String

/-- One look outside. -/
inductive Look
  | file (path : String)
  | prompt
deriving DecidableEq

structure SudoKeyArgs where
  sudoSeed : Option String
  sudoSeedFile : Option String
  sudoJson : Option String
  sudoPassword : Option String
  sudoPasswordFile : Option String
  sudoPasswordInteractive : Bool

/-- The crates behind the sudo key; a JSON string is read by `serde_json`. -/
structure SudoCrates extends QuotaCrates where
  jsonString : String → Except String String
  decryptJson : String → String → Except String Bytes32

/-- `s.strip_suffix(c).unwrap_or(s)`. -/
def stripSuffix (c : Char) (s : List Char) : List Char :=
  if s.getLast? = some c then s.dropLast else s

/-- What counts of the contents of a password file. -/
def filePassword (raw : String) : String :=
  String.ofList (stripSuffix '\r' (stripSuffix '\n' raw.toList))

def resolvePassword (outside : Outside) (args : SudoKeyArgs) : Except String String × List Look :=
  match args.sudoPassword with
  | some password => (.ok password, [])
  | none =>
      match args.sudoPasswordFile with
      | some path =>
          match outside.files path with
          | .error _ => (.error s!"Failed to read password file {path}", [.file path])
          | .ok raw => (.ok (filePassword raw), [.file path])
      | none =>
          if args.sudoPasswordInteractive then
            match outside.prompt with
            | .error _ => (.error "Failed to read password from prompt", [.prompt])
            | .ok password => (.ok password, [.prompt])
          else
            (.error ("--sudo-json requires a password: provide --sudo-password, " ++
              "STATEMENT_SUDO_PASSWORD, --sudo-password-file, or --sudo-password-interactive"), [])

/-- `str::trim`. -/
def trimText (s : String) : String :=
  String.ofList (trim s.toList)

def keypairFromSuri (crates : SudoCrates) (suri : String) : Except String Bytes32 :=
  match crates.secretUri (trimText suri) with
  | .error e => .error s!"Invalid sudo seed URI: {e}"
  | .ok uri =>
      match crates.keypair uri with
      | .error e => .error s!"Failed to derive sudo keypair: {e}"
      | .ok key => .ok key

def keypairFromKeystoreContents (crates : SudoCrates) (contents : String) :
    Except String Bytes32 :=
  let trimmed := trimText contents
  if trimmed.toList.head? = some '"' then
    match crates.jsonString trimmed with
    | .error _ => .error "Failed to parse node keystore file as a JSON-encoded SURI string"
    | .ok suri => keypairFromSuri crates suri
  else keypairFromSuri crates trimmed

def keypairFromPjsJson (crates : SudoCrates) (json password : String) : Except String Bytes32 :=
  match crates.decryptJson json password with
  | .error e => .error s!"Failed to decrypt Polkadot-JS JSON keystore: {e}"
  | .ok key => .ok key

def resolveSudoKeypair (crates : SudoCrates) (outside : Outside) (args : SudoKeyArgs) :
    Except String Bytes32 × List Look :=
  match args.sudoSeed with
  | some suri => (keypairFromSuri crates suri, [])
  | none =>
      match args.sudoSeedFile with
      | some path =>
          match outside.files path with
          | .error _ => (.error s!"Failed to read sudo seed file {path}", [.file path])
          | .ok contents => (keypairFromKeystoreContents crates contents, [.file path])
      | none =>
          match args.sudoJson with
          | some path =>
              match outside.files path with
              | .error _ => (.error s!"Failed to read Polkadot-JS JSON {path}", [.file path])
              | .ok json =>
                  match resolvePassword outside args with
                  | (.error e, looks) => (.error e, .file path :: looks)
                  | (.ok password, looks) =>
                      (keypairFromPjsJson crates json password, .file path :: looks)
          | none => (.error ("no sudo key provided: pass --sudo-seed, --sudo-seed-file, " ++
              "or --sudo-json"), [])

/-! ## Whitespace around a secret URI -/

section Trimming

variable {lead text trail : List Char}

/-- Trimming cuts whitespace off, and nothing else. -/
theorem exists_padding (text : List Char) : ∃ lead trail, text = lead ++ trim text ++ trail ∧
    (∀ c ∈ lead, isWhitespace c = true) ∧ ∀ c ∈ trail, isWhitespace c = true := by
  refine ⟨text.takeWhile isWhitespace, (text.dropWhile isWhitespace).rtakeWhile isWhitespace,
    ?_, fun c hc => ?_, fun c hc => ?_⟩
  · rw [trim, List.append_assoc, List.rdropWhile_append_rtakeWhile, List.takeWhile_append_dropWhile]
  · exact List.mem_takeWhile_imp hc
  · exact List.mem_rtakeWhile_imp hc

/-- Whitespace around a text is cut off, whatever the text. -/
theorem trim_around (hlead : ∀ c ∈ lead, isWhitespace c = true)
    (htrail : ∀ c ∈ trail, isWhitespace c = true) : trim (lead ++ text ++ trail) = trim text := by
  have hcut : ∀ xs : List Char, (xs ++ trail).rdropWhile isWhitespace =
      xs.rdropWhile isWhitespace := fun xs => by
    rw [List.rdropWhile, List.reverse_append, List.dropWhile_append_of_pos fun c hc =>
      htrail c (List.mem_reverse.mp hc), List.rdropWhile]
  rw [trim, trim, List.append_assoc, List.dropWhile_append_of_pos hlead, List.dropWhile_append]
  split
  · rename_i hall
    have hnone : text.dropWhile isWhitespace = [] := List.isEmpty_iff.mp hall
    rw [hnone, List.dropWhile_eq_nil_iff.mpr htrail]
  · exact hcut _

theorem trim_trim (text : List Char) : trim (trim text) = trim text := by
  obtain ⟨lead, trail, htext, hlead, htrail⟩ := exists_padding text
  calc trim (trim text) = trim (lead ++ trim text ++ trail) := (trim_around hlead htrail).symm
    _ = trim text := by rw [← htext]

end Trimming

/-- The text with whitespace around it. -/
def Padded (text padded : String) : Prop :=
  ∃ lead trail, padded.toList = lead ++ text.toList ++ trail ∧
    (∀ c ∈ lead, isWhitespace c = true) ∧ ∀ c ∈ trail, isWhitespace c = true

theorem Padded.trimText {text padded : String} (h : Padded text padded) :
    trimText padded = trimText text := by
  obtain ⟨lead, trail, hpadded, hlead, htrail⟩ := h
  rw [StatementStore.trimText, hpadded, trim_around hlead htrail, StatementStore.trimText]

theorem trimText_trimText (s : String) : trimText (trimText s) = trimText s := by
  rw [trimText, trimText, String.toList_ofList, trim_trim]

/-! ## The ways of writing a secret URI -/

/-- The arguments and the files hold this secret URI, in one of the forms. -/
inductive Written (crates : SudoCrates) (outside : Outside) (suri : String) (args : SudoKeyArgs) :
    Prop
  | inline {padded : String} (hseed : args.sudoSeed = some padded) (hpadded : Padded suri padded)
  | inFile {path padded : String} (hseed : args.sudoSeed = none)
      (hfile : args.sudoSeedFile = some path) (hread : outside.files path = .ok padded)
      (hpadded : Padded suri padded) (hplain : (trimText suri).toList.head? ≠ some '"')
  | quoted {path text padded : String} (hseed : args.sudoSeed = none)
      (hfile : args.sudoSeedFile = some path) (hread : outside.files path = .ok padded)
      (hpadded : Padded text padded) (hquote : (trimText text).toList.head? = some '"')
      (hjson : crates.jsonString (trimText text) = .ok suri)

section Formats

variable {crates : SudoCrates} {outside : Outside} {suri : String} {args : SudoKeyArgs}

theorem keypairFromSuri_eq (crates : SudoCrates) (suri : String) :
    keypairFromSuri crates suri = resolveSudoKey crates.toQuotaCrates (trimText suri) := by
  unfold keypairFromSuri resolveSudoKey
  rfl

/-- **However it is written**, a secret URI gives the key that
`setup-allowances` makes of it. -/
theorem sudo_key_formats (h : Written crates outside suri args) :
    (resolveSudoKeypair crates outside args).1 =
      resolveSudoKey crates.toQuotaCrates (trimText suri) := by
  unfold resolveSudoKeypair
  cases h with
  | inline hseed hpadded => simp only [hseed, keypairFromSuri_eq, hpadded.trimText]
  | inFile hseed hfile hread hpadded hplain =>
      simp only [hseed, hfile, hread, keypairFromKeystoreContents, hpadded.trimText,
        if_neg hplain, keypairFromSuri_eq, trimText_trimText]
  | quoted hseed hfile hread hpadded hquote hjson =>
      simp only [hseed, hfile, hread, keypairFromKeystoreContents, hpadded.trimText, hquote,
        hjson, keypairFromSuri_eq, if_true]

end Formats

/-- The account of `//Alice`. -/
def alice : Bytes32 :=
  #v[0xd4, 0x35, 0x93, 0xc7, 0x15, 0xfd, 0xd3, 0x1c, 0x61, 0x14, 0x1a, 0xbd, 0x04, 0xa9, 0x9f,
    0xd6, 0x82, 0x2c, 0x85, 0x58, 0x85, 0x4c, 0xcd, 0xe3, 0x9a, 0x56, 0x84, 0xe7, 0xa5, 0x6d,
    0xa2, 0x7d]

/-- JSON strings without escapes, and no account but one. -/
def aliceCrates : SudoCrates where
  toQuotaCrates := { scaleCrates with
    keypair := fun uri => if uri = "//Alice" then .ok alice else .error "unknown account" }
  jsonString text := .ok (String.ofList text.toList.tail.dropLast)
  decryptJson _ password :=
    if password = "whoisalice" then .ok alice else .error "Failed to decrypt"

/-- A keystore file, as editors leave it. -/
theorem sudo_key_formats_keystore :
    (resolveSudoKeypair aliceCrates ⟨fun _ => .ok "\"//Alice\"\n", .error "no terminal"⟩
      ⟨none, some "key", none, none, none, false⟩).1 = .ok alice :=
  (sudo_key_formats (Written.quoted rfl rfl rfl
    (⟨[], ['\n'], rfl, by simp, by simp [isWhitespace]⟩ : Padded "\"//Alice\"" "\"//Alice\"\n")
    (by decide) (show _ = Except.ok "//Alice" from by decide))).trans (by decide)

/-! ## What decides, and what is looked at -/

/-- Where the password of a backup comes from. -/
inductive PasswordSource
  | given (password : String)
  | file (path : String)
  | prompt
  | missing
deriving DecidableEq

/-- Where the key comes from. -/
inductive KeySource
  | seed (suri : String)
  | seedFile (path : String)
  | json (path : String) (password : PasswordSource)
  | missing
deriving DecidableEq

def SudoKeyArgs.passwordSource (args : SudoKeyArgs) : PasswordSource :=
  match args.sudoPassword, args.sudoPasswordFile, args.sudoPasswordInteractive with
  | some password, _, _ => .given password
  | none, some path, _ => .file path
  | none, none, true => .prompt
  | none, none, false => .missing

/-- The source that decides; the others are ignored. -/
def SudoKeyArgs.source (args : SudoKeyArgs) : KeySource :=
  match args.sudoSeed, args.sudoSeedFile, args.sudoJson with
  | some suri, _, _ => .seed suri
  | none, some path, _ => .seedFile path
  | none, none, some path => .json path args.passwordSource
  | none, none, none => .missing

def PasswordSource.looks : PasswordSource → List Look
  | .given _ => []
  | .file path => [.file path]
  | .prompt => [.prompt]
  | .missing => []

/-- What has to be looked at, in order. -/
def KeySource.looks : KeySource → List Look
  | .seed _ => []
  | .seedFile path => [.file path]
  | .json path password => .file path :: password.looks
  | .missing => []

/-- What a look meets. -/
def Outside.answer (outside : Outside) : Look → Except String String
  | .file path => outside.files path
  | .prompt => outside.prompt

section Sources

variable {crates : SudoCrates} {outside outside' : Outside} {args args' : SudoKeyArgs}

/-- The arguments for which this source decides. -/
def PasswordSource.Decides (args : SudoKeyArgs) : PasswordSource → Prop
  | .given password => args.sudoPassword = some password
  | .file path => args.sudoPassword = none ∧ args.sudoPasswordFile = some path
  | .prompt => args.sudoPassword = none ∧ args.sudoPasswordFile = none ∧
      args.sudoPasswordInteractive = true
  | .missing => args.sudoPassword = none ∧ args.sudoPasswordFile = none ∧
      args.sudoPasswordInteractive = false

/-- The arguments for which this source decides. -/
def KeySource.Decides (args : SudoKeyArgs) : KeySource → Prop
  | .seed suri => args.sudoSeed = some suri
  | .seedFile path => args.sudoSeed = none ∧ args.sudoSeedFile = some path
  | .json path password => args.sudoSeed = none ∧ args.sudoSeedFile = none ∧
      args.sudoJson = some path ∧ args.passwordSource = password
  | .missing => args.sudoSeed = none ∧ args.sudoSeedFile = none ∧ args.sudoJson = none

theorem decides_passwordSource (args : SudoKeyArgs) : args.passwordSource.Decides args := by
  unfold SudoKeyArgs.passwordSource
  split <;> simp_all [PasswordSource.Decides]

theorem decides_source (args : SudoKeyArgs) : args.source.Decides args := by
  unfold SudoKeyArgs.source
  split <;> simp_all [KeySource.Decides]

/-- The password depends on its source and on what the looks at it meet. -/
theorem resolvePassword_congr (h : args.passwordSource = args'.passwordSource)
    (hsame : ∀ look ∈ args.passwordSource.looks, outside.answer look = outside'.answer look) :
    resolvePassword outside args = resolvePassword outside' args' := by
  have hdecides := decides_passwordSource args
  have hdecides' := decides_passwordSource args'
  rw [← h] at hdecides'
  unfold resolvePassword
  cases hsource : args.passwordSource with
  | given password =>
      simp only [hsource, PasswordSource.Decides] at hdecides hdecides'
      simp only [hdecides, hdecides']
  | file path =>
      simp only [hsource, PasswordSource.Decides, PasswordSource.looks, List.mem_singleton,
        forall_eq, Outside.answer] at hdecides hdecides' hsame
      simp only [hdecides, hdecides', hsame]
  | prompt =>
      simp only [hsource, PasswordSource.Decides, PasswordSource.looks, List.mem_singleton,
        forall_eq, Outside.answer] at hdecides hdecides' hsame
      simp only [hdecides, hdecides', hsame]
  | missing =>
      simp only [hsource, PasswordSource.Decides] at hdecides hdecides'
      simp [hdecides, hdecides']

/-- Looking for the password stops at its source. -/
theorem resolvePassword_looks (outside : Outside) (args : SudoKeyArgs) :
    (resolvePassword outside args).2 = args.passwordSource.looks := by
  have hdecides := decides_passwordSource args
  unfold resolvePassword
  cases hsource : args.passwordSource with
  | given password =>
      simp only [hsource, PasswordSource.Decides] at hdecides
      simp only [hdecides, PasswordSource.looks]
  | file path =>
      simp only [hsource, PasswordSource.Decides] at hdecides
      cases hread : outside.files path <;> simp only [hdecides, hread, PasswordSource.looks]
  | prompt =>
      simp only [hsource, PasswordSource.Decides] at hdecides
      cases hread : outside.prompt <;> simp [hdecides, PasswordSource.looks]
  | missing =>
      simp only [hsource, PasswordSource.Decides] at hdecides
      simp [hdecides, PasswordSource.looks]

/-- **One source decides.**  Arguments with the same deciding source give the
same key or error, whatever else they hold and wherever they are used, as long
as the looks that this source asks for meet the same.  Nothing else is looked
at, and with a key in hand everything it asks for has been. -/
theorem sudo_key_source (crates : SudoCrates) (outside outside' : Outside)
    (args args' : SudoKeyArgs) (h : args.source = args'.source)
    (hsame : ∀ look ∈ args.source.looks, outside.answer look = outside'.answer look) :
    resolveSudoKeypair crates outside args = resolveSudoKeypair crates outside' args' ∧
    (resolveSudoKeypair crates outside args).2 <+: args.source.looks ∧
    ∀ key, (resolveSudoKeypair crates outside args).1 = .ok key →
      (resolveSudoKeypair crates outside args).2 = args.source.looks := by
  have hdecides := decides_source args
  have hdecides' := decides_source args'
  rw [← h] at hdecides'
  unfold resolveSudoKeypair
  cases hsource : args.source with
  | seed suri =>
      simp only [hsource, KeySource.Decides] at hdecides hdecides'
      simp [hdecides, hdecides', KeySource.looks]
  | seedFile path =>
      simp only [hsource, KeySource.Decides, KeySource.looks, List.mem_singleton, forall_eq,
        Outside.answer] at hdecides hdecides' hsame
      cases hread : outside'.files path <;>
        simp [hdecides, hdecides', hsame, hread, KeySource.looks]
  | json path password =>
      simp only [hsource, KeySource.Decides] at hdecides hdecides'
      obtain ⟨hseed, hfile, hjson, hpassword⟩ := hdecides
      obtain ⟨hseed', hfile', hjson', hpassword'⟩ := hdecides'
      rw [hsource, KeySource.looks, List.forall_mem_cons] at hsame
      obtain ⟨hanswer, hrest⟩ := hsame
      simp only [Outside.answer] at hanswer
      rw [← hpassword] at hrest
      have hword := resolvePassword_congr (hpassword.trans hpassword'.symm) hrest
      have hlooks := resolvePassword_looks outside' args'
      simp only [hseed, hseed', hfile, hfile', hjson, hjson', hanswer, hword, KeySource.looks]
      cases hread : outside'.files path with
      | error e => simp
      | ok json =>
          rcases hres : resolvePassword outside' args' with ⟨res, looks⟩
          rw [hres] at hlooks
          cases res <;> simp [← hpassword', ← hlooks]
  | missing =>
      simp only [hsource, KeySource.Decides] at hdecides hdecides'
      simp [hdecides, hdecides', KeySource.looks]

end Sources

/-- With a seed on the command line the backup is not even opened. -/
theorem sudo_key_source_seed :
    resolveSudoKeypair aliceCrates ⟨fun _ => .ok "-", .ok "whoisalice"⟩
        ⟨some "//Alice", none, some "backup", none, none, true⟩ =
      resolveSudoKeypair aliceCrates ⟨fun _ => .error "no file", .error "no terminal"⟩
        ⟨some "//Alice", some "key", none, none, none, false⟩ ∧
    (resolveSudoKeypair aliceCrates ⟨fun _ => .ok "-", .ok "whoisalice"⟩
      ⟨some "//Alice", none, some "backup", none, none, true⟩).2 <+: [] :=
  have h := sudo_key_source aliceCrates ⟨fun _ => .ok "-", .ok "whoisalice"⟩
    ⟨fun _ => .error "no file", .error "no terminal"⟩
    ⟨some "//Alice", none, some "backup", none, none, true⟩
    ⟨some "//Alice", some "key", none, none, none, false⟩ rfl
    (by simp [SudoKeyArgs.source, KeySource.looks])
  ⟨h.1, h.2.1⟩

/-! ## Passwords in files -/

/-- The files that give a password: as it is, or with an end of line behind it. -/
inductive Holds (password : List Char) : List Char → Prop
  | bare (hcr : password.getLast? ≠ some '\r') (hlf : password.getLast? ≠ some '\n') :
      Holds password password
  | lf (hcr : password.getLast? ≠ some '\r') : Holds password (password ++ ['\n'])
  | crlf : Holds password (password ++ ['\r', '\n'])
  | cr : Holds password (password ++ ['\r'])

/-- What is left without an optional last character. -/
theorem stripSuffix_eq_iff {c : Char} {s t : List Char} :
    stripSuffix c s = t ↔ s = t ++ [c] ∨ (s = t ∧ t.getLast? ≠ some c) := by
  unfold stripSuffix
  split
  · rename_i hlast
    have hsplit : s = s.dropLast ++ [c] := (List.dropLast_append_getLast? c hlast).symm
    constructor
    · intro h
      subst h
      exact Or.inl hsplit
    · intro h
      rcases h with rfl | ⟨rfl, hne⟩
      · exact List.dropLast_concat
      · exact absurd hlast hne
  · rename_i hlast
    constructor
    · intro h
      subst h
      exact Or.inr ⟨rfl, hlast⟩
    · intro h
      rcases h with rfl | ⟨rfl, -⟩
      · exact absurd List.getLast?_concat hlast
      · rfl

/-- **Which files give a password.**  With a carriage return behind it, and a line
feed after that or not, every password is read back; with a line feed alone, those
that do not end in a carriage return; and without an end of line, those that do
not look as if they had one. -/
theorem password_file_iff {outside : Outside} {args : SudoKeyArgs} {path raw : String}
    (hnone : args.sudoPassword = none) (hfile : args.sudoPasswordFile = some path)
    (hread : outside.files path = .ok raw) (password : String) :
    (resolvePassword outside args).1 = .ok password ↔ Holds password.toList raw.toList := by
  have hword : (resolvePassword outside args).1 = .ok (filePassword raw) := by
    simp only [resolvePassword, hnone, hfile, hread]
  rw [hword, Except.ok.injEq, filePassword, ← String.toList_inj, String.toList_ofList,
    stripSuffix_eq_iff, stripSuffix_eq_iff, stripSuffix_eq_iff]
  generalize password.toList = word
  generalize raw.toList = text
  constructor
  · intro h
    rcases h with (hcrlf | ⟨hcr, -⟩) | ⟨hlf | ⟨hbare, hend⟩, hlast⟩
    · rw [hcrlf, List.append_assoc]
      exact .crlf
    · rw [hcr]
      exact .cr
    · rw [hlf]
      exact .lf hlast
    · rw [hbare]
      exact .bare hlast hend
  · intro h
    cases h with
    | bare hcr hlf => exact Or.inr ⟨Or.inr ⟨rfl, hlf⟩, hcr⟩
    | lf hcr => exact Or.inr ⟨Or.inl rfl, hcr⟩
    | crlf => exact Or.inl (Or.inl (by simp))
    | cr => exact Or.inl (Or.inr ⟨rfl, by simp⟩)

/-- A password that ends in a carriage return is not what its own file gives. -/
theorem password_file_iff_cr :
    (resolvePassword ⟨fun _ => .ok "secret\r", .error "no terminal"⟩
      ⟨none, none, some "backup", none, some "password", false⟩).1 = .ok "secret" :=
  (password_file_iff rfl rfl rfl "secret").mpr (by
    rw [show "secret\r".toList = "secret".toList ++ ['\r'] from rfl]
    exact .cr)

end StatementStore
