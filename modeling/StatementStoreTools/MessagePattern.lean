import Mathlib

/-!
# The `--messages-pattern` argument

`parse_messages_pattern` turns `count:size` parts joined by commas into a list
of pairs of 64-bit numbers.  `messages_per_client` sums the counts in the same
64 bits; `totalMessages` is the sum as an unbounded number, and `messagePlan`
the sizes of the messages in the order in which the send loop visits them.
-/

namespace StatementStore

/-- `char::is_whitespace`: the Unicode `White_Space` property. -/
def isWhitespace (c : Char) : Bool :=
  let n := c.toNat
  (9 ≤ n && n ≤ 13) || n = 0x20 || n = 0x85 || n = 0xA0 || n = 0x1680 ||
    (0x2000 ≤ n && n ≤ 0x200A) || n = 0x2028 || n = 0x2029 || n = 0x202F ||
    n = 0x205F || n = 0x3000

/-- `str::trim`. -/
def trim (s : List Char) : List Char :=
  (s.dropWhile isWhitespace).rdropWhile isWhitespace

/-- `str::split_once` at a character. -/
def splitOnce (sep : Char) : List Char → Option (List Char × List Char)
  | [] => none
  | c :: cs =>
      if c = sep then some ([], cs)
      else (splitOnce sep cs).map (fun p => (c :: p.1, p.2))

/-- `str::parse::<usize>`: an optional `+`, then decimal digits below `2 ^ 64`. -/
def parseUsize (s : List Char) : Option UInt64 :=
  let digits :=
    match s with
    | '+' :: rest => rest
    | _ => s
  if digits = [] then none
  else if digits.all Char.isDigit then
    let n := Nat.ofDigitChars 10 digits 0
    if n < 2 ^ 64 then some (UInt64.ofNat n) else none
  else none

/-- One `count:size` part. -/
def parsePart (part : List Char) : Except String (UInt64 × UInt64) :=
  let part := trim part
  match splitOnce ':' part with
  | none => .error s!"Invalid pattern '{String.ofList part}'. Expected 'count:size'"
  | some (countStr, sizeStr) =>
      match parseUsize countStr with
      | none => .error
          s!"Invalid count '{String.ofList countStr}' in pattern '{String.ofList part}'"
      | some count =>
          match parseUsize sizeStr with
          | none => .error
              s!"Invalid size '{String.ofList sizeStr}' in pattern '{String.ofList part}'"
          | some size => .ok (count, size)

def parseMessagesPattern (pattern : String) : Except String (List (UInt64 × UInt64)) :=
  (pattern.toList.splitOn ',').mapM parsePart

/-- `messages_per_client`: the sum of the counts, in `usize`. -/
def messagesPerClient (pattern : List (UInt64 × UInt64)) : UInt64 :=
  (pattern.map (·.1)).foldl (· + ·) 0

/-- The sum of the counts as an unbounded number. -/
def totalMessages (pattern : List (UInt64 × UInt64)) : Nat :=
  (pattern.map (·.1.toNat)).sum

/-- The sizes of the messages, in sending order. -/
def messagePlan (pattern : List (UInt64 × UInt64)) : List UInt64 :=
  pattern.flatMap (fun p => List.replicate p.1.toNat p.2)

theorem messagePlan_length (pattern : List (UInt64 × UInt64)) :
    (messagePlan pattern).length = totalMessages pattern := by
  simp [messagePlan, totalMessages, List.length_flatMap]

private theorem foldl_add_toNat (counts : List UInt64) (acc : UInt64) :
    (counts.foldl (· + ·) acc).toNat = (acc.toNat + (counts.map (·.toNat)).sum) % 2 ^ 64 := by
  induction counts generalizing acc with
  | nil => simp [Nat.mod_eq_of_lt acc.toNat_lt]
  | cons c counts ih =>
      rw [List.foldl_cons, ih, UInt64.toNat_add, List.map_cons, List.sum_cons]
      omega

/-- The 64-bit sum is the unbounded one modulo `2 ^ 64`. -/
theorem messagesPerClient_toNat (pattern : List (UInt64 × UInt64)) :
    (messagesPerClient pattern).toNat = totalMessages pattern % 2 ^ 64 := by
  rw [messagesPerClient, foldl_add_toNat]
  simp [totalMessages, List.map_map, Function.comp_def]

end StatementStore
