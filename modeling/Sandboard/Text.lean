import Mathlib.Algebra.Group.Int.Defs
import Mathlib.Algebra.GroupWithZero.Nat
import Mathlib.Tactic.Common

/-!
# Text functions

The string functions of the standard library that the board calls, through the list of
characters of a string.  What depends on the Unicode tables (lower-casing, the alphanumeric
class, the escapes of a quoted string) is a parameter, so results about the board hold
whatever version of the tables the program is built with.
-/

namespace Sandboard

/-- The parts of the standard library's text functions that read the Unicode tables. -/
class UnicodeTables where
  /-- `str::to_lowercase`. -/
  toLowercase : String → String
  /-- `char::is_alphanumeric`. -/
  isAlphanumeric : Char → Bool
  /-- The `{:?}` form of a string. -/
  debug : String → String

namespace Text

/-- `char::is_whitespace`: the characters with the White_Space property. -/
def isWhitespace (c : Char) : Bool :=
  let n := c.toNat
  (9 ≤ n && n ≤ 13) || n == 32 || n == 0x85 || n == 0xA0 || n == 0x1680 ||
    (0x2000 ≤ n && n ≤ 0x200A) || n == 0x2028 || n == 0x2029 || n == 0x202F || n == 0x205F ||
    n == 0x3000

/-- Drop the characters of `p` at the end of a list. -/
def dropTailWhile (p : Char → Bool) (cs : List Char) : List Char :=
  (cs.reverse.dropWhile p).reverse

/-- `str::trim`. -/
def trim (s : String) : String :=
  String.ofList (dropTailWhile isWhitespace (s.toList.dropWhile isWhitespace))

/-- `s.trim().is_empty()`. -/
def isBlank (s : String) : Bool :=
  s.toList.all isWhitespace

/-- `str::trim_end_matches` for one character. -/
def trimEndMatches (c : Char) (s : String) : String :=
  String.ofList (dropTailWhile (· == c) s.toList)

/-- The rest of `cs` after the prefix `pre`, when `cs` starts with it. -/
def afterPrefix : List Char → List Char → Option (List Char)
  | [], cs => some cs
  | _ :: _, [] => none
  | p :: ps, c :: cs => if p = c then afterPrefix ps cs else none

/-- `str::strip_prefix`. -/
def stripPrefix (pre s : String) : Option String :=
  (afterPrefix pre.toList s.toList).map String.ofList

/-- `str::strip_suffix`. -/
def stripSuffix (suf s : String) : Option String :=
  (afterPrefix suf.toList.reverse s.toList.reverse).map fun cs => String.ofList cs.reverse

/-- `str::starts_with`. -/
def startsWith (pre s : String) : Bool :=
  (afterPrefix pre.toList s.toList).isSome

/-- Split `cs` at the first occurrence of `needle`: what precedes it and what follows. -/
def cutAt (needle : List Char) : List Char → Option (List Char × List Char)
  | [] => (afterPrefix needle []).map fun rest => ([], rest)
  | c :: cs =>
    match afterPrefix needle (c :: cs) with
    | some rest => some ([], rest)
    | none => (cutAt needle cs).map fun (before, rest) => (c :: before, rest)

/-- `str::split_once`. -/
def splitOnce (needle s : String) : Option (String × String) :=
  (cutAt needle.toList s.toList).map fun (before, rest) =>
    (String.ofList before, String.ofList rest)

/-- `str::contains`. -/
def contains (needle s : String) : Bool :=
  (cutAt needle.toList s.toList).isSome

/-- `str::split` at a character class: every piece, the empty ones too. -/
def split (sep : Char → Bool) (s : String) : List String :=
  go s.toList []
where
  /-- `acc` holds the current piece, reversed. -/
  go : List Char → List Char → List String
    | [], acc => [String.ofList acc.reverse]
    | c :: cs, acc => if sep c then String.ofList acc.reverse :: go cs [] else go cs (c :: acc)

/-- `str::split_whitespace`. -/
def splitWhitespace (s : String) : List String :=
  (split isWhitespace s).filter (· ≠ "")

/-- `str::lines`: split at line feeds, dropping one carriage return before each, and no
empty last line. -/
def lines (s : String) : List String :=
  let pieces := split (· == '\n') s
  let pieces := if pieces.getLast? = some "" then pieces.dropLast else pieces
  pieces.map fun l => (stripSuffix "\r" l).getD l

/-- `str::to_ascii_lowercase`. -/
def toAsciiLowercase (s : String) : String :=
  String.ofList (s.toList.map Char.toLower)

/-- `str::to_ascii_uppercase`. -/
def toAsciiUppercase (s : String) : String :=
  String.ofList (s.toList.map Char.toUpper)

/-- `char::is_ascii_alphanumeric`. -/
def isAsciiAlphanumeric (c : Char) : Bool :=
  c.isAlphanum

/-- The `{:?}` form of a list of ids. -/
def debugIds (ids : List ℕ) : String :=
  "[" ++ String.intercalate ", " (ids.map toString) ++ "]"

/-- `str::parse::<u64>`: decimal digits with an optional plus sign, in range. -/
def parseU64 (s : String) : Option ℕ :=
  let cs := s.toList
  let digits := match cs with
    | '+' :: rest => rest
    | _ => cs
  if digits.isEmpty || !digits.all Char.isDigit then none
  else
    let n := digits.foldl (fun n c => 10 * n + (c.toNat - '0'.toNat)) 0
    if n < 2 ^ 64 then some n else none

/-- The number that a nonempty list of digits spells. -/
def readDigits (cs : List Char) : Option ℕ :=
  if cs.isEmpty || !cs.all Char.isDigit then none
  else some (cs.foldl (fun n c => 10 * n + (c.toNat - '0'.toNat)) 0)

/-- The number that a list of digits with an optional sign spells. -/
def readSigned : List Char → Option Int
  | '-' :: rest => (readDigits rest).map fun n => -Int.ofNat n
  | '+' :: rest => (readDigits rest).map Int.ofNat
  | cs => (readDigits cs).map Int.ofNat

/-- `str::parse::<i32>`: decimal digits with an optional sign, in range. -/
def parseI32 (s : String) : Option Int :=
  (readSigned s.toList).filter fun v => -2 ^ 31 ≤ v ∧ v < 2 ^ 31

/-- `str::len`: the length in bytes of UTF-8. -/
def byteLength (s : String) : ℕ :=
  (s.toList.map Char.utf8Size).sum

/-- `&s[k..]`: the characters from byte `k` on, and nothing where `k` cuts a character, on which
the program panics. -/
def dropBytes : ℕ → List Char → Option (List Char)
  | 0, cs => some cs
  | _ + 1, [] => none
  | k + 1, c :: cs => if c.utf8Size ≤ k + 1 then dropBytes (k + 1 - c.utf8Size) cs else none

end Text

/-- The tables of a text that is all ASCII, on which the functions above compute. -/
abbrev asciiTables : UnicodeTables where
  toLowercase := Text.toAsciiLowercase
  isAlphanumeric := Text.isAsciiAlphanumeric
  debug s := "\"" ++ s ++ "\""

end Sandboard
