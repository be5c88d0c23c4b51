/-!
  PullTriage.Yaml.Text: the characters of a YAML text and where they stand.

  YAML is laid out by lines and columns, so every character carries its place and a reader of any
  part of the text is a recursion over placed characters. Line breaks are unified first: a carriage
  return, alone or before a line feed, and a next-line character become a line feed. The line and
  paragraph separators are breaks too and stay as they are.

  Main definition: `Text.ofString?`.
-/

namespace PullTriage.Yaml

/-! ## §1. Classes of characters -/

/-- Characters that may stand in a YAML text. -/
def isPrintable (c : Char) : Bool :=
  let n := c.toNat
  n == 0x09 || n == 0x0a || n == 0x0d || (0x20 ≤ n && n ≤ 0x7e) || n == 0x85 ||
    (0xa0 ≤ n && n ≤ 0xfffd) || 0x10000 ≤ n

/-- Line breaks, once they are unified. -/
def isBreak (c : Char) : Bool := c == '\n' || c == '\u2028' || c == '\u2029'

/-- White space inside a line. -/
def isBlank (c : Char) : Bool := c == ' ' || c == '\t'

/-- White space and line breaks. -/
def isSpace (c : Char) : Bool := isBlank c || isBreak c

/-- Characters of the names of anchors, tag handles and directives. -/
def isWordChar (c : Char) : Bool := c.isAlphanum || c == '_' || c == '-'

/-- Write every line break as one character. -/
def unifyBreaks : List Char → List Char
  | '\r' :: '\n' :: rest => '\n' :: unifyBreaks rest
  | c :: rest => (if c = '\r' ∨ c = '\x85' then '\n' else c) :: unifyBreaks rest
  | [] => []

/-! ## §2. Places -/

/-- A character in its place: its line, its column, and the bytes before it in its line. -/
structure Placed where
  char : Char
  line : Nat
  column : Nat
  offset : Nat
  deriving Repr, Inhabited

/-- What is left to read of a text. -/
abbrev Text := List Placed

namespace Text

/-- Give characters their places, the first of them standing at the place given. -/
def place (line column offset : Nat) : List Char → Text
  | [] => []
  | c :: rest =>
    ⟨c, line, column, offset⟩ ::
      if isBreak c then place (line + 1) 0 0 rest
      else place line (column + 1) (offset + c.utf8Size) rest

/-- The text of a string, if all of its characters may stand in one. -/
def ofString? (s : String) : Option Text :=
  if s.toList.all isPrintable then some (place 0 0 0 (unifyBreaks s.toList)) else none

/-- Whether the next character is the one given. -/
def startsWith (t : Text) (c : Char) : Bool := t.head?.any (·.char == c)

/-- Whether the text ends here or goes on with white space or a line break. -/
def atGap (t : Text) : Bool := t.head?.all fun p => isSpace p.char

/-- Whether the line ends here. -/
def atLineEnd (t : Text) : Bool := t.head?.all fun p => isBreak p.char

/-- The text behind the first `n` characters. -/
def skip (t : Text) (n : Nat) : Text := t.drop n

/-- The characters at the front that a test accepts. -/
def run (t : Text) (accepts : Char → Bool) : List Char :=
  (t.takeWhile fun p => accepts p.char).map Placed.char

/-- The text behind the characters that a test accepts. -/
def past (t : Text) (accepts : Char → Bool) : Text := t.dropWhile fun p => accepts p.char

/-- The text at the end of its line if nothing but white space and a comment is in the way. -/
def restOfLine? (t : Text) : Option Text :=
  let t := t.past isBlank
  let t := if t.startsWith '#' then t.past fun c => !isBreak c else t
  if t.atLineEnd then some t else none

/-- The hyphen or dot of a document marker: three of them at the beginning of a line, with a gap
behind. -/
def marker? : Text → Option Char
  | a :: b :: c :: rest =>
    if a.column = 0 ∧ (a.char = '-' ∨ a.char = '.') ∧ b.char = a.char ∧ c.char = a.char ∧ atGap rest
    then some a.char else none
  | _ => none

end Text
end PullTriage.Yaml
