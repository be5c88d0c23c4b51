import PullTriage.RuleError
import PullTriage.Regex.Search

/-!
  PullTriage.TextPattern: patterns that are searched for in a text, case aside.

  Rule files often begin a pattern with the marker `(?i)`. Every occurrence of it is removed: case
  never counts, and a flag group that would turn this off is refused.

  Main definitions:
    * `TextPattern.compile`: from a pattern as written to one that can be searched for;
    * `TextPatterns.find?`: the first pattern of a list that is found in a text.
-/

namespace PullTriage

/-! ## §1. Markers and flag groups -/

namespace TextPattern

/-- Remove every `(?i)`, from left to right. -/
def stripMarkers : List Char → List Char
  | '(' :: '?' :: 'i' :: ')' :: rest => stripMarkers rest
  | c :: rest => c :: stripMarkers rest
  | [] => []

/-- Where the search for flag groups stands. Classes are counted by their brackets alone; at depth
zero a parenthesis may begin a flag group. -/
inductive Scan where
  | plain (depth : Nat)
  | escaped (depth : Nat)
  /-- After the bracket that opens a class: a caret or a closing bracket is skipped. -/
  | opened (depth : Nat)
  /-- After the caret of a class: a closing bracket is skipped. -/
  | negated (depth : Nat)
  | parenthesis
  | flags (minus : Bool)
  deriving DecidableEq, Repr, Inhabited

namespace Scan

/-- A character that belongs to nothing begun before it. -/
def next (depth : Nat) (c : Char) : Scan :=
  if c = '\\' then escaped depth
  else if c = '[' then opened (depth + 1)
  else if c = ']' then plain (depth - 1)
  else if c = '(' ∧ depth = 0 then parenthesis
  else plain depth

/-- Read a character; `none` when it is an `i` after a minus sign in a flag group. -/
def step? : Scan → Char → Option Scan
  | plain depth, c => some (next depth c)
  | escaped depth, _ => some (plain depth)
  | opened depth, c =>
    some (if c = '^' then negated depth else if c = ']' then plain depth else next depth c)
  | negated depth, c => some (if c = ']' then plain depth else next depth c)
  | parenthesis, c => some (if c = '?' then flags false else next 0 c)
  | flags minus, c =>
    if c = '-' then some (flags true)
    else if c = 'i' then if minus then none else some (flags minus)
    else if c ∈ ['m', 's', 'R', 'U', 'u', 'x'] then some (flags minus)
    else some (next 0 c)

end Scan

/-- Whether a flag group turns case sensitivity on, as far as brackets and escapes tell. -/
def restoresCase (pattern : List Char) : Bool := (pattern.foldlM Scan.step? (.plain 0)).isNone

/-! ## §2. Compiling -/

/-- The reason that is given for a pattern that cannot be searched for. -/
def reason : Regex.Problem → PatternReason
  | .syntaxError => .malformed
  | .tooLarge =>
    .words ("Compiled regex exceeds size limit of " ++ toString Regex.sizeLimit ++ " bytes.")

/-- Compile a pattern as written. -/
def compile (written : String) : Except RuleError Regex :=
  let pattern := stripMarkers written.toList
  let text := String.ofList pattern
  if text.utf8ByteSize > maxPatternLength then
    .error (.patternTooLong text.utf8ByteSize maxPatternLength)
  else if restoresCase pattern then
    .error (.invalidPattern text
      (.words "inline flags may not disable case-insensitive matching"))
  else match Regex.ofString text with
    | .ok r => .ok r
    | .error p => .error (.invalidPattern text (reason p))

end TextPattern

/-- A pattern as written, with what it compiles to. -/
structure TextPattern where
  written : String
  regex : Regex
  compiled : TextPattern.compile written = .ok regex

namespace TextPattern

/-- Compile a pattern and keep how it was written. -/
def ofString (written : String) : Except RuleError TextPattern :=
  match h : compile written with
  | .ok regex => .ok ⟨written, regex, h⟩
  | .error e => .error e

/-- Whether the pattern is found in a text. -/
def foundIn (p : TextPattern) (text : String) : Bool := p.regex.foundIn text

end TextPattern

/-! ## §3. Lists of patterns -/

/-- Patterns of which one has to be found. -/
structure TextPatterns where
  patterns : List TextPattern

namespace TextPatterns

/-- Compile patterns; the error is that of the first one that has one. -/
def ofStrings (written : List String) : Except RuleError TextPatterns :=
  (written.mapM TextPattern.ofString).map TextPatterns.mk

/-- The patterns as written. -/
def written (ps : TextPatterns) : List String := ps.patterns.map TextPattern.written

/-- Whether there is no pattern. -/
def isEmpty (ps : TextPatterns) : Bool := ps.patterns.isEmpty

/-- The first pattern, as written, that is found in a text. -/
def find? (ps : TextPatterns) (text : String) : Option String :=
  (ps.patterns.find? (·.foundIn text)).map TextPattern.written

/-- Whether a pattern is found in a text. -/
def foundIn (ps : TextPatterns) (text : String) : Bool := ps.patterns.any (·.foundIn text)

end TextPatterns
end PullTriage
