import PullTriage.Digit
import PullTriage.Yaml.Text

/-!
  PullTriage.Yaml.FlowText: plain and quoted scalars.

  These scalars may go on over several lines. What stands between two words of one is a gap: white
  space inside a line is kept, a single line break becomes a space, and of several breaks all but the
  first are kept. Both readers hold the characters read so far, in reverse, and the gap after them.

  Main definitions:
    * `quoted?`: a scalar in single or double quotes;
    * `plain?`: a scalar without quotes.
-/

namespace PullTriage.Yaml

/-! ## §1. Gaps -/

/-- What stands between two words: white space, or line breaks, of which the first is apart. It is
missing where a backslash took it away. The lists are in reverse. -/
inductive Gap where
  | white (chars : List Char)
  | broken (first : Option Char) (others : List Char)
  deriving Repr, Inhabited

namespace Gap

/-- Nothing between two characters of a word. -/
def empty : Gap := .white []

/-- Whether there is no gap. -/
def isEmpty : Gap → Bool
  | .white [] => true
  | _ => false

/-- Whether a line ends in the gap. -/
def isBroken : Gap → Bool
  | .white _ => false
  | .broken _ _ => true

/-- Read white space or a line break. -/
def add (g : Gap) (c : Char) : Gap :=
  match g with
  | .white chars => if isBreak c then .broken (some c) [] else .white (c :: chars)
  | .broken first others => if isBreak c then .broken first (c :: others) else g

/-- What a gap stands for, in reverse. -/
def folded : Gap → List Char
  | .white chars => chars
  | .broken (some '\n') [] => [' ']
  | .broken (some '\n') others => others
  | .broken first others => others ++ first.toList

end Gap

/-! ## §2. Quoted scalars -/

/-- What the next character of a quoted scalar belongs to. -/
inductive QuoteMode where
  | text
  | escape
  | code (left : Nat) (value : Nat)

/-- What a backslash and a character stand for. -/
def escaped? : Char → Option Char
  | '0' => some '\x00'
  | 'a' => some '\x07'
  | 'b' => some '\x08'
  | 't' => some '\t'
  | '\t' => some '\t'
  | 'n' => some '\n'
  | 'v' => some '\x0b'
  | 'f' => some '\x0c'
  | 'r' => some '\r'
  | 'e' => some '\x1b'
  | ' ' => some ' '
  | '"' => some '"'
  | '/' => some '/'
  | '\\' => some '\\'
  | 'N' => some '\x85'
  | '_' => some '\u00a0'
  | 'L' => some '\u2028'
  | 'P' => some '\u2029'
  | _ => none

/-- How many hexadecimal digits follow the letter of an escape. -/
def codeLength? : Char → Option Nat
  | 'x' => some 2
  | 'u' => some 4
  | 'U' => some 8
  | _ => none

/-- The rest of a quoted scalar: what it says and the text behind its closing quote. In single quotes
a quote is written twice; in double quotes a backslash escapes. A document marker ends the document
also here, so it may not occur. -/
def quoted? (double : Bool) : QuoteMode → List Char → Gap → Text → Option (String × Text)
  | _, _, _, [] => none
  | .text, acc, gap, p :: rest =>
    if isSpace p.char then quoted? double .text acc (gap.add p.char) rest
    else if (Text.marker? (p :: rest)).isSome then none else
    let acc := gap.folded ++ acc
    if double then
      if p.char = '"' then some (String.ofList acc.reverse, rest)
      else if p.char = '\\' then quoted? double .escape acc .empty rest
      else quoted? double .text (p.char :: acc) .empty rest
    else if p.char = '\'' then
      match rest with
      | q :: rest =>
        if q.char = '\'' then quoted? double .text ('\'' :: acc) .empty rest
        else some (String.ofList acc.reverse, q :: rest)
      | [] => some (String.ofList acc.reverse, [])
    else quoted? double .text (p.char :: acc) .empty rest
  | .escape, acc, _, p :: rest =>
    if isBreak p.char then quoted? double .text acc (.broken none []) rest
    else match escaped? p.char, codeLength? p.char with
      | some c, _ => quoted? double .text (c :: acc) .empty rest
      | none, some n => quoted? double (.code n 0) acc .empty rest
      | none, none => none
  | .code left value, acc, _, p :: rest =>
    match hexDigit? p.char with
    | none => none
    | some d =>
      let value := value * 16 + d
      if left ≤ 1 then
        match charOfCode? value with
        | some c => quoted? double .text (c :: acc) .empty rest
        | none => none
      else quoted? double (.code (left - 1) value) acc .empty rest

/-! ## §3. Plain scalars -/

/-- Characters that belong to the layout of flow collections. -/
def isFlowIndicator (c : Char) : Bool :=
  c == ',' || c == '[' || c == ']' || c == '\x7b' || c == '\x7d'

/-- Whether a plain scalar may begin with a character, given the text behind it. -/
def canBeginPlain (inFlow : Bool) (c : Char) (rest : Text) : Bool :=
  if c == '-' then !rest.head?.any fun p => isBlank p.char
  else if c == '?' || c == ':' then !inFlow && !Text.atGap rest
  else !(isSpace c || isFlowIndicator c || c == '#' || c == '&' || c == '*' || c == '!' || c == '|'
    || c == '>' || c == '\'' || c == '"' || c == '%' || c == '@' || c == '\x60')

/-- The rest of a plain scalar: its characters in reverse, whether a line ended behind it, and the
text from there. Outside flow collections, lines that go on with the scalar are indented by at least
`indent` columns. -/
def plain? (inFlow : Bool) (indent : Int) (acc : List Char) (gap : Gap) :
    Text → Option (List Char × Bool × Text)
  | [] => some (acc, gap.isBroken, [])
  | p :: rest =>
    if isSpace p.char then
      if gap.isBroken && p.char == '\t' && p.column < indent then none
      else plain? inFlow indent acc (gap.add p.char) rest
    else
      let ends := (!gap.isEmpty && ((!inFlow && p.column < indent) || p.char == '#')) ||
        (Text.marker? (p :: rest)).isSome
      if ends then some (acc, gap.isBroken, p :: rest)
      else if inFlow && p.char == ':' && rest.head?.any (fun q => isFlowIndicator q.char || q.char == '?')
      then none
      else if (p.char == ':' && Text.atGap rest) || (inFlow && isFlowIndicator p.char) then
        some (acc, gap.isBroken, p :: rest)
      else plain? inFlow indent (p.char :: (gap.folded ++ acc)) .empty rest

end PullTriage.Yaml
