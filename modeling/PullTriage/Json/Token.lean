import PullTriage.Digit
import PullTriage.Json.Document

/-!
  PullTriage.Json.Token: the lexemes of a JSON text.

  A text is read one character at a time by an automaton whose state is the lexeme in progress, so
  the lexer is a fold over the characters and total by construction. Strings are checked here (no
  raw control characters, only the known escapes); a `\u` escape that is half of a surrogate pair
  without its partner leaves the string without a text.
-/

namespace PullTriage.Json

/-- A lexeme. -/
inductive Token where
  | openList
  | closeList
  | openMap
  | closeMap
  | comma
  | colon
  | text (text : Option String)
  | scalar (value : Document)
  deriving Repr, Inhabited

/-! ## §1. Strings -/

/-- A piece of a string literal: a character, or the 16-bit unit of a `\u` escape. -/
inductive Piece where
  | char (c : Char)
  | unit (n : Nat)
  deriving Repr

/-- First halves of surrogate pairs. -/
def isHighSurrogate (n : Nat) : Bool := 0xD800 ≤ n && n ≤ 0xDBFF

/-- Second halves of surrogate pairs. -/
def isLowSurrogate (n : Nat) : Bool := 0xDC00 ≤ n && n ≤ 0xDFFF

/-- The text that pieces spell; `none` if a surrogate stands without its partner. -/
def Piece.decode? : List Piece → Option (List Char)
  | [] => some []
  | .char c :: rest => (decode? rest).map (c :: ·)
  | .unit n :: .unit m :: rest =>
    if isHighSurrogate n then
      if isLowSurrogate m then
        (decode? rest).map (Char.ofNat (0x10000 + (n - 0xD800) * 0x400 + (m - 0xDC00)) :: ·)
      else none
    else if isLowSurrogate n then none
    else (decode? (.unit m :: rest)).map (Char.ofNat n :: ·)
  | .unit n :: rest =>
    if isHighSurrogate n || isLowSurrogate n then none
    else (decode? rest).map (Char.ofNat n :: ·)

/-- What a one-letter escape stands for. -/
def escaped? : Char → Option Char
  | '"' => some '"'
  | '\\' => some '\\'
  | '/' => some '/'
  | 'b' => some '\x08'
  | 'f' => some '\x0c'
  | 'n' => some '\n'
  | 'r' => some '\r'
  | 't' => some '\t'
  | _ => none

/-! ## §2. Numbers -/

/-- The value of a decimal digit. -/
def digitOf (c : Char) : Nat := c.toNat - '0'.toNat

/-- A run of digits at the front, and what follows. -/
def spanDigits (cs : List Char) : List Nat × List Char :=
  ((cs.takeWhile Char.isDigit).map digitOf, cs.dropWhile Char.isDigit)

/-- The number literal that a run of characters spells: no leading zero, digits on both sides of a
point, digits after an exponent mark. -/
def NumberText.ofChars? (cs : List Char) : Option NumberText :=
  let (negative, cs) := match cs with
    | '-' :: rest => (true, rest)
    | _ => (false, cs)
  let (whole, cs) := spanDigits cs
  if whole.isEmpty ∨ (whole.head? = some 0 ∧ whole.length ≠ 1) then none else
  let fraction? : Option (List Nat × List Char) := match cs with
    | '.' :: rest =>
      let (digits, rest) := spanDigits rest
      if digits.isEmpty then none else some (digits, rest)
    | _ => some ([], cs)
  fraction?.bind fun (fraction, cs) =>
  let exponent? : Option (Option (Bool × List Nat)) := match cs with
    | [] => some none
    | mark :: rest =>
      if mark = 'e' ∨ mark = 'E' then
        let (negative, rest) := match rest with
          | '+' :: rest => (false, rest)
          | '-' :: rest => (true, rest)
          | _ => (false, rest)
        let (digits, rest) := spanDigits rest
        if digits.isEmpty ∨ !rest.isEmpty then none else some (some (negative, digits))
      else none
  exponent?.map fun exponent => { negative, whole, fraction, exponent }

/-- A character that can stand in a number literal. -/
def isNumberChar (c : Char) : Bool :=
  c.isDigit || c == '-' || c == '+' || c == '.' || c == 'e' || c == 'E'

/-! ## §3. The lexer -/

namespace Token

/-- The lexeme in progress; collected characters are in reverse. -/
inductive Mode where
  | between
  | string (pieces : List Piece)
  | escape (pieces : List Piece)
  | hex (pieces : List Piece) (left : Nat) (value : Nat)
  | number (chars : List Char)
  | word (chars : List Char)

/-- Finished lexemes, in reverse, and the one in progress. -/
structure State where
  done : List Token
  mode : Mode

/-- A character outside any lexeme. -/
def start? (done : List Token) (c : Char) : Option State :=
  if c = ' ' ∨ c = '\t' ∨ c = '\n' ∨ c = '\r' then some ⟨done, .between⟩
  else if c = '[' then some ⟨.openList :: done, .between⟩
  else if c = ']' then some ⟨.closeList :: done, .between⟩
  else if c = '\x7b' then some ⟨.openMap :: done, .between⟩
  else if c = '\x7d' then some ⟨.closeMap :: done, .between⟩
  else if c = ',' then some ⟨.comma :: done, .between⟩
  else if c = ':' then some ⟨.colon :: done, .between⟩
  else if c = '"' then some ⟨done, .string []⟩
  else if c = '-' ∨ c.isDigit then some ⟨done, .number [c]⟩
  else if c.isLower then some ⟨done, .word [c]⟩
  else none

/-- The literal that a word spells. -/
def ofWord? (chars : List Char) : Option Token :=
  if chars = "null".toList then some (.scalar .null)
  else if chars = "true".toList then some (.scalar (.bool true))
  else if chars = "false".toList then some (.scalar (.bool false))
  else none

/-- Close a number or word; a string cannot be closed this way. -/
def finish? : State → Option (List Token)
  | ⟨done, .between⟩ => some done
  | ⟨done, .number chars⟩ =>
    (NumberText.ofChars? chars.reverse).map fun n => .scalar (.number n) :: done
  | ⟨done, .word chars⟩ => (ofWord? chars.reverse).map (· :: done)
  | _ => none

/-- Read one character. -/
def step? (s : State) (c : Char) : Option State :=
  match s.mode with
  | .between => start? s.done c
  | .string pieces =>
    if c = '"' then
      some ⟨.text ((Piece.decode? pieces.reverse).map String.ofList) :: s.done, .between⟩
    else if c = '\\' then some ⟨s.done, .escape pieces⟩
    else if c.toNat < 0x20 then none
    else some ⟨s.done, .string (.char c :: pieces)⟩
  | .escape pieces =>
    if c = 'u' then some ⟨s.done, .hex pieces 4 0⟩
    else (escaped? c).map fun e => ⟨s.done, .string (.char e :: pieces)⟩
  | .hex pieces left value =>
    (hexDigit? c).map fun d =>
      let value := value * 16 + d
      if left ≤ 1 then ⟨s.done, .string (.unit value :: pieces)⟩
      else ⟨s.done, .hex pieces (left - 1) value⟩
  | .number chars =>
    if isNumberChar c then some ⟨s.done, .number (c :: chars)⟩
    else (finish? s).bind (start? · c)
  | .word chars =>
    if c.isLower then some ⟨s.done, .word (c :: chars)⟩
    else (finish? s).bind (start? · c)

/-- The lexemes of a text. -/
def scan? (text : String) : Option (List Token) :=
  ((text.toList.foldlM step? ⟨[], .between⟩).bind finish?).map List.reverse

end Token
end PullTriage.Json
