import PullTriage.Regex.Syntax

/-!
  PullTriage.Regex.Look: conditions on a position of a text.

  A condition only depends on the characters before and after the position, if there are any.
-/

namespace PullTriage.Regex

/-- Boundaries between word characters and others. -/
inductive Boundary where
  | either
  | neither
  | start
  | finish
  | startHalf
  | finishHalf
  deriving DecidableEq, Repr, Inhabited

/-- Conditions on a position. Lines end with a line feed or, if `carriageReturn` is set, with any of
`\r`, `\n` and `\r\n`; word characters are those below U+0080 if `ascii` is set. -/
inductive Look where
  | textStart
  | textEnd
  | lineStart (carriageReturn : Bool)
  | lineEnd (carriageReturn : Bool)
  | word (kind : Boundary) (ascii : Bool)
  deriving DecidableEq, Repr, Inhabited

/-- Whether a character is a word character. -/
def isWord (ascii : Bool) (c : Nat) : Bool :=
  if ascii then Unicode.Shorthand.word.containsAscii c else Unicode.Shorthand.word.contains c

/-- What a boundary asks of the two sides. -/
def Boundary.holds (wordBefore wordAfter : Bool) : Boundary → Bool
  | either => wordBefore != wordAfter
  | neither => wordBefore == wordAfter
  | start => !wordBefore && wordAfter
  | finish => wordBefore && !wordAfter
  | startHalf => !wordBefore
  | finishHalf => !wordAfter

/-- Whether a condition holds between two characters. -/
def Look.holds : Look → Option Nat → Option Nat → Bool
  | textStart, before, _ => before.isNone
  | textEnd, _, after => after.isNone
  | lineStart false, before, _ => before.all (· == 0x0A)
  | lineStart true, before, after =>
    before.all fun b => b == 0x0A || (b == 0x0D && after != some 0x0A)
  | lineEnd false, _, after => after.all (· == 0x0A)
  | lineEnd true, before, after =>
    after.all fun a => a == 0x0D || (a == 0x0A && before != some 0x0D)
  | word kind ascii, before, after =>
    kind.holds (before.any (isWord ascii)) (after.any (isWord ascii))

/-- The condition that an assertion stands for. -/
def Assertion.look (multiLine carriageReturn unicode : Bool) : Assertion → Look
  | startLine => if multiLine then .lineStart carriageReturn else .textStart
  | endLine => if multiLine then .lineEnd carriageReturn else .textEnd
  | startText => .textStart
  | endText => .textEnd
  | wordBoundary => .word .either !unicode
  | notWordBoundary => .word .neither !unicode
  | wordStart => .word .start !unicode
  | wordEnd => .word .finish !unicode
  | wordStartHalf => .word .startHalf !unicode
  | wordEndHalf => .word .finishHalf !unicode

end PullTriage.Regex
