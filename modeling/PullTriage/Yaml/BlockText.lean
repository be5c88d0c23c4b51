import PullTriage.Yaml.Text

/-!
  PullTriage.Yaml.BlockText: literal and folded block scalars.

  A block scalar is a header and the indented lines below it. The header says what becomes of the
  line breaks at the end, and may say how far the lines are indented; otherwise the first lines tell.
  In a folded scalar the break between two lines becomes a space, unless one of them begins with
  white space.

  Main definition: `block?`.
-/

namespace PullTriage.Yaml

/-- What becomes of the line breaks at the end: one of them remains, none, or all. -/
inductive Chomping where
  | clip
  | strip
  | keep
  deriving DecidableEq, Repr

/-- The header of a block scalar. -/
structure BlockHeader where
  chomping : Chomping
  /-- How many columns the lines are indented beyond what is around them, if it says so. -/
  increment : Option Nat

/-! ## §1. The header -/

/-- The chomping that a sign asks for. -/
def Chomping.ofChar? : Char → Option Chomping
  | '+' => some .keep
  | '-' => some .strip
  | _ => none

/-- A sign at the front, and the text behind it. -/
def chompingSign (t : Text) : Chomping × Text :=
  match t with
  | p :: rest =>
    match Chomping.ofChar? p.char with
    | some chomping => (chomping, rest)
    | none => (.clip, t)
  | [] => (.clip, [])

/-- A digit at the front, and the text behind it. It may not be zero. -/
def incrementDigit? (t : Text) : Option (Option Nat × Text) :=
  match t with
  | p :: rest =>
    if p.char = '0' then none
    else if p.char.isDigit then some (some (p.char.toNat - '0'.toNat), rest)
    else some (none, t)
  | [] => some (none, [])

/-- The header, from the character behind the indicator, and the text from the next line on. A sign
and a digit come in either order. -/
def BlockHeader.read? (t : Text) : Option (BlockHeader × Text) := do
  let (before, t) := chompingSign t
  let (increment, t) ← incrementDigit? t
  let (after, t) := if before = .clip then chompingSign t else (before, t)
  let t ← t.restOfLine?
  return (⟨after, increment⟩, t.skip 1)

/-! ## §2. The lines -/

/-- The indentation that the lines show: that of the first line that is not empty, or of a longer
empty line before it. There may be no tab in it. -/
def shownIndent? (indent : Nat) : Text → Option Nat
  | [] => some indent
  | p :: rest =>
    if p.char = ' ' then shownIndent? (max indent (p.column + 1)) rest
    else if p.char = '\t' then none
    else if isBreak p.char then shownIndent? indent rest
    else some indent

/-- A block scalar in progress; the lists are in reverse. -/
structure BlockState where
  text : List Char
  /-- The break at the end of the last line. -/
  lineBreak : Option Char
  /-- The breaks of the empty lines after it. -/
  others : List Char
  /-- Whether the last line begins with white space. -/
  spaced : Bool

namespace BlockState

/-- Before the first line. -/
def initial : BlockState := ⟨[], none, [], false⟩

/-- Begin a line with a character. -/
def beginLine (s : BlockState) (folds : Bool) (c : Char) : BlockState :=
  let between :=
    if folds && s.lineBreak == some '\n' && !s.spaced && !isBlank c then
      if s.others.isEmpty then [' '] else s.others
    else s.others ++ s.lineBreak.toList
  ⟨c :: (between ++ s.text), none, [], isBlank c⟩

/-- The text of a finished scalar. -/
def finish (s : BlockState) (chomping : Chomping) : String :=
  let tail := match chomping with
    | .strip => []
    | .clip => s.lineBreak.toList
    | .keep => s.others ++ s.lineBreak.toList
  String.ofList (tail ++ s.text).reverse

end BlockState

/-- The lines of a block scalar, and the text behind them. `inLine` says whether the indentation of
the line was read. -/
def blockLines? (folds : Bool) (indent : Nat) (s : BlockState) (inLine : Bool) :
    Text → Option (BlockState × Text)
  | [] => some (s, [])
  | p :: rest =>
    if inLine then
      if isBreak p.char then
        blockLines? folds indent { s with lineBreak := some p.char } false rest
      else blockLines? folds indent { s with text := p.char :: s.text } true rest
    else if p.column < indent ∧ p.char = ' ' then blockLines? folds indent s false rest
    else if p.column < indent ∧ p.char = '\t' then none
    else if isBreak p.char then
      blockLines? folds indent { s with others := p.char :: s.others } false rest
    else if p.column = indent then blockLines? folds indent (s.beginLine folds p.char) true rest
    else some (s, p :: rest)

/-- A block scalar, from the character behind the indicator; `outer` is the indentation around it, or
`-1` at the top. -/
def block? (folds : Bool) (outer : Int) (t : Text) : Option (String × Text) := do
  let (header, t) ← BlockHeader.read? t
  let indent ← match header.increment with
    | some n => some ((max outer 0).toNat + n)
    | none => (shownIndent? 0 t).map fun shown => max shown (max 1 (outer + 1).toNat)
  let (s, t) ← blockLines? folds indent .initial false t
  return (s.finish header.chomping, t)

end PullTriage.Yaml
