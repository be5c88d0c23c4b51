import PullTriage.Pattern.Basic
import PullTriage.Regex.Look
import PullTriage.Unicode.PropertyName

/-!
  PullTriage.Regex.Meaning: the pattern over characters that a tree stands for.

  Flags are carried through the tree: a flag group changes them for what follows in its group, and a
  group with flags for its body. With the `i` flag every literal, every bracketed class and every
  property is closed under case before it is negated; so are the sides of a class operator.

  With Unicode off, classes are sets of bytes. Text is UTF-8, so a class that holds a byte from 0x80
  on has no meaning, and neither have the dot and the properties.
-/

namespace PullTriage.Regex

open Unicode (CharSet)

/-- The flags that decide what a piece means. -/
structure Mode where
  ignoreCase : Bool
  multiLine : Bool
  dotMatchesNewline : Bool
  carriageReturn : Bool
  unicode : Bool
  deriving DecidableEq, Repr, Inhabited

namespace Mode

/-- Set one flag. -/
def set (m : Mode) (on : Bool) : Flag → Mode
  | .ignoreCase => { m with ignoreCase := on }
  | .multiLine => { m with multiLine := on }
  | .dotMatchesNewline => { m with dotMatchesNewline := on }
  | .carriageReturn => { m with carriageReturn := on }
  | .unicode => { m with unicode := on }
  | .swapGreed => m
  | .verbose => m

/-- Apply the items of a flag group; those after the minus sign turn flags off. -/
def apply (m : Mode) (items : List FlagItem) : Mode :=
  go true m items
where
  go : Bool → Mode → List FlagItem → Mode
    | _, m, [] => m
    | _, m, .minus :: rest => go false m rest
    | on, m, .flag f :: rest => go on (m.set on f) rest

/-- The flags at the beginning of a pattern: case does not count and characters are Unicode. -/
def initial : Mode := ⟨true, false, false, false, true⟩

/-- Close a set under case, if case does not count. -/
def fold (m : Mode) (a : CharSet) : CharSet :=
  if m.ignoreCase then (if m.unicode then .foldCase a else .foldAsciiCase a) else a

/-- Close under case, then negate. Without Unicode the result must hold no byte from 0x80 on. -/
def foldAndNegate? (m : Mode) (negated : Bool) (a : CharSet) : Option CharSet :=
  let folded := m.fold a
  let result := if negated then .compl folded else folded
  if m.unicode then some result
  else if result.isAsciiOnBytes then some (.inter .ascii result)
  else none

end Mode

/-! ## §1. Classes -/

/-- The members of a class named between colons. -/
def PosixClass.set : PosixClass → CharSet
  | alnum => .unions [.range 0x30 0x39, .range 0x41 0x5A, .range 0x61 0x7A]
  | alpha => .unions [.range 0x41 0x5A, .range 0x61 0x7A]
  | ascii => .ascii
  | blank => .unions [.single 0x09, .single 0x20]
  | cntrl => .unions [.range 0x00 0x1F, .single 0x7F]
  | digit => .range 0x30 0x39
  | graph => .range 0x21 0x7E
  | lower => .range 0x61 0x7A
  | print => .range 0x20 0x7E
  | punct => .unions [.range 0x21 0x2F, .range 0x3A 0x40, .range 0x5B 0x60, .range 0x7B 0x7E]
  | space => .unions [.range 0x09 0x0D, .single 0x20]
  | upper => .range 0x41 0x5A
  | word => .unions [.range 0x30 0x39, .range 0x41 0x5A, .single 0x5F, .range 0x61 0x7A]
  | xdigit => .unions [.range 0x30 0x39, .range 0x41 0x46, .range 0x61 0x66]

/-- The set that a property names. -/
def PropertyQuery.set? : PropertyQuery → Option CharSet
  | name n => Unicode.setOfName? n
  | value p v => Unicode.setOfValue? p v

/-- The code of a literal; a byte from 0x80 on has none when Unicode is off. -/
def Literal.code? (l : Literal) (m : Mode) : Option Nat :=
  if !m.unicode && l.asByte && 0x80 ≤ l.char.toNat then none else some l.char.toNat

/-- The code of a literal in a class, where Unicode off admits only ASCII. -/
def Literal.classCode? (l : Literal) (m : Mode) : Option Nat :=
  if !m.unicode && 0x80 ≤ l.char.toNat then none else l.code? m

/-- The set of a one-letter class. -/
def shorthandSet? (m : Mode) (negated : Bool) (s : Unicode.Shorthand) : Option CharSet :=
  if m.unicode then some (if negated then .compl (.shorthand s) else .shorthand s)
  else if negated then none
  else some (.asciiShorthand s)

/-- The set of a property. -/
def propertySet? (m : Mode) (negated : Bool) (q : PropertyQuery) : Option CharSet :=
  if m.unicode then q.set?.bind (m.foldAndNegate? negated) else none

/-- The set that an operator makes of its sides. -/
def SetOp.apply : SetOp → CharSet → CharSet → CharSet
  | intersection => .inter
  | difference => .diff
  | symmetricDifference => .symmDiff

mutual

/-- The set of a member of a class. -/
def ClassItem.set? (m : Mode) : ClassItem → Option CharSet
  | .literal l => (l.classCode? m).map .single
  | .range low high => do return .range (← low.classCode? m) (← high.classCode? m)
  | .posix negated c => m.foldAndNegate? negated c.set
  | .shorthand negated s => shorthandSet? m negated s
  | .property negated q => propertySet? m negated q
  | .bracketed negated set => do m.foldAndNegate? negated (← set.set? m)

/-- The set between brackets, before it is closed under case and negated. -/
def ClassSet.set? (m : Mode) : ClassSet → Option CharSet
  | .items members => (itemSets? m members).map .unions
  | .binary op left right => do
    return op.apply (m.fold (← left.set? m)) (m.fold (← right.set? m))

/-- The sets of the members of a class. -/
def itemSets? (m : Mode) : List ClassItem → Option (List CharSet)
  | [] => some []
  | i :: rest => do return (← i.set? m) :: (← itemSets? m rest)

end

/-! ## §2. Patterns -/

/-- Patterns over characters. -/
abbrev CharPattern := Pattern CharSet Look

/-- What the dot stands for: every character, or every one that does not end a line. -/
def dotSet? (m : Mode) : Option CharSet :=
  if !m.unicode then none
  else if m.dotMatchesNewline then some .full
  else if m.carriageReturn then some (.compl (.union (.single 0x0A) (.single 0x0D)))
  else some (.compl (.single 0x0A))

/-- One branch or another. -/
def alternatives : List CharPattern → CharPattern
  | [] => .empty
  | [p] => p
  | p :: rest => .alt p (alternatives rest)

mutual

/-- The pattern of a tree, and the flags for what follows it in its group. -/
def Ast.meaning? (m : Mode) : Ast → Option (CharPattern × Mode)
  | .empty => some (.empty, m)
  | .flags items => some (.empty, m.apply items)
  | .literal l => do return (.step (m.fold (.single (← l.code? m))), m)
  | .dot => do return (.step (← dotSet? m), m)
  | .assertion a => some (.guard (a.look m.multiLine m.carriageReturn m.unicode), m)
  | .shorthand negated s => do return (.step (← shorthandSet? m negated s), m)
  | .property negated q => do return (.step (← propertySet? m negated q), m)
  | .bracketed negated set => do
    return (.step (← m.foldAndNegate? negated (← set.set? m)), m)
  | .repetition body least most => do
    let (p, m) ← body.meaning? m
    return (p.repeatedTimes least most, m)
  | .group kind body => do
    let inner := match kind with
      | .flags items => m.apply items
      | _ => m
    let (p, _) ← body.meaning? inner
    return (p, m)
  | .alternation branches => do
    let (ps, m) ← meanings? m branches
    return (alternatives ps, m)
  | .concat parts => do
    let (ps, m) ← meanings? m parts
    return (.ofList ps, m)

/-- The patterns of trees that follow one another, each with the flags left by those before. -/
def meanings? (m : Mode) : List Ast → Option (List CharPattern × Mode)
  | [] => some ([], m)
  | a :: rest => do
    let (p, m) ← a.meaning? m
    let (ps, m) ← meanings? m rest
    return (p :: ps, m)

end

end PullTriage.Regex
