import PullTriage.Regex.Class

/-!
  PullTriage.Regex.Parser: from the text of a pattern to its tree.

  The parser keeps the branch being read, the finished branches of the innermost open group, and a
  stack of the groups around it. Each round of its loop reads at least one character, so the number
  of characters bounds the rounds.

  Main definition: `Ast.parse?`; `none` means that the pattern is not well formed or nests deeper
  than `Ast.maxNesting`.
-/

namespace PullTriage.Regex

/-! ## §1. Groups and flags -/

/-- The flag that a letter names. -/
def Flag.ofChar? : Char → Option Flag
  | 'i' => some .ignoreCase
  | 'm' => some .multiLine
  | 's' => some .dotMatchesNewline
  | 'U' => some .swapGreed
  | 'u' => some .unicode
  | 'R' => some .carriageReturn
  | 'x' => some .verbose
  | _ => none

/-- The items of a flag group up to the colon or parenthesis that ends it, which is left in place.
No item occurs twice and the minus sign is not the last. -/
def flagItems? (items : List FlagItem) : List Char → Option (List FlagItem × List Char)
  | [] => none
  | c :: rest =>
    if c = ':' ∨ c = ')' then
      if items.head? = some .minus then none else some (items.reverse, c :: rest)
    else
      let item := if c = '-' then some .minus else (Flag.ofChar? c).map .flag
      item.bind fun item => if item ∈ items then none else flagItems? (item :: items) rest

/-- Characters of a group name. -/
def isNameChar (first : Bool) (c : Char) : Bool :=
  c == '_' || Unicode.isAlphabetic c.toNat ||
    (!first && (c == '.' || c == '[' || c == ']' || Unicode.isNumeric c.toNat))

/-- A group name up to its closing angle. -/
def groupName? (cs : List Char) : Option (String × List Char) :=
  let name := cs.takeWhile (· != '>')
  match name, cs.dropWhile (· != '>') with
  | first :: others, '>' :: rest =>
    if isNameChar true first && others.all (isNameChar false) then
      some (String.ofList name, rest)
    else none
  | _, _ => none

/-- What an opening parenthesis begins. -/
inductive Opening where
  | group (kind : GroupKind)
  | setFlags (items : List FlagItem)

/-- What follows an opening parenthesis. Look-around is refused, and so is an empty flag group. -/
def opening? (verbose : Bool) (cs : List Char) : Option (Opening × List Char) :=
  match skip verbose cs with
  | '?' :: 'P' :: '<' :: rest =>
    (groupName? rest).map fun (name, rest) => (.group (.named name), rest)
  | '?' :: '<' :: rest =>
    if rest.head? = some '=' ∨ rest.head? = some '!' then none
    else (groupName? rest).map fun (name, rest) => (.group (.named name), rest)
  | '?' :: rest =>
    if rest.head? = some '=' ∨ rest.head? = some '!' then none else
    match flagItems? [] rest with
    -- flags that end in a parenthesis hold to the end of the group around them
    | some ([], ')' :: _) => none
    | some (items, ')' :: rest) => some (.setFlags items, rest)
    | some (items, _ :: rest) => some (.group (.flags items), rest)
    | _ => none
  | cs => some (.group .capture, cs)

/-! ## §2. The loop -/

/-- The branch being read and the finished branches beside it, in reverse. -/
structure Level where
  branches : List Ast
  parts : List Ast

/-- The pattern of a finished level. -/
def Level.close (l : Level) : Ast :=
  .ofBranches (.ofParts l.parts.reverse :: l.branches).reverse

/-- A group that is still open: the level around it, what it is, and the verbosity to go back to. -/
structure OpenGroup where
  outer : Level
  kind : GroupKind
  verbose : Bool

/-- The parser between two pieces. -/
structure ParserState where
  rest : List Char
  verbose : Bool
  names : List String
  level : Level
  groups : List OpenGroup

namespace ParserState

/-- Add a part to the branch being read. -/
def push (s : ParserState) (a : Ast) (rest : List Char) : ParserState :=
  { s with rest, level := { s.level with parts := a :: s.level.parts } }

/-- Whether a repetition may apply to a part. -/
def isRepeatable : Ast → Bool
  | .empty => false
  | .flags _ => false
  | _ => true

/-- Repeat the last part. -/
def repeatLast? (s : ParserState) (least : Nat) (most : Option Nat) (rest : List Char) :
    Option ParserState :=
  match s.level.parts with
  | a :: parts =>
    if isRepeatable a then
      some { s with
        rest
        level := { s.level with parts := .repetition a least most :: parts } }
    else none
  | [] => none

/-- A question mark after an operator makes it lazy. -/
def dropLazy : List Char → List Char
  | '?' :: rest => rest
  | cs => cs

/-- A count in braces, from the character after the opening brace. -/
def counted? (s : ParserState) (cs : List Char) : Option ParserState := do
  let (least, cs) ← decimal? s.verbose (skip s.verbose cs)
  let (most, cs) ← match cs with
    | ',' :: rest =>
      match skip s.verbose rest with
      -- a comma and no number: the count goes on for ever
      | '\x7d' :: rest => some (none, '\x7d' :: rest)
      | rest => (decimal? s.verbose rest).map fun (n, rest) => (some n, rest)
    | cs => some (some least, cs)
  match cs with
  | '\x7d' :: rest =>
    if most.all (least ≤ ·) then s.repeatLast? least most (dropLazy (skip s.verbose rest)) else none
  | _ => none

/-- Open a group or set flags, from the character after the parenthesis. -/
def openGroup? (s : ParserState) (cs : List Char) : Option ParserState := do
  let (opening, rest) ← opening? s.verbose cs
  match opening with
  | .setFlags items =>
    let s := s.push (.flags items) rest
    return { s with verbose := (FlagItem.state items .verbose).getD s.verbose }
  | .group kind =>
    let names ← match kind with
      | .named name => if name ∈ s.names then none else some (name :: s.names)
      | _ => some s.names
    let verbose := match kind with
      | .flags items => (FlagItem.state items .verbose).getD s.verbose
      | _ => s.verbose
    -- the verbosity in front of the group is kept, to go back to when the group is closed
    return ⟨rest, verbose, names, ⟨[], []⟩, ⟨s.level, kind, s.verbose⟩ :: s.groups⟩

/-- Close the innermost group, from the character after the parenthesis. -/
def closeGroup? (s : ParserState) (cs : List Char) : Option ParserState :=
  match s.groups with
  | [] => none
  | g :: groups =>
    some ⟨cs, g.verbose, s.names,
      { g.outer with parts := .group g.kind s.level.close :: g.outer.parts }, groups⟩

/-- End the branch being read. -/
def alternate (s : ParserState) (cs : List Char) : ParserState :=
  { s with rest := cs, level := ⟨.ofParts s.level.parts.reverse :: s.level.branches, []⟩ }

/-- Read the piece that begins with character `c`. -/
def piece? (s : ParserState) (c : Char) (cs : List Char) : Option ParserState :=
  match c with
  | '(' => s.openGroup? cs
  | ')' => s.closeGroup? cs
  | '|' => some (s.alternate cs)
  | '[' => (bracketed? s.verbose cs).map fun ((negated, set), rest) =>
      s.push (.bracketed negated set) rest
  | '?' => s.repeatLast? 0 (some 1) (dropLazy cs)
  | '*' => s.repeatLast? 0 none (dropLazy cs)
  | '+' => s.repeatLast? 1 none (dropLazy cs)
  | '\x7b' => s.counted? cs
  | c => (primitive? s.verbose (c :: cs)).map fun (p, rest) => s.push p.toAst rest

/-- Read pieces to the end of the pattern. -/
def loop? : Nat → ParserState → Option ParserState
  | 0, _ => none
  | fuel + 1, s =>
    match skip s.verbose s.rest with
    | [] => some s
    | c :: cs => (s.piece? c cs).bind (loop? fuel)

end ParserState

/-- The tree of a pattern. -/
def Ast.parse? (pattern : String) : Option Ast := do
  let cs := pattern.toList
  let s ← ParserState.loop? (cs.length + 1) ⟨cs, false, [], ⟨[], []⟩, []⟩
  -- a group is still open
  if !s.groups.isEmpty then none
  let ast := s.level.close
  if ast.nesting ≤ Ast.maxNesting then return ast else none

end PullTriage.Regex
