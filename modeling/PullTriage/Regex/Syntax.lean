import PullTriage.Unicode.CharSet

/-!
  PullTriage.Regex.Syntax: text patterns as written.

  The tree keeps everything that decides what a pattern means: escapes in the way they were written
  where that matters, flag groups with their signs, classes as nested sets. Whether a repetition is
  lazy is not kept, because it cannot change whether a text matches.

  `Ast.nesting` is the depth that the limit on nested patterns counts.
-/

namespace PullTriage.Regex

/-! ## §1. Flags -/

/-- The letters of a flag group. -/
inductive Flag where
  | ignoreCase
  | multiLine
  | dotMatchesNewline
  | swapGreed
  | unicode
  | carriageReturn
  | verbose
  deriving DecidableEq, Repr, Inhabited

/-- One character of a flag group: a flag, or the sign that turns off what follows. -/
inductive FlagItem where
  | minus
  | flag (f : Flag)
  deriving DecidableEq, Repr, Inhabited

/-- What a flag group says about a flag: on, off, or nothing. -/
def FlagItem.state (items : List FlagItem) (f : Flag) : Option Bool :=
  go true items
where
  go : Bool → List FlagItem → Option Bool
    | _, [] => none
    | _, .minus :: rest => go false rest
    | on, .flag g :: rest => if g = f then some on else go on rest

/-! ## §2. Pieces -/

/-- A literal character; `asByte` is set for the two-digit hexadecimal escape, which names a byte
when Unicode is off. -/
structure Literal where
  char : Char
  asByte : Bool := false
  deriving DecidableEq, Repr, Inhabited

/-- Conditions on a position. -/
inductive Assertion where
  | startLine
  | endLine
  | startText
  | endText
  | wordBoundary
  | notWordBoundary
  | wordStart
  | wordEnd
  | wordStartHalf
  | wordEndHalf
  deriving DecidableEq, Repr, Inhabited

/-- The classes that are named between colons. -/
inductive PosixClass where
  | alnum | alpha | ascii | blank | cntrl | digit | graph | lower | print | punct | space | upper
  | word | xdigit
  deriving DecidableEq, Repr, Inhabited

/-- A property of characters, by name or by name and value. -/
inductive PropertyQuery where
  | name (n : String)
  | value (property value : String)
  deriving DecidableEq, Repr, Inhabited

/-- How the two sides of a class operator combine. -/
inductive SetOp where
  | intersection
  | difference
  | symmetricDifference
  deriving DecidableEq, Repr, Inhabited

mutual

/-- A member of a bracketed class. -/
inductive ClassItem where
  | literal (l : Literal)
  | range (low high : Literal)
  | posix (negated : Bool) (c : PosixClass)
  | shorthand (negated : Bool) (s : Unicode.Shorthand)
  | property (negated : Bool) (q : PropertyQuery)
  | bracketed (negated : Bool) (set : ClassSet)

/-- What stands between brackets: members side by side, or two sides of an operator. -/
inductive ClassSet where
  | items (members : List ClassItem)
  | binary (op : SetOp) (left right : ClassSet)

end

instance : Inhabited ClassItem := ⟨.literal ⟨'a', false⟩⟩
instance : Inhabited ClassSet := ⟨.items []⟩

/-- What an opening parenthesis begins, flag groups without a body apart. -/
inductive GroupKind where
  | capture
  | named (name : String)
  | flags (items : List FlagItem)
  deriving DecidableEq, Repr, Inhabited

/-! ## §3. Patterns -/

/-- A text pattern. -/
inductive Ast where
  | empty
  | flags (items : List FlagItem)
  | literal (l : Literal)
  | dot
  | assertion (a : Assertion)
  | shorthand (negated : Bool) (s : Unicode.Shorthand)
  | property (negated : Bool) (q : PropertyQuery)
  | bracketed (negated : Bool) (set : ClassSet)
  | repetition (body : Ast) (least : Nat) (most : Option Nat)
  | group (kind : GroupKind) (body : Ast)
  | alternation (branches : List Ast)
  | concat (parts : List Ast)
  deriving Inhabited

namespace Ast

/-- Parts side by side; a single part stands for itself. -/
def ofParts : List Ast → Ast
  | [] => .empty
  | [a] => a
  | parts => .concat parts

/-- Alternatives; a single one stands for itself. -/
def ofBranches : List Ast → Ast
  | [] => .empty
  | [a] => a
  | branches => .alternation branches

end Ast

/-! ## §4. Nesting -/

mutual

/-- How deep a member of a class nests. -/
def ClassItem.nesting : ClassItem → Nat
  | .bracketed _ set => set.nesting + 1
  | _ => 0

/-- How deep the inside of a class nests; members side by side count as a level if there is more than
one. -/
def ClassSet.nesting : ClassSet → Nat
  | .items members => itemsNesting members + if 2 ≤ members.length then 1 else 0
  | .binary _ left right => max left.nesting right.nesting + 1

/-- The greatest nesting of the members of a class. -/
def itemsNesting : List ClassItem → Nat
  | [] => 0
  | i :: rest => max i.nesting (itemsNesting rest)

end

namespace Ast

mutual

/-- How deep a pattern nests: every class, repetition, group, alternation and sequence counts. -/
def nesting : Ast → Nat
  | .bracketed _ set => set.nesting + 1
  | .repetition body _ _ => body.nesting + 1
  | .group _ body => body.nesting + 1
  | .alternation branches => nestingList branches + 1
  | .concat parts => nestingList parts + 1
  | _ => 0

/-- The greatest nesting of a list of patterns. -/
def nestingList : List Ast → Nat
  | [] => 0
  | a :: rest => max a.nesting (nestingList rest)

end

/-- The deepest nesting that is accepted. -/
def maxNesting : Nat := 250

end Ast
end PullTriage.Regex
