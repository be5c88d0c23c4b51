import PullTriage.Regex.Automaton
import PullTriage.Regex.Meaning

/-!
  PullTriage.Regex.Size: the program of a text pattern, and whether it is too large.

  The program has the same steps as the pattern over characters that `Ast.meaning?` gives, and keeps
  what that pattern forgets because it does not change what matches: which groups record their places,
  and which alternatives stand side by side.
-/

namespace PullTriage.Regex

open Unicode (CharSet)

/-- The greatest size of a compiled text pattern, in bytes. -/
def sizeLimit : Nat := 1048576

/-- One character out of a set. -/
def Program.ofSet (a : CharSet) : Program := .ofRanges a.ranges

mutual

/-- The program of a tree, and the flags for what follows it in its group. -/
def Ast.program? (m : Mode) : Ast → Option (Program × Mode)
  | .empty => some (.empty, m)
  | .flags items => some (.empty, m.apply items)
  | .literal l => do return (.ofSet (m.fold (.single (← l.code? m))), m)
  | .dot => do return (.ofSet (← dotSet? m), m)
  | .assertion a => some (.look (a.look m.multiLine m.carriageReturn m.unicode), m)
  | .shorthand negated s => do return (.ofSet (← shorthandSet? m negated s), m)
  | .property negated q => do return (.ofSet (← propertySet? m negated q), m)
  | .bracketed negated set => do
    return (.ofSet (← m.foldAndNegate? negated (← set.set? m)), m)
  | .repetition body least most => do
    let (p, m) ← body.program? m
    return (p.repeatedTimes least most, m)
  | .group (.flags items) body => do
    let (p, _) ← body.program? (m.apply items)
    return (p, m)
  | .group _ body => do
    let (p, _) ← body.program? m
    return (.captured p, m)
  | .alternation branches => do
    let (ps, m) ← programs? m branches
    return (.alternationOf ps, m)
  | .concat parts => do
    let (ps, m) ← programs? m parts
    return (.concatOf ps, m)

/-- The programs of trees that follow one another, each with the flags left by those before. -/
def programs? (m : Mode) : List Ast → Option (List Program × Mode)
  | [] => some ([], m)
  | a :: rest => do
    let (p, m) ← a.program? m
    let (ps, m) ← programs? m rest
    return (p :: ps, m)

end

/-- Whether a compiled text pattern is small enough. -/
def fits (p : Program) : Bool := fitsLimit .characters sizeLimit [p]

end PullTriage.Regex
