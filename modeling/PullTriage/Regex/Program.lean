import PullTriage.Regex.Look
import PullTriage.Unicode.Ranges

/-!
  PullTriage.Regex.Program: patterns in the form in which they are compiled.

  Before it is compiled a pattern is simplified: what says nothing is left out, characters in a row
  become one literal, nested sequences and alternatives are flattened, alternatives that are single
  characters or classes become a class, and what all alternatives begin with is put in front of them.
  None of this changes what matches, but it changes how large the compiled pattern is. The
  constructors `concatOf`, `alternationOf`, `repeatedTimes` and `ofRanges` do it.

  Text patterns are programs over characters, path globs programs over bytes.
-/

namespace PullTriage.Regex

open Unicode (Ranges)

/-- A pattern to be compiled. -/
inductive Program where
  | empty
  /-- Given symbols in a row. -/
  | literal (symbols : List Nat)
  /-- One symbol out of the ranges. -/
  | oneOf (ranges : Ranges)
  | look (l : Look)
  | repeated (body : Program) (least : Nat) (most : Option Nat)
  /-- A group whose place in the text is recorded. -/
  | captured (body : Program)
  | concat (parts : List Program)
  | alternation (branches : List Program)
  deriving Inhabited

namespace Program

/-! ## §1. Lengths of matches -/

mutual

/-- Whether every match is empty. -/
def isStepless : Program → Bool
  | empty => true
  | literal _ => false
  | oneOf _ => false
  | look _ => true
  | repeated body _ _ => body.isStepless
  | captured body => body.isStepless
  | concat parts => areStepless parts
  | alternation branches => areStepless branches

/-- Whether every match of every program is empty. -/
def areStepless : List Program → Bool
  | [] => true
  | p :: rest => p.isStepless && areStepless rest

end

mutual

/-- The least number of symbols of a match; there is none if a class without members is in the way. -/
def least? : Program → Option Nat
  | empty => some 0
  | literal symbols => some symbols.length
  | oneOf ranges => if ranges.isEmpty then none else some 1
  | look _ => some 0
  | repeated body least _ => body.least?.map (least * ·)
  | captured body => body.least?
  | concat parts => leastOfAll? parts
  | alternation branches => leastOfAny? branches

/-- The least number of symbols of matches in a row. -/
def leastOfAll? : List Program → Option Nat
  | [] => some 0
  | p :: rest => do return (← p.least?) + (← leastOfAll? rest)

/-- The least number of symbols of a match of one of the programs. -/
def leastOfAny? : List Program → Option Nat
  | [] => none
  | [p] => p.least?
  | p :: rest => do return min (← p.least?) (← leastOfAny? rest)

end

mutual

/-- Whether every match begins at the beginning of the text, or ends at its end. -/
def isAnchored (anchor : Look) : Program → Bool
  | empty => false
  | literal _ => false
  | oneOf _ => false
  | look l => l == anchor
  | repeated body least _ => 0 < least && body.isAnchored anchor
  | captured body => body.isAnchored anchor
  | concat parts => if anchor = .textEnd then lastAnchored anchor parts else firstAnchored anchor parts
  | alternation branches => areAnchored anchor branches

/-- Whether one of the programs in front of the first step is anchored. -/
def firstAnchored (anchor : Look) : List Program → Bool
  | [] => false
  | p :: rest => p.isAnchored anchor || (p.isStepless && firstAnchored anchor rest)

/-- Whether one of the programs behind the last step is anchored. -/
def lastAnchored (anchor : Look) : List Program → Bool
  | [] => false
  | p :: rest => lastAnchored anchor rest || (areStepless rest && p.isAnchored anchor)

/-- Whether all programs are anchored. -/
def areAnchored (anchor : Look) : List Program → Bool
  | [] => true
  | p :: rest => p.isAnchored anchor && areAnchored anchor rest

end

/-! ## §2. Simplifying -/

/-- A class; a single symbol is a literal. -/
def ofRanges : Ranges → Program
  | [(low, high)] => if low = high then literal [low] else oneOf [(low, high)]
  | ranges => oneOf ranges

/-- Repetition. A body without steps is repeated once at most. -/
def repeatedTimes (p : Program) (least : Nat) (most : Option Nat) : Program :=
  -- a further round would match nothing at the same place again
  let bounds := if p.isStepless then (min least 1, some (min (most.getD 1) 1)) else (least, most)
  if bounds = (0, some 0) then empty
  else if bounds = (1, some 1) then p
  else repeated p bounds.1 bounds.2

/-- The parts of a sequence. -/
def parts : Program → List Program
  | concat ps => ps
  | p => [p]

/-- Literals in a row become one. -/
def joinLiterals : List Program → List Program
  | [] => []
  | literal a :: rest =>
    match joinLiterals rest with
    | literal b :: others => literal (a ++ b) :: others
    | others => literal a :: others
  | p :: rest => p :: joinLiterals rest

/-- Whether a program says nothing. -/
def isEmpty : Program → Bool
  | empty => true
  | _ => false

/-- Programs in a row. -/
def concatOf (ps : List Program) : Program :=
  match ps.filter fun p => !p.isEmpty with
  | [] => empty
  | [p] => p
  | ps =>
    -- literals may have come to stand side by side only now
    match joinLiterals (ps.flatMap parts) with
    | [p] => p
    | ps => concat ps

/-- The branches of alternatives. -/
def branches : Program → List Program
  | alternation ps => ps
  | p => [p]

/-- The ranges of a class or a literal of one symbol. -/
def ranges? : Program → Option Ranges
  | literal [c] => some [(c, c)]
  | oneOf ranges => some ranges
  | _ => none

/-- Alternatives. If all of them are classes, they are one class. -/
def mergedAlternation (ps : List Program) : Program :=
  match ps.flatMap branches with
  | [] => oneOf []
  | [p] => p
  | ps =>
    match ps.mapM ranges? with
    | some rs => ofRanges (rs.foldr Ranges.union [])
    | none => alternation ps

mutual

/-- Whether two programs are written alike. Two groups that record their places never are. -/
def isSame : Program → Program → Bool
  | empty, empty => true
  | literal a, literal b => a == b
  | oneOf a, oneOf b => a == b
  | look a, look b => a == b
  | repeated p least most, repeated q least' most' => p.isSame q && least == least' && most == most'
  | concat ps, concat qs => areSame ps qs
  | alternation ps, alternation qs => areSame ps qs
  | _, _ => false

/-- Whether programs are written alike one by one. -/
def areSame : List Program → List Program → Bool
  | [], [] => true
  | p :: ps, q :: qs => p.isSame q && areSame ps qs
  | _, _ => false

end

/-- What two lists begin with. -/
def commonFront : List Program → List Program → List Program
  | p :: ps, q :: qs => if p.isSame q then p :: commonFront ps qs else []
  | _, _ => []

/-- What all branches begin with, if they are sequences. -/
def sharedFront : List Program → List Program
  | concat ps :: rest => rest.foldl (fun front p => match p with
    | concat qs => commonFront front qs
    | _ => []) ps
  | _ => []

/-- Alternatives, with what all of them begin with in front. -/
def alternationOf (ps : List Program) : Program :=
  let ps := ps.flatMap branches
  let front := sharedFront ps
  -- what is left of the branches may be made of single symbols, so it is merged again
  if ps.length ≤ 1 ∨ front.isEmpty then mergedAlternation ps
  else concatOf (front ++ [mergedAlternation (ps.map fun p => concatOf (p.parts.drop front.length))])

end Program
end PullTriage.Regex
