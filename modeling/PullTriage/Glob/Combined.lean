import PullTriage.Glob.Strategy
import PullTriage.Regex.Automaton

/-!
  PullTriage.Glob.Combined: whether globs can be used together.

  The globs of a list whose patterns have to be run are compiled into one automaton over bytes, and a
  glob that asks for an extension before its pattern is run has an automaton of its own. There is none
  if a pattern nests too deep or the automaton would be too large. So globs may be refused together
  although each of them is well formed.

  Main definition: `combinationProblem?`.
-/

namespace PullTriage.Glob

open Regex (Program)
open Unicode (Ranges)

/-! ## §1. Globs as programs -/

/-- The bytes of a class. -/
def classBytes (negated : Bool) (ranges : List (Char × Char)) : Ranges :=
  let bytes := Ranges.union (ranges.flatMap fun r => byteRanges r.1 r.2) []
  if negated then bytes.compl 0xFF else bytes

/-- The program for one slash. -/
def slashProgram : Program := .literal [0x2F]

/-- The program for anything. -/
def anythingProgram : Program := .repeated (.oneOf [(0, 0xFF)]) 0 none

mutual

/-- The program of a piece. -/
def tokenProgram : Token → Program
  | .literal c => .literal (charBytes c)
  | .any => .oneOf [(0, 0xFF)]
  | .anyRun => anythingProgram
  | .directoriesFirst =>
    .alternationOf [.repeated slashProgram 0 (some 1), .concatOf [anythingProgram, slashProgram]]
  | .directoriesLast => .concatOf [slashProgram, anythingProgram]
  | .directoriesBetween =>
    .alternationOf [slashProgram, .concatOf [slashProgram, anythingProgram, slashProgram]]
  | .oneOf negated ranges => .ofRanges (classBytes negated ranges)
  | .alternatives branches =>
    match branchPrograms branches with
    | [] => .empty
    | ps => .alternationOf ps

/-- The programs of the branches that are not empty. -/
def branchPrograms : List (List Token) → List Program
  | [] => []
  | ts :: rest =>
    let p := Program.concatOf (tokenPrograms ts)
    if p.isEmpty then branchPrograms rest else p :: branchPrograms rest

/-- The programs of pieces. -/
def tokenPrograms : List Token → List Program
  | [] => []
  | t :: rest => tokenProgram t :: tokenPrograms rest

end

/-- The program of a whole glob, which has to match a path from its beginning to its end. A `**` on its
own matches everything. -/
def globProgram (tokens : List Token) : Program :=
  let inside := match tokens with
    | [.directoriesFirst] => [anythingProgram]
    | ts => tokenPrograms ts
  .concatOf (.look .textStart :: inside ++ [.look .textEnd])

/-! ## §2. Nesting -/

mutual

/-- How many parts the pattern of a piece has; a group whose branches are all empty has none. -/
def partCount : Token → Nat
  | .literal c => (charBytes c).length
  | .directoriesLast => 2
  | .alternatives branches => if branchesEmpty branches then 0 else 1
  | _ => 1

/-- How many parts the pattern of some pieces has. -/
def partCounts : List Token → Nat
  | [] => 0
  | t :: rest => partCount t + partCounts rest

/-- Whether no branch has any part. -/
def branchesEmpty : List (List Token) → Bool
  | [] => true
  | ts :: rest => partCounts ts == 0 && branchesEmpty rest

end

mutual

/-- How deep the pattern of a piece nests: groups, alternatives, sequences, repetitions and classes
count, and the members of a class if there is more than one. -/
def Token.nesting : Token → Nat
  | .literal _ => 0
  | .any => 0
  | .anyRun => 1
  | .directoriesFirst => 4
  | .directoriesLast => 1
  | .directoriesBetween => 4
  | .oneOf _ ranges => if 2 ≤ (ranges.flatMap fun r => byteRanges r.1 r.2).length then 2 else 1
  | .alternatives branches =>
    match (branches.filter fun ts => partCounts ts != 0).length with
    | 0 => 0
    | 1 => branchNesting branches + 1
    | _ => branchNesting branches + 2

/-- The greatest nesting of pieces. -/
def tokensNesting : List Token → Nat
  | [] => 0
  | t :: rest => max t.nesting (tokensNesting rest)

/-- The greatest nesting of branches. -/
def branchNesting : List (List Token) → Nat
  | [] => 0
  | ts :: rest => max (tokensNesting ts + if 2 ≤ partCounts ts then 1 else 0) (branchNesting rest)

end

/-- Whether the pattern of a glob nests deeper than patterns may. -/
def isTooDeep (tokens : List Token) : Bool := Regex.Ast.maxNesting < tokensNesting tokens + 1

/-! ## §3. Automata -/

/-- The greatest size of an automaton of globs, in bytes. -/
def sizeLimit : Nat := 10485760

/-- Why globs cannot be used together. -/
inductive CombinationProblem where
  /-- The pattern with this number nests too deep. -/
  | tooDeep (number : Nat)
  /-- The automaton would be too large. -/
  | tooLarge
  deriving DecidableEq, Repr, Inhabited

/-- The wording of a problem. -/
def CombinationProblem.message : CombinationProblem → String
  | tooDeep number => "error parsing pattern " ++ toString number
  | tooLarge => "error building NFA"

/-- Why globs cannot be compiled into one automaton. -/
def automatonProblem? (globs : List (List Token)) : Option CombinationProblem :=
  match globs.findIdx? isTooDeep with
  | some number => some (.tooDeep number)
  | none =>
    if Regex.fitsLimit .bytes sizeLimit (globs.map globProgram) then none else some .tooLarge

/-- Whether a strategy asks for an extension and then runs the pattern. -/
def Strategy.needsExtension : Strategy → Bool
  | .requiredExtension _ => true
  | _ => false

/-- Why globs cannot be used together: each that needs an extension has its automaton, and those that
are matched by their pattern alone share one. -/
def combinationProblem? (globs : List (List Token)) : Option CombinationProblem :=
  ((globs.filter fun ts => (Strategy.ofTokens ts).needsExtension).findSome? fun ts =>
    automatonProblem? [ts]).or
  (automatonProblem? (globs.filter fun ts => Strategy.ofTokens ts == .pattern))

end PullTriage.Glob
