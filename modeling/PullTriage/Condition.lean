import PullTriage.TextPattern
import PullTriage.PathGlob
import PullTriage.Trace

/-!
  PullTriage.Condition: trees of conditions on a pull request.

  A leaf looks at one fact; `all` and `any` combine conditions, and an `or` asks whether one of the
  text fields holds one of the patterns given for it. A kind from outside the core is a leaf whose
  test is a function.

  Main definitions:
    * `Condition.holds`: whether a condition is true of a pull request;
    * `Condition.trace`: the same with everything that was looked at;
    * `Condition.toValue`: the fragment of a rule that says the same.
-/

namespace PullTriage

open Json

/-! ## §1. Parts -/

/-- Patterns for some of the text fields. -/
structure FieldPatterns where
  branch : Option TextPatterns := none
  title : Option TextPatterns := none
  body : Option TextPatterns := none

namespace FieldPatterns

/-- The patterns for a field. -/
def get (m : FieldPatterns) : TextField → Option TextPatterns
  | .branch => m.branch
  | .title => m.title
  | .body => m.body

/-- Set the patterns for a field. -/
def set (m : FieldPatterns) (f : TextField) (ps : TextPatterns) : FieldPatterns :=
  match f with
  | .branch => { m with branch := some ps }
  | .title => { m with title := some ps }
  | .body => { m with body := some ps }

/-- The fields that have patterns, with them. -/
def toList (m : FieldPatterns) : List (TextField × TextPatterns) :=
  TextField.all.filterMap fun f => (m.get f).map fun ps => (f, ps)

theorem get_set (m : FieldPatterns) (f g : TextField) (ps : TextPatterns) :
    (m.set f ps).get g = if g = f then some ps else m.get g := by
  cases f <;> cases g <;> simp [set, get]

end FieldPatterns

/-- A condition of a kind from outside the core. -/
structure CustomCondition where
  kind : String
  holds : PullRequest → Bool
  /-- What is written under the kind in rules. -/
  config : Value := .null
  /-- How the condition is shown. -/
  shown : String := ""

/-- A condition on a pull request. -/
inductive Condition where
  | text (field : TextField) (patterns : TextPatterns)
  | files (globs : PathGlobs)
  | all (children : List Condition)
  | any (children : List Condition)
  | or (patterns : FieldPatterns)
  | custom (c : CustomCondition)

namespace Condition

/-- The kind under which a condition is written. -/
def kind : Condition → String
  | text f _ => f.key
  | files _ => "changed-files"
  | all _ => "all"
  | any _ => "any"
  | or _ => "or"
  | custom c => c.kind

/-- Whether a condition combines others. -/
def isComposite : Condition → Bool
  | all _ => true
  | any _ => true
  | _ => false

/-! ## §2. Evaluation -/

mutual

/-- Whether a condition is true of a pull request. -/
def holds (pr : PullRequest) : Condition → Bool
  | text f ps => ps.foundIn (f.read pr)
  | files gs => pr.changedFiles.any gs.accepts
  | all children => allHold pr children
  | any children => anyHolds pr children
  | or m => m.toList.any fun (f, ps) => !ps.isEmpty && ps.foundIn (f.read pr)
  | custom c => c.holds pr

/-- Whether every condition of a list is true. -/
def allHold (pr : PullRequest) : List Condition → Bool
  | [] => true
  | c :: rest => holds pr c && allHold pr rest

/-- Whether some condition of a list is true. -/
def anyHolds (pr : PullRequest) : List Condition → Bool
  | [] => false
  | c :: rest => holds pr c || anyHolds pr rest

end

/-- The trace of a search in a text field. -/
def traceText (pr : PullRequest) (f : TextField) (ps : TextPatterns) : Trace :=
  let found := ps.find? (f.read pr)
  .text f found.isSome found

/-- The trace of a conjunction of traced conditions. -/
def traceAll (children : List Trace) : Trace := .all (children.all Trace.matched) children

mutual

/-- Evaluate a condition and every condition in it. -/
def trace (pr : PullRequest) : Condition → Trace
  | text f ps => traceText pr f ps
  | files gs =>
    let matched := gs.accepted pr.changedFiles
    .files (!matched.isEmpty) matched
  | all children => traceAll (traces pr children)
  | any children =>
    let ts := traces pr children
    .any (ts.any Trace.matched) ts
  | or m =>
    let ts := m.toList.map fun (f, ps) => traceText pr f ps
    .or (ts.any Trace.matched) ts
  | custom c => .custom c.kind (c.holds pr)

/-- The traces of a list of conditions. -/
def traces (pr : PullRequest) : List Condition → List Trace
  | [] => []
  | c :: rest => trace pr c :: traces pr rest

end

/-! ## §3. Writing and measuring -/

mutual

/-- What is written under the kind of a condition. -/
def config : Condition → Value
  | text _ ps => .ofStrings ps.written
  | files gs => .ofStrings gs.written
  | all children => .array (toValues children)
  | any children => .array (toValues children)
  | or m => .object (m.toList.map fun (f, ps) => (f.key, Value.ofStrings ps.written))
  | custom c => c.config

/-- The fragments of a list of conditions. -/
def toValues : List Condition → List Value
  | [] => []
  | c :: rest => .object [(c.kind, config c)] :: toValues rest

end

/-- A condition as a fragment: its kind with what is written under it. -/
def toValue (c : Condition) : Value := .object [(c.kind, c.config)]

mutual

/-- How deep a condition is; a leaf has depth one, and an `or` counts as holding leaves. -/
def depth : Condition → Nat
  | all children => 1 + depthOf children
  | any children => 1 + depthOf children
  | or _ => 2
  | text _ _ => 1
  | files _ => 1
  | custom _ => 1

/-- The greatest depth of a list of conditions. -/
def depthOf : List Condition → Nat
  | [] => 0
  | c :: rest => max (depth c) (depthOf rest)

end

end Condition
end PullTriage
