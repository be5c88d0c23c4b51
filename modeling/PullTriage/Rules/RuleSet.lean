import PullTriage.Condition

/-!
  PullTriage.Rules.RuleSet: labels, their rule groups, and classifying a pull request.

  A rule group is a list of conditions that all have to hold; there is at least one. The groups of a
  label are tried in order and the first that holds wins: what is reported describes that group only.
  Labels are independent of each other.

  Main definitions:
    * `evaluate`: the groups of a label against a pull request;
    * `RuleSet.classify`: the labels that a pull request gets;
    * `RuleSet.toValue`: the rules that say the same.
-/

namespace PullTriage

open Json

/-! ## §1. Groups -/

/-- Conditions that all have to hold. -/
structure RuleGroup where
  conditions : List Condition
  nonempty : conditions ≠ []

namespace RuleGroup

/-- The group of some conditions; there is none without conditions. -/
def ofList? (conditions : List Condition) : Option RuleGroup :=
  if h : conditions = [] then none else some ⟨conditions, h⟩

/-- Whether all conditions are true of a pull request. -/
def holds (g : RuleGroup) (pr : PullRequest) : Bool := Condition.allHold pr g.conditions

/-- The trace of a group: that of its only condition, or a conjunction. -/
def trace (g : RuleGroup) (pr : PullRequest) : Trace :=
  match g.conditions with
  | [c] => c.trace pr
  | cs => Condition.traceAll (Condition.traces pr cs)

/-- The group as the map that is written in rules. Of conditions of one kind the last remains, in the
place of the first. -/
def toValue (g : RuleGroup) : Value :=
  .object (Entries.ofList (g.conditions.map fun c => (c.kind, c.config)))

end RuleGroup

/-! ## §2. Results -/

/-- The group that won, and what happened in it. -/
structure Winner where
  index : Nat
  trace : Trace
  deriving Repr, Inhabited

/-- The result of evaluating a label. -/
structure MatchResult where
  label : String
  /-- How many groups were tried, the winner included. -/
  groupsEvaluated : Nat
  winner : Option Winner
  deriving Repr, Inhabited

namespace MatchResult

/-- Whether a group won. -/
def matched (r : MatchResult) : Bool := r.winner.isSome

/-- The changed files that the winning group reports. -/
def matchedFiles (r : MatchResult) : List String :=
  match r.winner with
  | some w => w.trace.matchedFiles
  | none => []

/-- The result as JSON. -/
def toValue (r : MatchResult) : Value := .object [
  ("label", .string r.label),
  ("matched", .bool r.matched),
  ("matched_files", .ofStrings r.matchedFiles),
  ("debug_info", .object (("groups_evaluated", .ofNat r.groupsEvaluated) ::
    match r.winner with
    | some w => [("winning_group", .ofNat w.index), ("trace", w.trace.toValue)]
    | none => []))]

end MatchResult

/-- Try groups in order, the first of them being number `index`. -/
def evaluateFrom (label : String) (pr : PullRequest) (index : Nat) : List RuleGroup → MatchResult
  | [] => ⟨label, index, none⟩
  | g :: rest =>
    if g.holds pr then ⟨label, index + 1, some ⟨index, g.trace pr⟩⟩
    else evaluateFrom label pr (index + 1) rest

/-- Try the groups of a label in order, up to the first that holds. -/
def evaluate (label : String) (groups : List RuleGroup) (pr : PullRequest) : MatchResult :=
  evaluateFrom label pr 0 groups

/-! ## §3. Labels -/

/-- A label with its groups. -/
structure LabelRules where
  name : String
  groups : List RuleGroup

/-- The result of a label. -/
def LabelRules.evaluate (l : LabelRules) (pr : PullRequest) : MatchResult :=
  PullTriage.evaluate l.name l.groups pr

/-- Labels with their groups, in the order in which they were declared. -/
structure RuleSet where
  labels : List LabelRules

/-- The results of the labels that a pull request gets, in the order of the rules. -/
structure Classification where
  results : List MatchResult

namespace Classification

/-- The names of the labels. -/
def labels (c : Classification) : List String := c.results.map MatchResult.label

/-- The first result for a label. -/
def get? (c : Classification) (label : String) : Option MatchResult :=
  c.results.find? fun r => r.label == label

end Classification

namespace RuleSet

/-- No labels. -/
def empty : RuleSet := ⟨[]⟩

/-- The labels that a pull request gets. -/
def classify (s : RuleSet) (pr : PullRequest) : Classification :=
  ⟨(s.labels.map (·.evaluate pr)).filter MatchResult.matched⟩

/-- The first label of a name. -/
def get? (s : RuleSet) (name : String) : Option LabelRules := s.labels.find? fun l => l.name == name

/-- The rules as a document. Of labels of one name the last remains, in the place of the first. -/
def toValue (s : RuleSet) : Value :=
  .object (Entries.ofList (s.labels.map fun l =>
    (l.name, Value.array (l.groups.map RuleGroup.toValue))))

end RuleSet
end PullTriage
