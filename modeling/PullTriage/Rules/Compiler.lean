import PullTriage.Builder.Core
import PullTriage.Rules.RuleSet

/-!
  PullTriage.Rules.Compiler: from a description of rules to the rules.

  A description maps every label to a list of groups, and a group maps kinds to configurations. What
  cannot be built is left out: an entry of a group, then a group without entries, then a label without
  groups. Nothing ever becomes a group that holds because it is empty.
-/

namespace PullTriage

open Json

/-- A description of rules: labels with what is written under them, in the order of the document. -/
structure RuleDescription where
  labels : Entries Value
  deriving Repr, Inhabited

namespace RuleDescription

/-- What a value is called in messages. -/
def shapeName : Value → String
  | .null => "null"
  | .bool _ => "a boolean"
  | .number _ => "a number"
  | .string _ => "a string"
  | .array _ => "a list"
  | .object _ => "a map"

/-- The description that a document is: a map, or null for none. -/
def ofValue : Value → Except RuleError RuleDescription
  | .object labels => .ok ⟨labels⟩
  | .null => .ok ⟨[]⟩
  | v => .error (.invalidConfig "rules"
      ("expected a map of label to rule groups, got " ++ shapeName v))

end RuleDescription

namespace Registry

/-- The group of a map, or none if none of its entries can be built or too many can. -/
def compileGroup? (r : Registry) : Value → Option RuleGroup
  | .object entries =>
    let conditions := entries.filterMap fun (kind, config) => (r.create kind config).toOption
    if conditions.length > Builder.maxConditions then none else RuleGroup.ofList? conditions
  | _ => none

/-- The groups of a list; anything else has none. -/
def compileGroups (r : Registry) : Value → List RuleGroup
  | .array items => items.filterMap r.compileGroup?
  | _ => []

/-- The rules that a description stands for. -/
def compile (r : Registry) (d : RuleDescription) : RuleSet :=
  ⟨d.labels.filterMap fun (name, value) =>
    match r.compileGroups value with
    | [] => none
    | groups => some ⟨name, groups⟩⟩

end Registry
end PullTriage
