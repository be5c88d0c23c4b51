import PullTriage.Yaml.Lexer
import PullTriage.Yaml.Node

/-!
  PullTriage.Yaml.Reader: the JSON value of a YAML text.

  A sequence is a list and a mapping is a map whose keys are the texts of scalars; what a key would
  stand for as a value does not matter. A reference stands for the node that it names. As references
  may stand in what they refer to, collections may nest only so deep, and there is a limit on how
  many references are followed.

  Main definition: `read?`.
-/

namespace PullTriage.Yaml

open Json

/-- The deepest nesting of collections. -/
def maxDepth : Nat := 128

/-- How many references may be followed in a document of a given size. -/
def maxReferences (size : Nat) : Nat := 100 * size

/-- Readers of values; the state is how many references may still be followed. -/
abbrev Resolver (α : Type) := StateT Nat Option α

namespace Resolver

/-- The node that is meant: one that is referred to stands for itself. Of several anchors with one
number the last in the document counts. -/
def follow (anchored : List (Nat × Node)) (n : Node) : Resolver Node :=
  match n with
  | .reference anchor => do
    match ← get with
    | 0 => failure
    | left + 1 =>
      set left
      match anchored.lookup anchor with
      | some n => return n
      | none => failure
  | n => return n

/-- The text of a key. -/
def key (anchored : List (Nat × Node)) (n : Node) : Resolver String := do
  match ← follow anchored n with
  | .scalar _ _ text => return text
  | _ => failure

/-- The value of a node in which collections may nest so deep. -/
def value (anchored : List (Nat × Node)) : Nat → Node → Resolver Value
  | depth, n => do
    match ← follow anchored n with
    | .reference _ => failure
    | .scalar p plain text => (scalarValue? p.tag plain text).getDM failure
    | .sequence p items =>
      if p.tag = some .own then failure else
      match depth with
      | 0 => failure
      | depth + 1 => return .array (← items.mapM (value anchored depth))
    | .mapping p entries =>
      if p.tag = some .own then failure else
      match depth with
      | 0 => failure
      | depth + 1 =>
        let entries ← entries.mapM fun (k, v) => do
          return (← key anchored k, ← value anchored depth v)
        return .object (Entries.ofList entries)

end Resolver

/-- The value of a document. -/
def Node.toValue? (root : Node) : Option Value :=
  (Resolver.value (root.anchored []) maxDepth root (maxReferences root.size)).map Prod.fst

/-- The value of a YAML text; a text without a document is null. -/
def read? (s : String) : Option Value := do
  match ← Node.ofTokens? (← Token.scan? s) with
  | none => return .null
  | some root => root.toValue?

end PullTriage.Yaml
