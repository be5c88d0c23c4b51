import PullTriage.Builder.Core

/-!
  PullTriage.Builder.Extra: further kinds that a registry may hold.

  They show what a builder can do besides those of the core: conditions of its own, an answer that
  does not depend on the configuration, a failure, and members that must all be well formed.
-/

namespace PullTriage
namespace Builder

open Json

/-- The unsigned integer of a configuration. -/
def natural? : Value → Option Nat
  | .number (.int (.ofNat n)) => some n
  | _ => none

/-- The condition that a pull request changes at least `n` files. -/
def minFilesCondition (n : Nat) : CustomCondition where
  kind := "min-files"
  holds pr := n ≤ pr.changedFiles.length
  config := .ofNat n
  shown := "MinFiles(" ++ toString n ++ ")"

/-- The condition that is `value` of every pull request. -/
def flagCondition (value : Bool) : CustomCondition where
  kind := "flag"
  holds _ := value
  shown := "Flag(" ++ toString value ++ ")"

/-- A number of changed files. -/
def minFiles : Builder where
  accepts config := (natural? config).isSome
  build config _ := .ok (.custom (minFilesCondition ((natural? config).getD 0)))

/-- A truth value. -/
def flag : Builder where
  accepts config := match config with
    | .bool _ => true
    | _ => false
  build config _ := match config with
    | .bool b => .ok (.custom (flagCondition b))
    | _ => .error (.invalidConfig "flag" "expected a boolean")

/-- The condition that is always true, for the configuration null. -/
def always : Builder where
  accepts config := match config with
    | .null => true
    | _ => false
  build _ _ := .ok (.all [])

/-- The condition that is never true. -/
def never : Builder where
  accepts _ := true
  build _ _ := .ok (.any [])

/-- No condition: every fragment is refused because of a glob. -/
def failing : Builder where
  accepts _ := true
  build _ _ := do return .files (← PathGlobs.ofStrings ["[bad"])

/-- All entries of a map, each of which must be well formed. -/
def sub : Builder where
  accepts config := config.object?.isSome
  build config scope := do
    let scope ← scope.nested
    let entries := config.object?.getD []
    return .all (← entries.mapM fun (kind, value) => scope.create kind value)

end Builder
end PullTriage
