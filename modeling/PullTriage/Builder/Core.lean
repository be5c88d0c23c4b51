import PullTriage.Registry

/-!
  PullTriage.Builder.Core: the built-in kinds.

  A text field or the changed files take a string or a list of strings. An `or` takes a map from text
  fields to such patterns; other keys in it are skipped. `all` and `any` take a list of maps, and every
  entry of every map is a member; what is no map or cannot be built is left out, but a composite needs
  one member at least.
-/

namespace PullTriage
namespace Builder

open Json

/-- A list of strings, or one string for a list of one. -/
def patternList? : Value → Option (List String)
  | .string s => some [s]
  | .array items => items.mapM Value.string?
  | _ => none

/-- The patterns of a configuration, which must be a string or a list of strings. -/
def requirePatterns (kind : String) (config : Value) : Except RuleError (List String) :=
  match patternList? config with
  | some ps => .ok ps
  | none => .error (.invalidConfig kind "expected a string or a list of strings")

/-- Patterns for a text field. -/
def text (f : TextField) : Builder where
  accepts config := (patternList? config).isSome
  build config _ := do
    return .text f (← TextPatterns.ofStrings (← requirePatterns f.key config))

/-- Globs for the changed files. -/
def files : Builder where
  accepts config := (patternList? config).isSome
  build config _ := do
    return .files (← PathGlobs.ofStrings (← requirePatterns "changed-files" config))

/-- Add the entries of an `or` to the patterns read before. -/
def addFields (m : FieldPatterns) : List (String × Value) → Except RuleError FieldPatterns
  | [] => .ok m
  | (key, config) :: rest =>
    match TextField.ofKey? key with
    | none => addFields m rest
    | some f => do
      let ps ← TextPatterns.ofStrings (← requirePatterns key config)
      addFields (m.set f ps) rest

/-- Patterns for several text fields, one of which has to hold one of its patterns. -/
def or : Builder where
  accepts config := config.object?.isSome
  build config _ :=
    match config with
    | .object entries => do return .or (← addFields {} entries)
    | _ => .error (.invalidConfig "or" "expected a map")

/-- The most members of a composite or a rule group. -/
def maxConditions : Nat := 256

/-- The members that can be built from the items of a composite. -/
def members (scope : ScopeView) (items : List Value) : List Condition :=
  (items.filterMap Value.object?).flatMap fun entries =>
    entries.filterMap fun (kind, config) => (scope.create kind config).toOption

/-- The members of a composite, of which there must be one and not too many. -/
def requireMembers (kind : String) (config : Value) (nested : Except RuleError ScopeView) :
    Except RuleError (List Condition) :=
  match config with
  | .array items => do
    let cs := members (← nested) items
    if cs.length > maxConditions then .error (.tooManyConditions cs.length maxConditions)
    else if cs.isEmpty then .error (.emptyComposite kind)
    else .ok cs
  | _ => .error (.invalidConfig kind "expected a list of fragments")

/-- All members have to hold. -/
def all : Builder where
  accepts config := config.array?.isSome
  build config scope := (requireMembers "all" config scope.nested).map .all

/-- Some member has to hold. -/
def any : Builder where
  accepts config := config.array?.isSome
  build config scope := (requireMembers "any" config scope.nested).map .any

end Builder

/-- Register the built-in kinds. -/
def Registry.registerCore (r : Registry) : Registry :=
  (((((((r.register "all" .all).register "any" .any).register "or" .or).register
    "changed-files" .files).register "head-branch" (.text .branch)).register
    "title" (.text .title)).register "body" (.text .body))

/-- The registry of the built-in kinds. -/
def Registry.core : Registry := Registry.empty.registerCore

end PullTriage
