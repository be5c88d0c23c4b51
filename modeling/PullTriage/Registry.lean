import PullTriage.Condition
import PullTriage.Json.Printer

/-!
  PullTriage.Registry: which kinds of conditions there are, and building conditions from fragments.

  A registry maps the name of a kind to a builder. A builder says which shapes of configuration it
  understands and makes a condition of one. It is given the place in which it builds and may start
  other builders from there. A composite builds its members in the scope one level below its own, and
  there are `maxNesting` such levels, so this always ends. A builder may also build in its own place
  or start over with a fragment of a group; builders that do so without end use up the stack.

  Registrations are kept sorted by name and a later one replaces an earlier one of the same name, so a
  registry is determined by the last builder of every name.
-/

namespace PullTriage

open Json

/-- How many composites may stand inside one another. -/
def maxNesting : Nat := 1

/-- What a builder sees of a registry. -/
structure RegistryView where
  /-- The registered kinds, in increasing order. -/
  kinds : List String
  /-- Build a fragment of a rule group. -/
  create : String → Value → Except RuleError Condition

/-- What a builder sees of a place in a rule group. -/
structure ScopeView where
  registry : RegistryView
  /-- How many composites are around the place. -/
  depth : Nat
  /-- Build a fragment in this place. -/
  create : String → Value → Except RuleError Condition
  /-- The place for the members of a composite that stands here, which may be refused. -/
  nested : Except RuleError ScopeView

/-- A builder for the conditions of one kind. -/
structure Builder where
  /-- Whether a configuration has a shape that the builder understands. -/
  accepts : Value → Bool
  /-- Make a condition of a configuration in a place. -/
  build : Value → ScopeView → Except RuleError Condition

/-- The registered kinds with their builders, sorted by kind. -/
structure Registry where
  builders : List (String × Builder)

namespace Registry

/-! ## §1. Registering and looking up -/

/-- No kinds. -/
def empty : Registry := ⟨[]⟩

/-- Put a builder in its place among others. -/
def insertBuilder (kind : String) (b : Builder) : List (String × Builder) → List (String × Builder)
  | [] => [(kind, b)]
  | (k, c) :: rest =>
    if kind = k then (k, b) :: rest
    else if kind < k then (kind, b) :: (k, c) :: rest
    else (k, c) :: insertBuilder kind b rest

/-- Register a builder; it replaces the builder of the same kind, if there is one. -/
def register (r : Registry) (kind : String) (b : Builder) : Registry :=
  ⟨insertBuilder kind b r.builders⟩

/-- The builder of a kind. -/
def find? (r : Registry) (kind : String) : Option Builder :=
  (r.builders.find? fun p => p.1 == kind).map Prod.snd

/-- The registered kinds, in increasing order. -/
def kinds (r : Registry) : List String := r.builders.map Prod.fst

/-- How many kinds are registered. -/
def size (r : Registry) : Nat := r.builders.length

/-- Whether a kind is registered. -/
def contains (r : Registry) (kind : String) : Bool := (r.find? kind).isSome

/-! ## §2. Building -/

/-- How many builders may be started one inside another without going one level down. -/
def maxCalls : Nat := 1024

/-- Build a fragment in a place. -/
def createWith (r : Registry) (scope : ScopeView) (kind : String) (config : Value) :
    Except RuleError Condition :=
  match r.find? kind with
  | none => .error (.unknownKind kind r.kinds)
  | some b =>
    if b.accepts config then b.build config scope
    else .error (.invalidConfig kind ("unsupported shape: " ++ config.compact))

/-- What a builder sees that is at work where `levels` more composites may be opened. It starts others
in its own place or in a group by `again`, and one level down without it. -/
def viewUsing (r : Registry) (again : Nat → String → Value → Except RuleError Condition) :
    Nat → ScopeView
  | 0 => {
      registry := ⟨r.kinds, again maxNesting⟩
      depth := maxNesting
      create := again 0
      nested := .error (.nestingTooDeep (maxNesting + 1) maxNesting) }
  | levels + 1 => {
      registry := ⟨r.kinds, again maxNesting⟩
      depth := maxNesting - (levels + 1)
      create := again (levels + 1)
      nested := .ok { r.viewUsing again levels with create := r.createWith (r.viewUsing again levels) } }

/-- Build a fragment where `levels` more composites may be opened, with so many builders to start one
inside another. -/
def createCalling (r : Registry) : Nat → Nat → String → Value → Except RuleError Condition
  | 0, _ => fun _ _ => .error .stackExhausted
  | calls + 1, levels => r.createWith (r.viewUsing (r.createCalling calls) levels)

/-- What a builder sees that is at work where `levels` more composites may be opened. -/
def viewInside (r : Registry) (levels : Nat) : ScopeView := r.viewUsing (r.createCalling maxCalls) levels

/-- Build a fragment where `levels` more composites may be opened. -/
def createIn (r : Registry) (levels : Nat) : String → Value → Except RuleError Condition :=
  r.createWith (r.viewInside levels)

/-- What is seen of a place where `levels` more composites may be opened. -/
def viewIn (r : Registry) (levels : Nat) : ScopeView :=
  { r.viewInside levels with create := r.createIn levels }

/-- Build a fragment of a rule group. -/
def create (r : Registry) : String → Value → Except RuleError Condition := r.createIn maxNesting

end Registry

/-! ## §3. Scopes -/

/-- A place in a rule group: the registry, and how many more composites may be opened. -/
structure Scope where
  registry : Registry
  levels : Nat

namespace Scope

/-- Directly inside a rule group. -/
def root (r : Registry) : Scope := ⟨r, maxNesting⟩

/-- How many composites are around this place. -/
def depth (s : Scope) : Nat := maxNesting - s.levels

/-- The scope for the members of a composite that stands here. -/
def nested (s : Scope) : Except RuleError Scope :=
  match s.levels with
  | 0 => .error (.nestingTooDeep (maxNesting + 1) maxNesting)
  | levels + 1 => .ok ⟨s.registry, levels⟩

/-- Build a fragment here. -/
def create (s : Scope) : String → Value → Except RuleError Condition := s.registry.createIn s.levels

end Scope
end PullTriage
