import Mathlib.Data.List.Dedup
import PullTriage.Builder.Extra
import PullTriage.Proofs.KeyedEntries

/-!
  PullTriage.Proofs.LastRegistration: a registry is the finite map of the last registrations.

  A registry comes from a sequence of registrations, in which a name may occur any number of times.  The
  builders are kept in the order of their names, one for a name, so nothing but the last builder of every
  name can be seen:

      (ofRegistrations regs).find? name  =  lastBuilder? regs name

  In every scope a fragment is built by the last builder of its kind, and the members of a composite are
  built by the last builders of theirs, one scope below.

  Layers:
    * §1: the entries of a registry, and what is found in it;
    * §2: registrations that count;
    * §3: building in a scope;
    * §4: the registry as a whole.
-/

namespace PullTriage

open Json

/-! ## §1. Registering one after the other. -/

namespace Registry

/-- The registry that a sequence of registrations leads to. -/
def ofRegistrations (regs : List (String × Builder)) : Registry :=
  regs.foldl (fun r p => r.register p.1 p.2) empty

/-- The builder that is registered last under a name. -/
def lastBuilder? (regs : List (String × Builder)) (name : String) : Option Builder :=
  ((regs.filter fun p => p.1 == name).getLast?).map Prod.snd

/-- Registering is adjusting one entry of a sorted map. -/
theorem insertBuilder_eq_adjust (name : String) (b : Builder) (builders : List (String × Builder)) :
    insertBuilder name b builders = Entries.adjust name (fun _ => b) builders := by
  induction builders with
  | nil => rfl
  | cons p rest ih =>
      obtain ⟨k, c⟩ := p
      show (if name = k then (k, b) :: rest else if name < k then (name, b) :: (k, c) :: rest
        else (k, c) :: insertBuilder name b rest) = _
      rw [ih]
      rfl

/-- A registration puts its builder under its name, whatever stood there. -/
theorem builders_ofRegistrations (regs : List (String × Builder)) :
    (ofRegistrations regs).builders = Entries.adjustAll (regs.map fun p => (p.1, fun _ => p.2)) := by
  induction regs using List.reverseRecOn with
  | nil => rfl
  | append_singleton regs p ih =>
      rw [List.map_append, List.map_singleton, Entries.adjustAll_concat, ← ih,
        ← insertBuilder_eq_adjust, ofRegistrations, List.foldl_append]
      rfl

/-- The kinds of a registry increase. -/
theorem increasing_ofRegistrations (regs : List (String × Builder)) :
    Entries.Increasing (ofRegistrations regs).builders := by
  rw [builders_ofRegistrations]
  exact Entries.increasing_adjustAll _

/-- The kinds are those that were registered. -/
theorem mem_kinds_ofRegistrations {regs : List (String × Builder)} {name : String} :
    name ∈ (ofRegistrations regs).kinds ↔ name ∈ Entries.keys regs := by
  show name ∈ Entries.keys (ofRegistrations regs).builders ↔ _
  rw [builders_ofRegistrations, Entries.mem_keys_adjustAll, List.map_map]
  rfl

/-- The last registration counts for its kind. -/
theorem lastBuilder?_concat (regs : List (String × Builder)) (p : String × Builder) (name : String) :
    lastBuilder? (regs ++ [p]) name = if name = p.1 then some p.2 else lastBuilder? regs name := by
  unfold lastBuilder?
  rw [List.filter_append]
  by_cases h : name = p.1
  · simp [h]
  · simp [h, Ne.symm h]

/-- **What is found under a name is what was registered last.** -/
theorem find?_ofRegistrations (regs : List (String × Builder)) (name : String) :
    (ofRegistrations regs).find? name = lastBuilder? regs name := by
  show Entries.get? (ofRegistrations regs).builders name = _
  rw [builders_ofRegistrations]
  induction regs using List.reverseRecOn with
  | nil => rfl
  | append_singleton regs p ih =>
      rw [List.map_append, List.map_singleton, Entries.get?_adjustAll_concat, ih, lastBuilder?_concat]

/-- Registries with the same last builders are the same. -/
theorem ofRegistrations_congr {regs regs' : List (String × Builder)}
    (h : ∀ name, lastBuilder? regs name = lastBuilder? regs' name) :
    ofRegistrations regs = ofRegistrations regs' := by
  refine congrArg Registry.mk ?_
  refine (increasing_ofRegistrations regs).ext (increasing_ofRegistrations regs') fun name => ?_
  show (ofRegistrations regs).find? name = (ofRegistrations regs').find? name
  rw [find?_ofRegistrations, find?_ofRegistrations, h]

/-- A registry contains the kinds that it lists. -/
theorem contains_iff {r : Registry} {name : String} : r.contains name = true ↔ name ∈ r.kinds := by
  show (Entries.get? r.builders name).isSome = true ↔ name ∈ Entries.keys r.builders
  rw [Option.isSome_iff_ne_none, ne_eq, Entries.get?_eq_none_iff, not_not]

/-! ## §2. Registrations that count. -/

/-- The registrations that no later one of the same name replaces. -/
def lastOnly : List (String × Builder) → List (String × Builder)
  | [] => []
  | p :: rest => if p.1 ∈ Entries.keys rest then lastOnly rest else p :: lastOnly rest

/-- The first registration counts if no later one does. -/
theorem lastBuilder?_cons (p : String × Builder) (rest : List (String × Builder)) (name : String) :
    lastBuilder? (p :: rest) name
      = (lastBuilder? rest name).or (if p.1 = name then some p.2 else none) := by
  unfold lastBuilder?
  by_cases h : p.1 = name
  · simp [h, List.getLast?_cons]
  · simp [h]

/-- A kind that was never registered has no last builder. -/
theorem lastBuilder?_eq_none_iff {regs : List (String × Builder)} {name : String} :
    lastBuilder? regs name = none ↔ name ∉ Entries.keys regs := by
  rw [← find?_ofRegistrations, ← mem_kinds_ofRegistrations]
  exact Entries.get?_eq_none_iff

/-- Leaving out registrations that are replaced later does not change the last ones. -/
theorem lastBuilder?_lastOnly (regs : List (String × Builder)) (name : String) :
    lastBuilder? (lastOnly regs) name = lastBuilder? regs name := by
  induction regs with
  | nil => rfl
  | cons p rest ih =>
      rw [lastOnly, lastBuilder?_cons]
      split
      case isFalse => rw [lastBuilder?_cons, ih]
      case isTrue hlater =>
        rw [ih]
        by_cases h : p.1 = name
        · have hfound : lastBuilder? rest name ≠ none := by
            intro hnone
            exact lastBuilder?_eq_none_iff.mp hnone (h ▸ hlater)
          obtain ⟨b, hb⟩ := Option.ne_none_iff_exists'.mp hfound
          rw [hb, Option.some_or]
        · rw [if_neg h, Option.or_none]

theorem mem_keys_lastOnly {regs : List (String × Builder)} {name : String} :
    name ∈ Entries.keys (lastOnly regs) ↔ name ∈ Entries.keys regs := by
  rw [← not_iff_not, ← lastBuilder?_eq_none_iff, lastBuilder?_lastOnly, lastBuilder?_eq_none_iff]

theorem nodup_keys_lastOnly (regs : List (String × Builder)) :
    (Entries.keys (lastOnly regs)).Nodup := by
  induction regs with
  | nil => exact List.nodup_nil
  | cons p rest ih =>
      rw [lastOnly]
      split
      case isTrue => exact ih
      case isFalse hlast => exact List.nodup_cons.mpr ⟨mt mem_keys_lastOnly.mp hlast, ih⟩

end Registry

/-! ## §3. Building in a scope. -/

/-- A scope as a builder sees it that is at work there. -/
def Scope.view (s : Scope) : ScopeView := s.registry.viewInside s.levels


/-! ## §4. The whole. -/

namespace Registry

/-- **Kinds are the registered names in increasing order; in every scope a kind is built by its last
builder; and a registry depends on nothing but the last builder of every name.** -/
theorem ofRegistrations_lastWins (regs : List (String × Builder)) :
    let r := ofRegistrations regs
    r.kinds.Pairwise (· < ·) ∧ (∀ name, name ∈ r.kinds ↔ name ∈ Entries.keys regs) ∧
    r.size = r.kinds.length ∧ (∀ name, r.contains name = true ↔ name ∈ r.kinds) ∧
    (∀ levels name v, (Scope.mk r levels).create name v =
      match lastBuilder? regs name with
      | none => .error (.unknownKind name r.kinds)
      | some b =>
        if b.accepts v then b.build v (Scope.mk r levels).view
        else .error (.invalidConfig name ("unsupported shape: " ++ v.compact))) ∧
    ((Entries.keys (lastOnly regs)).Nodup ∧ ofRegistrations (lastOnly regs) = r) ∧
    ∀ regs', (∀ name, lastBuilder? regs' name = lastBuilder? regs name) →
      ofRegistrations regs' = r := by
  intro r
  refine ⟨increasing_ofRegistrations regs, fun name => mem_kinds_ofRegistrations,
    (List.length_map Prod.fst).symm, fun name => contains_iff, ?_,
    ⟨nodup_keys_lastOnly regs, ofRegistrations_congr (lastBuilder?_lastOnly regs)⟩,
    fun regs' => ofRegistrations_congr⟩
  intro levels name v
  rw [← find?_ofRegistrations]
  rfl

/-- The builder of `note` is replaced, `some` builds its members with what is registered under their
names, and another order with other replaced builders makes no difference. -/
theorem ofRegistrations_lastWins_reordered :
    let regs := [("some", Builder.any), ("note", .failing), ("doc", .text .body), ("note", .text .title)]
    let regs' := [("note", Builder.never), ("doc", .text .body), ("some", .all), ("note", .text .title),
      ("some", .any)]
    let r := ofRegistrations regs
    (∀ name, lastBuilder? regs' name = lastBuilder? regs name) ∧ ofRegistrations regs' = r ∧
      r.kinds = ["doc", "note", "some"] ∧
      r.create "title" .null = .error (.unknownKind "title" ["doc", "note", "some"]) ∧
      (r.create "some" (.array [.object [("note", .string "fix"), ("title", .null)]])).toOption.map
        Condition.toValue = some (.object [("any", .array [.object [("title", .ofStrings ["fix"])]])]) := by
  intro regs regs' r
  have hlast : ∀ name, lastBuilder? regs' name = lastBuilder? regs name := by
    intro name
    by_cases hsome : "some" = name
    · exact hsome ▸ rfl
    by_cases hnote : "note" = name
    · exact hnote ▸ rfl
    by_cases hdoc : "doc" = name
    · exact hdoc ▸ rfl
    simp only [regs, regs', lastBuilder?_cons, if_neg hsome, if_neg hnote, if_neg hdoc,
      Option.or_none]
  obtain ⟨-, -, -, -, hcreate, -, hcongr⟩ := ofRegistrations_lastWins regs
  exact ⟨hlast, hcongr regs' hlast, rfl, hcreate maxNesting "title" .null, rfl⟩

end Registry
end PullTriage
