import Mathlib.Data.List.Basic
import PullTriage.Rules.Compiler

/-!
  PullTriage.Proofs.BuiltConditions: what the built-in builders make, and how large it gets.

  A built-in builder makes either a condition of patterns or a composite of members that were built one
  level below.  `Makes` says so once, refusals included:

      k.builder.build v scope = .ok c  ↔  Makes scope.nested v k c

  Two levels below a group nothing opens another composite.  So under whatever names the built-in
  builders are registered, a compiled rule set holds no empty, no overfull and no nested composite.
-/

namespace PullTriage

open Json

/-! ## §1. Kinds and registries. -/

/-- The built-in kinds. -/
inductive BuiltInKind where
  | all
  | any
  | or
  | files
  | text (f : TextField)

namespace BuiltInKind

/-- The builder of a kind. -/
def builder : BuiltInKind → Builder
  | all => .all
  | any => .any
  | or => .or
  | files => .files
  | text f => .text f

/-- The name that a kind has in the core registry. -/
def name : BuiltInKind → String
  | all => "all"
  | any => "any"
  | or => "or"
  | files => "changed-files"
  | text f => f.key

end BuiltInKind

namespace Registry

/-- Every registered builder is a built-in one, under whatever name. -/
def BuiltIn (r : Registry) : Prop := ∀ p ∈ r.builders, ∃ k : BuiltInKind, p.2 = k.builder

/-- A builder that is found was registered. -/
theorem find?_mem {r : Registry} {name : String} {b : Builder} (h : r.find? name = some b) :
    (name, b) ∈ r.builders := by
  obtain ⟨p, hp, rfl⟩ := Option.map_eq_some_iff.mp h
  have hname : p.1 = name := by simpa using List.find?_some hp
  rw [← hname]
  exact List.mem_of_find?_eq_some hp

/-- What is registered after an insertion was inserted or registered before. -/
theorem mem_insertBuilder {name : String} {b : Builder} {p : String × Builder}
    {builders : List (String × Builder)} (h : p ∈ insertBuilder name b builders) :
    p = (name, b) ∨ p ∈ builders := by
  induction builders with
  | nil => exact .inl (List.mem_singleton.mp h)
  | cons q rest ih =>
      rw [insertBuilder] at h
      split at h
      case isTrue hname =>
        rcases List.mem_cons.mp h with rfl | h
        · exact .inl (by rw [hname])
        · exact .inr (List.mem_cons_of_mem _ h)
      split at h
      case isTrue => exact List.mem_cons.mp h
      case isFalse =>
        rcases List.mem_cons.mp h with rfl | h
        · exact .inr List.mem_cons_self
        · exact (ih h).imp_right (List.mem_cons_of_mem _)

theorem builtIn_empty : Registry.empty.BuiltIn := fun _ h => nomatch h

/-- Registering a built-in builder under any name. -/
theorem BuiltIn.register {r : Registry} (h : r.BuiltIn) (name : String) (k : BuiltInKind) :
    (r.register name k.builder).BuiltIn := by
  intro p hp
  rcases mem_insertBuilder hp with rfl | hp
  · exact ⟨k, rfl⟩
  · exact h p hp

/-- What the builder of a kind accepts is left to it. -/
theorem createWith_of_accepts {r : Registry} {name : String} {b : Builder} (hb : r.find? name = some b)
    {v : Value} (haccepts : b.accepts v = true) (scope : ScopeView) :
    r.createWith scope name v = b.build v scope := by
  unfold createWith
  rw [hb]
  exact if_pos haccepts

/-- A fragment is built by the builder of its kind, provided that it accepts the configuration. -/
theorem createWith_eq_ok_iff {r : Registry} {scope : ScopeView} {name : String}
    {v : Value} {c : Condition} :
    r.createWith scope name v = .ok c ↔
      ∃ b, r.find? name = some b ∧ b.accepts v = true ∧ b.build v scope = .ok c := by
  unfold createWith
  cases r.find? name with
  | none => simp
  | some b =>
      by_cases haccepts : b.accepts v = true
      case pos => simp [haccepts]
      case neg => simp [haccepts]

end Registry

/-- The core registry has every built-in kind under its own name. -/
theorem core_builders : Registry.core.builders =
    [("all", Builder.all), ("any", Builder.any), ("body", Builder.text .body),
      ("changed-files", Builder.files), ("head-branch", Builder.text .branch), ("or", Builder.or),
      ("title", Builder.text .title)] := by
  rfl

/-- The builders of the core registry are built in, under their names. -/
theorem core_named {p : String × Builder} (h : p ∈ Registry.core.builders) :
    ∃ k : BuiltInKind, p = (k.name, k.builder) := by
  rw [core_builders] at h
  simp only [List.mem_cons, List.not_mem_nil, or_false] at h
  rcases h with rfl | rfl | rfl | rfl | rfl | rfl | rfl
  · exact ⟨.all, rfl⟩
  · exact ⟨.any, rfl⟩
  · exact ⟨.text .body, rfl⟩
  · exact ⟨.files, rfl⟩
  · exact ⟨.text .branch, rfl⟩
  · exact ⟨.or, rfl⟩
  · exact ⟨.text .title, rfl⟩

/-- **The core registry has built-in builders only.** -/
theorem builtIn_core : Registry.core.BuiltIn := by
  intro p hp
  obtain ⟨k, rfl⟩ := core_named hp
  exact ⟨k, rfl⟩

/-! ## §2. What a builder makes. -/

/-- What a built-in builder makes of a configuration `v` when the scope of its members is `nested`. -/
inductive Makes (nested : Except RuleError ScopeView) (v : Value) : BuiltInKind → Condition → Prop
  where
  | text {f : TextField} {ws : List String} {ps : TextPatterns}
      (listed : Builder.patternList? v = some ws) (compiled : TextPatterns.ofStrings ws = .ok ps) :
      Makes nested v (.text f) (.text f ps)
  | files {ws : List String} {gs : PathGlobs}
      (listed : Builder.patternList? v = some ws) (compiled : PathGlobs.ofStrings ws = .ok gs) :
      Makes nested v .files (.files gs)
  | or {entries : List (String × Value)} {m : FieldPatterns}
      (map : v = .object entries) (added : Builder.addFields {} entries = .ok m) :
      Makes nested v .or (.or m)
  | all {scope : ScopeView} {items : List Value} {cs : List Condition}
      (opened : nested = .ok scope) (list : v = .array items)
      (built : Builder.members scope items = cs) (some : cs ≠ []) (few : cs.length ≤ 256) :
      Makes nested v .all (.all cs)
  | any {scope : ScopeView} {items : List Value} {cs : List Condition}
      (opened : nested = .ok scope) (list : v = .array items)
      (built : Builder.members scope items = cs) (some : cs ≠ []) (few : cs.length ≤ 256) :
      Makes nested v .any (.any cs)

/-- The patterns of a list of strings are the strings. -/
theorem Builder.patternList?_ofStrings (ws : List String) :
    Builder.patternList? (Value.ofStrings ws) = some ws := by
  show (ws.map Value.string).mapM Value.string? = some ws
  induction ws with
  | nil => rfl
  | cons w ws ih =>
      rw [List.map_cons, List.mapM_cons, ih]
      rfl

/-- The strings that are required are those of a string or a list of strings. -/
theorem Builder.requirePatterns_eq_ok_iff {kind : String} {v : Value} {ws : List String} :
    Builder.requirePatterns kind v = .ok ws ↔ Builder.patternList? v = some ws := by
  unfold Builder.requirePatterns
  cases Builder.patternList? v <;> simp

/-- All that is asked of the items of a composite is which members they build. -/
theorem Builder.requireMembers_array (kind : String) (scope : ScopeView) (items : List Value) :
    Builder.requireMembers kind (.array items) (.ok scope)
      = (if (Builder.members scope items).length > 256 then
          .error (.tooManyConditions (Builder.members scope items).length Builder.maxConditions)
        else if (Builder.members scope items).isEmpty then .error (.emptyComposite kind)
        else .ok (Builder.members scope items)) := rfl

/-- The members that are required are those that can be built, if there is one and not too many. -/
theorem Builder.requireMembers_eq_ok_iff {kind : String} {v : Value}
    {nested : Except RuleError ScopeView} {cs : List Condition} :
    Builder.requireMembers kind v nested = .ok cs ↔
      ∃ scope items, nested = .ok scope ∧ v = .array items ∧ Builder.members scope items = cs ∧
        cs ≠ [] ∧ cs.length ≤ 256 := by
  constructor
  case mp =>
    intro h
    cases v with
    | array items =>
        cases nested with
        | error e => cases h
        | ok scope =>
            rw [Builder.requireMembers_array] at h
            split at h
            case isTrue => cases h
            case isFalse hfew =>
              split at h
              case isTrue => cases h
              case isFalse hsome =>
                have hcs := Except.ok.inj h
                rw [hcs] at hfew hsome
                exact ⟨scope, items, rfl, rfl, hcs, by simpa using hsome, by omega⟩
    | _ => cases h
  case mpr =>
    rintro ⟨scope, items, rfl, rfl, rfl, hsome, hfew⟩
    rw [Builder.requireMembers_array, if_neg (by omega), if_neg (by simpa using hsome)]

theorem except_map_eq_ok_iff {ε α β : Type} {f : α → β} {r : Except ε α} {b : β} :
    r.map f = .ok b ↔ ∃ a, r = .ok a ∧ f a = b := by
  cases r <;> simp [Except.map]

theorem except_toOption_eq_some_iff {ε α : Type} {r : Except ε α} {a : α} :
    r.toOption = some a ↔ r = .ok a := by
  cases r <;> simp [Except.toOption]

theorem except_isSome_toOption {ε α : Type} (r : Except ε α) : r.toOption.isSome = r.isOk := by
  cases r <;> rfl

theorem except_bind_eq_ok_iff {ε α β : Type} {f : α → Except ε β} {r : Except ε α} {b : β} :
    r.bind f = .ok b ↔ ∃ a, r = .ok a ∧ f a = .ok b := by
  cases r <;> simp [Except.bind]

/-- **A built-in builder makes what `Makes` says and nothing else.** -/
theorem BuiltInKind.build_eq_ok_iff {k : BuiltInKind} {scope : ScopeView}
    {v : Value} {c : Condition} : k.builder.build v scope = .ok c ↔ Makes scope.nested v k c := by
  -- each builder is its checks one after the other, and `Makes` lists what they let through
  cases k with
  | all =>
      show (Builder.requireMembers "all" v scope.nested).map .all = .ok c ↔ _
      rw [except_map_eq_ok_iff]
      simp only [Builder.requireMembers_eq_ok_iff]
      constructor
      · rintro ⟨cs, ⟨scope, items, hopened, hlist, hbuilt, hsome, hfew⟩, rfl⟩
        exact .all hopened hlist hbuilt hsome hfew
      · rintro ⟨⟩
        case all scope items cs hopened hlist hbuilt hsome hfew =>
          exact ⟨cs, ⟨scope, items, hopened, hlist, hbuilt, hsome, hfew⟩, rfl⟩
  | any =>
      show (Builder.requireMembers "any" v scope.nested).map .any = .ok c ↔ _
      rw [except_map_eq_ok_iff]
      simp only [Builder.requireMembers_eq_ok_iff]
      constructor
      · rintro ⟨cs, ⟨scope, items, hopened, hlist, hbuilt, hsome, hfew⟩, rfl⟩
        exact .any hopened hlist hbuilt hsome hfew
      · rintro ⟨⟩
        case any scope items cs hopened hlist hbuilt hsome hfew =>
          exact ⟨cs, ⟨scope, items, hopened, hlist, hbuilt, hsome, hfew⟩, rfl⟩
  | or =>
      constructor
      · intro h
        cases v with
        | object entries =>
            obtain ⟨m, hm, rfl⟩ := except_map_eq_ok_iff.mp
              (show (Builder.addFields {} entries).map .or = .ok c from h)
            exact .or rfl hm
        | _ => cases h
      · rintro ⟨⟩
        case or entries m hmap hadded =>
          subst hmap
          exact except_map_eq_ok_iff.mpr ⟨m, hadded, rfl⟩
  | files =>
      show (Builder.requirePatterns "changed-files" v).bind
        (fun ws => (PathGlobs.ofStrings ws).map .files) = .ok c ↔ _
      simp only [except_bind_eq_ok_iff, except_map_eq_ok_iff, Builder.requirePatterns_eq_ok_iff]
      constructor
      · rintro ⟨ws, hlisted, gs, hcompiled, rfl⟩
        exact .files hlisted hcompiled
      · rintro ⟨⟩
        case files ws gs hlisted hcompiled => exact ⟨ws, hlisted, gs, hcompiled, rfl⟩
  | text f =>
      show (Builder.requirePatterns f.key v).bind
        (fun ws => (TextPatterns.ofStrings ws).map (.text f)) = .ok c ↔ _
      simp only [except_bind_eq_ok_iff, except_map_eq_ok_iff, Builder.requirePatterns_eq_ok_iff]
      constructor
      · rintro ⟨ws, hlisted, ps, hcompiled, rfl⟩
        exact .text hlisted hcompiled
      · rintro ⟨⟩
        case text ws ps hlisted hcompiled => exact ⟨ws, hlisted, ps, hcompiled, rfl⟩

/-! ## §3. Where conditions come from. -/

/-- A member of a composite is built from an entry of one of its items. -/
theorem Builder.mem_members {scope : ScopeView} {items : List Value} {c : Condition} :
    c ∈ Builder.members scope items ↔
      ∃ entries name v, Value.object entries ∈ items ∧ (name, v) ∈ entries ∧
        scope.create name v = .ok c := by
  have hobject : ∀ w entries, Value.object? w = some entries ↔ w = .object entries := by
    intro w entries
    cases w <;> simp [Value.object?]
  unfold Builder.members
  simp only [List.mem_flatMap, List.mem_filterMap, except_toOption_eq_some_iff, hobject]
  constructor
  · rintro ⟨entries, ⟨w, hw, rfl⟩, ⟨name, v⟩, he, hc⟩
    exact ⟨entries, name, v, hw, he, hc⟩
  · rintro ⟨entries, name, v, hw, he, hc⟩
    exact ⟨entries, ⟨_, hw, rfl⟩, (name, v), he, hc⟩

/-- The members of two lists of items are those of both. -/
theorem Builder.members_append (scope : ScopeView) (items items' : List Value) :
    members scope (items ++ items') = members scope items ++ members scope items' := by
  unfold members
  rw [List.filterMap_append, List.flatMap_append]

/-- The members of one item are what its entries build. -/
theorem Builder.members_singleton_object (scope : ScopeView) (entries : List (String × Value)) :
    members scope [.object entries]
      = entries.filterMap fun e => (scope.create e.1 e.2).toOption := List.append_nil _

namespace Registry

variable {r : Registry}

/-- The members of a composite are built where one composite less may be opened. -/
theorem nested_viewInside_succ (r : Registry) (levels : Nat) :
    (r.viewInside (levels + 1)).nested = .ok (r.viewIn levels) := rfl

/-- The members of a composite in a rule group see a place where no more composites may be opened. -/
theorem nested_viewInside (r : Registry) :
    (r.viewInside maxNesting).nested = .ok (r.viewIn 0) := r.nested_viewInside_succ 0

/-- In a group the members of a composite are built one level below, where nothing opens another one. -/
theorem create_all (hall : r.find? "all" = some .all) (items : List Value) :
    r.create "all" (.array items)
      = (Builder.requireMembers "all" (.array items) (.ok (r.viewIn 0))).map .all :=
  createWith_of_accepts hall rfl _

theorem create_any (hany : r.find? "any" = some .any) (items : List Value) :
    r.create "any" (.array items)
      = (Builder.requireMembers "any" (.array items) (.ok (r.viewIn 0))).map .any :=
  createWith_of_accepts hany rfl _

/-- All that is asked of the entries of a group is which conditions they build. -/
theorem compileGroup?_object (entries : List (String × Value)) :
    r.compileGroup? (.object entries)
      = (if (entries.filterMap fun e => (r.create e.1 e.2).toOption).length > 256 then none
        else RuleGroup.ofList? (entries.filterMap fun e => (r.create e.1 e.2).toOption)) := rfl

/-- A group is compiled from a map, and its conditions are what its entries build. -/
theorem compileGroup?_eq_some_iff {v : Value} {g : RuleGroup} :
    r.compileGroup? v = some g ↔ ∃ entries, v = .object entries ∧
      (entries.filterMap fun e => (r.create e.1 e.2).toOption) = g.conditions ∧
        g.conditions.length ≤ 256 := by
  obtain ⟨cs, hne⟩ := g
  -- a group holds a condition, so an empty list makes none
  have hofList : ∀ ds : List Condition, RuleGroup.ofList? ds = some ⟨cs, hne⟩ ↔ ds = cs := by
    intro ds
    unfold RuleGroup.ofList?
    split
    case isTrue h =>
      subst h
      simpa using Ne.symm hne
    case isFalse h => simp
  cases v with
  | object entries =>
      rw [compileGroup?_object, Option.ite_none_left_eq_some, hofList]
      constructor
      · rintro ⟨hfew, hcs⟩
        exact ⟨entries, rfl, hcs, by simpa [hcs] using hfew⟩
      · rintro ⟨_, h, hcs, hfew⟩
        obtain rfl := Value.object.inj h
        exact ⟨by simpa [hcs] using hfew, hcs⟩
  | _ => simp [compileGroup?]

/-- A condition of a compiled group is built from an entry of the map. -/
theorem exists_entry_of_mem_conditions {v : Value} {g : RuleGroup} (h : r.compileGroup? v = some g)
    {c : Condition} (hc : c ∈ g.conditions) :
    ∃ entries name w, v = .object entries ∧ (name, w) ∈ entries ∧ r.create name w = .ok c := by
  obtain ⟨entries, rfl, hconditions, -⟩ := compileGroup?_eq_some_iff.mp h
  rw [← hconditions, List.mem_filterMap] at hc
  obtain ⟨⟨name, w⟩, he, hcreate⟩ := hc
  exact ⟨entries, name, w, rfl, he, except_toOption_eq_some_iff.mp hcreate⟩

/-- The groups of a list are what its items compile to. -/
theorem mem_compileGroups {v : Value} {g : RuleGroup} :
    g ∈ r.compileGroups v ↔ ∃ items w, v = .array items ∧ w ∈ items ∧ r.compileGroup? w = some g := by
  cases v with
  | array items => simp [compileGroups]
  | _ => simp [compileGroups]

/-- The rules of one entry of a document, if some group of it is compiled. -/
def compileLabel? (r : Registry) (e : String × Value) : Option LabelRules :=
  match r.compileGroups e.2 with
  | [] => none
  | groups => some ⟨e.1, groups⟩

/-- Every label is compiled from its own entry. -/
theorem labels_compile (d : RuleDescription) :
    (r.compile d).labels = d.labels.filterMap r.compileLabel? := rfl

/-- A label without groups is left out. -/
theorem compileLabel?_of_nil {e : String × Value} (h : r.compileGroups e.2 = []) :
    r.compileLabel? e = none := by
  rw [compileLabel?, h]

/-- A label with groups keeps them. -/
theorem compileLabel?_of_ne_nil {e : String × Value} (h : r.compileGroups e.2 ≠ []) :
    r.compileLabel? e = some ⟨e.1, r.compileGroups e.2⟩ := by
  unfold compileLabel?
  split
  case h_1 hnil => exact absurd hnil h
  case h_2 => rfl

/-- A label of the compiled rules is a label of the document of which some group is compiled. -/
theorem mem_compile {d : RuleDescription} {l : LabelRules} :
    l ∈ (r.compile d).labels ↔
      ∃ v, (l.name, v) ∈ d.labels ∧ r.compileGroups v = l.groups ∧ l.groups ≠ [] := by
  obtain ⟨name, groups⟩ := l
  unfold compile
  rw [List.mem_filterMap]
  constructor
  · rintro ⟨⟨name', v⟩, he, h⟩
    dsimp only at h
    split at h
    case h_1 => cases h
    case h_2 hne =>
      obtain ⟨rfl, rfl⟩ := LabelRules.mk.inj (Option.some.inj h)
      exact ⟨v, he, rfl, hne⟩
  · rintro ⟨v, he, rfl, hne⟩
    refine ⟨(name, v), he, ?_⟩
    dsimp only
    split
    case h_1 hnil => exact absurd hnil hne
    case h_2 => rfl

/-- The labels of the compiled rules stand in the order of the document. -/
theorem names_compile (d : RuleDescription) :
    (r.compile d).labels.map LabelRules.name
      = (d.labels.filter fun e => !(r.compileGroups e.2).isEmpty).map Prod.fst := by
  unfold compile
  dsimp only
  induction d.labels with
  | nil => rfl
  | cons e rest ih =>
      rw [List.filterMap_cons, List.filter_cons]
      cases hgroups : r.compileGroups e.2 with
      | nil => exact ih
      | cons g groups => exact congrArg (e.1 :: ·) ih

/-- The labels keep their order. -/
theorem sublist_names_compile (d : RuleDescription) :
    ((r.compile d).labels.map LabelRules.name).Sublist (Entries.keys d.labels) := by
  rw [names_compile]
  exact List.filter_sublist.map Prod.fst

/-- With the built-in builders, building makes what `Makes` says. -/
theorem BuiltIn.makes (hr : r.BuiltIn) {scope : ScopeView} {name : String}
    {v : Value} {c : Condition} (h : r.createWith scope name v = .ok c) :
    ∃ k : BuiltInKind, r.find? name = some k.builder ∧ Makes scope.nested v k c := by
  obtain ⟨b, hfind, -, hbuild⟩ := createWith_eq_ok_iff.mp h
  obtain ⟨k, rfl⟩ := hr _ (find?_mem hfind)
  exact ⟨k, hfind, BuiltInKind.build_eq_ok_iff.mp hbuild⟩

end Registry

/-! ## §4. Limits. -/

namespace Condition

/-- `n` is a node of a tree of conditions. -/
inductive IsNode (n : Condition) : Condition → Prop where
  | root : IsNode n n
  | all {cs : List Condition} {c : Condition} (h : c ∈ cs) (node : IsNode n c) : IsNode n (.all cs)
  | any {cs : List Condition} {c : Condition} (h : c ∈ cs) (node : IsNode n c) : IsNode n (.any cs)

/-- No composite of the tree is empty, overfull or around another one, and the tree is at most three
deep. -/
structure WithinLimits (c : Condition) : Prop where
  depth : c.depth ≤ 3
  composite : ∀ (n : Condition) (cs : List Condition), n.IsNode c → n = .all cs ∨ n = .any cs →
    1 ≤ cs.length ∧ cs.length ≤ 256 ∧ ∀ m ∈ cs, m.isComposite = false

/-- A condition that is no composite has two levels at most. -/
theorem depth_le_of_not_composite {c : Condition} (h : c.isComposite = false) : c.depth ≤ 2 := by
  cases c with
  | all | any => cases h
  | or => exact Nat.le_refl 2
  | text | files | custom => exact Nat.le_succ 1

/-- Conditions are as deep as the deepest of them. -/
theorem depthOf_le {k : Nat} {cs : List Condition} (h : ∀ c ∈ cs, c.depth ≤ k) :
    depthOf cs ≤ k := by
  induction cs with
  | nil => exact Nat.zero_le k
  | cons c cs ih =>
      obtain ⟨hc, hcs⟩ := List.forall_mem_cons.mp h
      exact Nat.max_le.mpr ⟨hc, ih hcs⟩

/-- A condition that is no composite has no nodes but itself. -/
theorem IsNode.eq_of_not_composite {n c : Condition} (h : n.IsNode c) (hc : c.isComposite = false) :
    n = c := by
  cases h with
  | root => rfl
  | all | any => cases hc

/-- It is within the limits. -/
theorem withinLimits_leaf {c : Condition} (h : c.isComposite = false) : c.WithinLimits where
  depth := Nat.le_succ_of_le (depth_le_of_not_composite h)
  composite := by
    intro n cs hn hcs
    obtain rfl := hn.eq_of_not_composite h
    rcases hcs with rfl | rfl <;> cases h

/-- A node of a composite is the composite or a node of one of its members. -/
theorem IsNode.root_or_member {n c : Condition} {cs : List Condition} (h : n.IsNode c)
    (hc : c = .all cs ∨ c = .any cs) : n = c ∨ ∃ m ∈ cs, n.IsNode m := by
  cases h with
  | root => exact .inl rfl
  | @all ds m hm hn =>
      obtain rfl : ds = cs := by simpa using hc
      exact .inr ⟨m, hm, hn⟩
  | @any ds m hm hn =>
      obtain rfl : ds = cs := by simpa using hc
      exact .inr ⟨m, hm, hn⟩

/-- A composite of leaves has no composite but itself. -/
theorem withinLimits_composite {c : Condition} {cs : List Condition} (hc : c = .all cs ∨ c = .any cs)
    (some : cs ≠ []) (few : cs.length ≤ 256) (leaves : ∀ m ∈ cs, m.isComposite = false) :
    c.WithinLimits where
  depth := by
    have hdepth : depthOf cs ≤ 2 := depthOf_le fun m hm => depth_le_of_not_composite (leaves m hm)
    rcases hc with rfl | rfl <;> (show 1 + depthOf cs ≤ 3; omega)
  composite := by
    intro n ds hn hds
    rcases hn.root_or_member hc with rfl | ⟨m, hm, hn⟩
    · -- the root itself
      obtain rfl : cs = ds := by rcases hc with rfl | rfl <;> simpa using hds
      exact ⟨List.length_pos_iff.mpr some, few, leaves⟩
    · -- below the root there are leaves
      obtain rfl := hn.eq_of_not_composite (leaves m hm)
      have hleaf := leaves n hm
      rcases hds with rfl | rfl <;> cases hleaf

end Condition

namespace Registry.BuiltIn

variable {r : Registry}

/-- Inside a composite no composite is built: the scope of its members is refused. -/
theorem not_composite (hr : r.BuiltIn) {name : String} {v : Value} {c : Condition}
    (h : r.createIn 0 name v = .ok c) : c.isComposite = false := by
  obtain ⟨k, -, hmakes⟩ := hr.makes h
  cases hmakes with
  | text | files | or => rfl
  | all opened | any opened => cases opened

/-- Inside a composite no composite is built. -/
theorem members_not_composite (hr : r.BuiltIn) {items : List Value} :
    ∀ c ∈ Builder.members (r.viewIn 0) items, c.isComposite = false := by
  intro c hc
  obtain ⟨-, name, v, -, -, hcreate⟩ := Builder.mem_members.mp hc
  exact hr.not_composite hcreate

/-- **Every condition that an entry of a group builds is within the limits.** -/
theorem withinLimits (hr : r.BuiltIn) {name : String} {v : Value} {c : Condition}
    (h : r.create name v = .ok c) : c.WithinLimits := by
  obtain ⟨k, -, hmakes⟩ := hr.makes h
  cases hmakes with
  | text | files | or => exact Condition.withinLimits_leaf rfl
  | all opened _ built some few =>
      subst built
      obtain rfl := Except.ok.inj opened
      exact Condition.withinLimits_composite (.inl rfl) some few hr.members_not_composite
  | any opened _ built some few =>
      subst built
      obtain rfl := Except.ok.inj opened
      exact Condition.withinLimits_composite (.inr rfl) some few hr.members_not_composite

end Registry.BuiltIn

/-- **Nothing vacuous and nothing nested too deep is ever compiled.** -/
theorem compile_withinLimits {r : Registry} (hr : r.BuiltIn) (d : RuleDescription)
    (hkeys : (Entries.keys d.labels).Nodup) :
    (∀ l ∈ (r.compile d).labels, l.groups ≠ [] ∧ ∀ g ∈ l.groups,
      1 ≤ g.conditions.length ∧ g.conditions.length ≤ 256 ∧
        ∀ c ∈ g.conditions, c.WithinLimits) ∧
      ((r.compile d).labels.map LabelRules.name).Nodup ∧
      ((r.compile d).labels.map LabelRules.name).Sublist (Entries.keys d.labels) := by
  refine ⟨fun l hl => ?_, hkeys.sublist (Registry.sublist_names_compile d),
    Registry.sublist_names_compile d⟩
  obtain ⟨v, -, hgroups, hne⟩ := Registry.mem_compile.mp hl
  refine ⟨hne, fun g hg => ?_⟩
  rw [← hgroups] at hg
  obtain ⟨-, w, -, -, hgroup⟩ := Registry.mem_compileGroups.mp hg
  obtain ⟨-, -, -, hfew⟩ := Registry.compileGroup?_eq_some_iff.mp hgroup
  refine ⟨List.length_pos_iff.mpr g.nonempty, hfew, fun c hc => ?_⟩
  obtain ⟨-, name, config, -, -, hcreate⟩ := Registry.exists_entry_of_mem_conditions hgroup hc
  exact hr.withinLimits hcreate

/-- Two kinds under names of their own.  The inner composite is left out, and with it what would have
been a second group. -/
theorem compile_withinLimits_renamed :
    let r := (Registry.empty.register "every" BuiltInKind.all.builder).register "word"
      (BuiltInKind.text .title).builder
    let d : RuleDescription := ⟨[("bug", .array []), ("docs", .array [
      .object [("every", .array [.object [("word", .string "a"), ("every", .array [])], .null])],
      .object [("every", .array [.object [("every", .array [.object [("word", .string "b")]])]])]])]⟩
    r.BuiltIn ∧ (Entries.keys d.labels).Nodup ∧
      (∀ l ∈ (r.compile d).labels, l.groups ≠ [] ∧ ∀ g ∈ l.groups,
        1 ≤ g.conditions.length ∧ g.conditions.length ≤ 256 ∧
          ∀ c ∈ g.conditions, c.WithinLimits) ∧
      (r.compile d).labels.map (fun l => (l.name, l.groups.length)) = [("docs", 1)] := by
  intro r d
  have hr : r.BuiltIn := (Registry.builtIn_empty.register "every" .all).register "word" (.text .title)
  have hkeys : (Entries.keys d.labels).Nodup := by decide
  exact ⟨hr, hkeys, (compile_withinLimits hr d hkeys).1, by decide +kernel⟩

end PullTriage
