import PullTriage.Proofs.Refusals
import PullTriage.Proofs.ReportedFiles

/-!
  PullTriage.Proofs.ExplicitConjunctions: a group is an `all` that is not written down.

  An entry that is no composite builds the same condition in a group and inside an `all`, and the members
  of a composite are the entries of its items, whatever item they stand in.  So a map may be written as a
  group, as the only item of an `all`, or entry by entry:

      [G]        [{all: [G]}]        [{all: [{k₁: v₁}, …, {kₙ: vₙ}]}]

  With two conditions or more the results are the same to the last detail.  A condition that is alone is
  traced as itself in a group and as the only child of the conjunction in an `all`.
-/

namespace PullTriage

open Json

/-! ## §1. Maps taken apart. -/

namespace Written

/-- The entries of a map as maps of their own. -/
def apart (entries : List (String × Value)) : List Value := entries.map fun e => .object [e]

/-- An item of a composite, taken apart if it is a map. -/
def splitItem : Value → List Value
  | .object entries => apart entries
  | v => [v]

/-- The entries of a group that build a condition. -/
def survivors (entries : List (String × Value)) : List (String × Value) :=
  entries.filter fun e => (Registry.core.create e.1 e.2).isOk

/-- A list of one group, in which an `all` stands alone. -/
def onlyAll (items : List Value) : Value := .array [.object [("all", .array items)]]

end Written

namespace Builder

variable (scope : ScopeView)

/-- Entries build the same members one by one. -/
theorem members_apart (entries : List (String × Value)) :
    members scope (Written.apart entries)
      = entries.filterMap fun e => (scope.create e.1 e.2).toOption := by
  induction entries with
  | nil => rfl
  | cons e entries ih =>
      have hcons : Written.apart (e :: entries) = [.object [e]] ++ Written.apart entries := rfl
      rw [hcons, members_append, members_singleton_object, ih, ← List.filterMap_append,
        List.singleton_append]

/-- Taking the maps among the items apart leaves the members as they are. -/
theorem members_splitItems (items : List Value) :
    members scope (items.flatMap Written.splitItem) = members scope items := by
  induction items with
  | nil => rfl
  | cons v items ih =>
      have hitem : members scope (Written.splitItem v) = members scope [v] := by
        cases v with
        | object entries => rw [members_singleton_object, Written.splitItem, members_apart]
        | _ => rfl
      rw [List.flatMap_cons, members_append, hitem, ih, ← members_append, List.singleton_append]

end Builder

/-- **A composite is the same with its items taken apart, and so is its error.** -/
theorem core_createWith_splitItems {kind : String} (hkind : kind ∈ Written.compositeKinds)
    (items : List Value) (scope : ScopeView) :
    Registry.core.createWith scope kind (.array (items.flatMap Written.splitItem))
      = Registry.core.createWith scope kind (.array items) := by
  -- members are asked for below, where there is a scope for them at all
  have hrequire : Builder.requireMembers kind (.array (items.flatMap Written.splitItem)) scope.nested
      = Builder.requireMembers kind (.array items) scope.nested := by
    cases scope.nested with
    | error e => rfl
    | ok scope =>
        rw [Builder.requireMembers_array, Builder.requireMembers_array, Builder.members_splitItems]
  simp only [Written.compositeKinds, List.mem_cons, List.not_mem_nil, or_false] at hkind
  rcases hkind with rfl | rfl
  · exact congrArg (Except.map Condition.all) hrequire
  · exact congrArg (Except.map Condition.any) hrequire

/-! ## §2. Entries of a group inside an `all`. -/

/-- An entry that is no composite builds the same in every scope. -/
theorem core_createWith_leaf {kind : String} (hkind : kind ∉ Written.compositeKinds) (v : Value)
    (scope scope' : ScopeView) :
    Registry.core.createWith scope kind v = Registry.core.createWith scope' kind v := by
  unfold Registry.createWith
  cases hfind : Registry.core.find? kind with
  | none => rfl
  | some b =>
      obtain ⟨k, hk⟩ := core_named (Registry.find?_mem hfind)
      obtain ⟨rfl, rfl⟩ := Prod.mk.inj hk
      cases k with
      | all | any => exact absurd (by decide) hkind
      | or | files | text => rfl

theorem toOption_eq_none {ε α : Type} {r : Except ε α} (h : ¬r.isOk = true) : r.toOption = none := by
  rwa [← except_isSome_toOption, Option.not_isSome_iff_eq_none] at h

/-- Where a group has no composites, its entries build the same conditions inside an `all`. -/
theorem filterMap_create_inside {entries : List (String × Value)}
    (hleaf : ∀ e ∈ entries, (Registry.core.create e.1 e.2).isOk = true →
      e.1 ∉ Written.compositeKinds) :
    (entries.filterMap fun e => (Registry.core.createIn 0 e.1 e.2).toOption)
      = entries.filterMap fun e => (Registry.core.create e.1 e.2).toOption := by
  refine List.filterMap_congr fun e he => ?_
  by_cases hkind : e.1 ∈ Written.compositeKinds
  case neg => exact congrArg Except.toOption (core_createWith_leaf hkind e.2 _ _)
  case pos =>
    -- in the group it builds nothing by assumption, and inside an `all` no composite ever does
    have hgroup : ¬(Registry.core.create e.1 e.2).isOk = true := fun hok => hleaf e he hok hkind
    have hinside : ¬(Registry.core.createIn 0 e.1 e.2).isOk = true := fun hok =>
      (isOk_create_inside_iff.mp hok).1 hkind
    rw [toOption_eq_none hgroup, toOption_eq_none hinside]

/-- What builds nothing may be left out beforehand. -/
theorem filterMap_create_survivors (entries : List (String × Value)) :
    ((Written.survivors entries).filterMap fun e => (Registry.core.create e.1 e.2).toOption)
      = entries.filterMap fun e => (Registry.core.create e.1 e.2).toOption := by
  unfold Written.survivors
  rw [List.filterMap_filter]
  refine List.filterMap_congr fun e _ => ?_
  split
  case isTrue => rfl
  case isFalse h => exact (toOption_eq_none h).symm

/-- Every survivor builds one condition. -/
theorem length_filterMap_create (entries : List (String × Value)) :
    (entries.filterMap fun e => (Registry.core.create e.1 e.2).toOption).length
      = (Written.survivors entries).length := by
  unfold Written.survivors
  rw [List.length_filterMap_eq_countP, List.countP_eq_length_filter]
  simp only [except_isSome_toOption]

/-! ## §3. Groups. -/

namespace RuleGroup

/-- The group whose only condition is the conjunction of those of a group. -/
def asAll (g : RuleGroup) : RuleGroup := .single (.all g.conditions)

variable (g : RuleGroup) (pr : PullRequest)

theorem holds_asAll : g.asAll.holds pr = g.holds pr := Bool.and_true (g.holds pr)

/-- Several conditions are traced as their conjunction. -/
theorem trace_asAll {g : RuleGroup} (h : 2 ≤ g.conditions.length) :
    g.asAll.trace pr = g.trace pr := by
  match g, h with
  | ⟨[], hne⟩, _ => exact absurd rfl hne
  | ⟨[_], _⟩, h => exact absurd h (Nat.not_succ_le_self 1)
  | ⟨_ :: _ :: _, _⟩, _ => rfl

/-- A conjunction has no files but those of its members. -/
theorem matchedFiles_trace_asAll : (g.asAll.trace pr).matchedFiles = (g.trace pr).matchedFiles := by
  have hglobs : g.asAll.globs = g.globs := List.append_nil (Condition.globsOf g.conditions)
  rw [matchedFiles_trace, matchedFiles_trace, hglobs]

/-- One group alone. -/
theorem evaluate_singleton (name : String) :
    evaluate name [g] pr = ⟨name, 1, if g.holds pr then some ⟨0, g.trace pr⟩ else none⟩ := by
  unfold evaluate evaluateFrom
  split <;> rfl

end RuleGroup

/-- Two results say the same, but the decision may have been traced in different ways. -/
structure SameButTrace (m m' : MatchResult) : Prop where
  label : m.label = m'.label
  matched : m.matched = m'.matched
  matchedFiles : m.matchedFiles = m'.matchedFiles
  winningGroup : m.winner.map Winner.index = m'.winner.map Winner.index
  groupsEvaluated : m.groupsEvaluated = m'.groupsEvaluated

section Evaluate

variable (name : String) (pr : PullRequest)

/-- The conditions of a group may be put into an `all`. -/
theorem sameButTrace_asAll (group : Option RuleGroup) :
    SameButTrace (evaluate name (group.map RuleGroup.asAll).toList pr)
      (evaluate name group.toList pr) := by
  cases group with
  | none => exact ⟨rfl, rfl, rfl, rfl, rfl⟩
  | some g =>
      show SameButTrace (evaluate name [g.asAll] pr) (evaluate name [g] pr)
      rw [RuleGroup.evaluate_singleton, RuleGroup.evaluate_singleton, g.holds_asAll]
      cases g.holds pr with
      | false => exact ⟨rfl, rfl, rfl, rfl, rfl⟩
      | true => exact ⟨rfl, rfl, g.matchedFiles_trace_asAll pr, rfl, rfl⟩

/-- Of several conditions even the trace is the same. -/
theorem evaluate_asAll {group : Option RuleGroup} (h : ∀ g, group = some g → 2 ≤ g.conditions.length) :
    evaluate name (group.map RuleGroup.asAll).toList pr = evaluate name group.toList pr := by
  cases group with
  | none => rfl
  | some g =>
      show evaluate name [g.asAll] pr = evaluate name [g] pr
      rw [RuleGroup.evaluate_singleton, RuleGroup.evaluate_singleton, g.holds_asAll,
        RuleGroup.trace_asAll pr (h g rfl)]

end Evaluate

/-! ## §4. Documents. -/

namespace Registry

theorem compileGroups_singleton (r : Registry) (v : Value) :
    r.compileGroups (.array [v]) = (r.compileGroup? v).toList := by
  show [v].filterMap r.compileGroup? = _
  cases h : r.compileGroup? v with
  | none => rw [List.filterMap_cons_none h]; rfl
  | some g => rw [List.filterMap_cons_some h]; rfl

/-- An `all` with the members that a group has as conditions is compiled exactly when the group is. -/
theorem compileGroup?_all {entries : List (String × Value)} {items : List Value}
    (h : Builder.members (core.viewIn 0) items
      = entries.filterMap fun e => (core.create e.1 e.2).toOption) :
    core.compileGroup? (.object [("all", .array items)])
      = (core.compileGroup? (.object entries)).map RuleGroup.asAll := by
  rw [compileGroup?_object, compileGroup?_object, ← h, List.filterMap_cons, List.filterMap_nil]
  dsimp only
  rw [create_all rfl, Builder.requireMembers_array]
  generalize Builder.members _ items = cs
  -- too many members or none are an error of the `all`, which leaves its group without conditions;
  -- as conditions of a group they make no group either
  by_cases hmany : cs.length > 256
  case pos =>
    rw [if_pos hmany, if_pos hmany]
    rfl
  case neg =>
    rw [if_neg hmany, if_neg hmany]
    cases cs with
    | nil => rfl
    | cons c cs => rfl

/-- A list of one group, and the same in an `all`. -/
theorem compileGroups_onlyAll {entries : List (String × Value)} {items : List Value}
    (h : Builder.members (core.viewIn 0) items
      = entries.filterMap fun e => (core.create e.1 e.2).toOption) :
    core.compileGroups (Written.onlyAll items)
      = ((core.compileGroup? (.object entries)).map RuleGroup.asAll).toList := by
  rw [Written.onlyAll, compileGroups_singleton, compileGroup?_all h]

end Registry

/-- **A group is the same as an explicit `all`, and the items of composites may be taken apart.** -/
theorem evaluate_explicit_all :
    (∀ entries : List (String × Value),
      (∀ e ∈ Written.survivors entries, e.1 ∉ Written.compositeKinds) → ∀ name pr,
        let group := evaluate name (Registry.core.compileGroups (.array [.object entries])) pr
        let whole := evaluate name
          (Registry.core.compileGroups (Written.onlyAll [.object entries])) pr
        let apart := evaluate name (Registry.core.compileGroups
          (Written.onlyAll (Written.apart (Written.survivors entries)))) pr
        apart = whole ∧ SameButTrace whole group ∧
          (2 ≤ (Written.survivors entries).length → whole = group)) ∧
    ∀ kind ∈ Written.compositeKinds, ∀ (levels : Nat) (items : List Value),
      Registry.core.createIn levels kind (.array (items.flatMap Written.splitItem))
        = Registry.core.createIn levels kind (.array items) := by
  constructor
  case left =>
    intro entries hleaf name pr group whole apart
    -- written in either way, the members of the `all` are the conditions of the group
    have hwhole := Registry.compileGroups_onlyAll
      ((Builder.members_singleton_object _ entries).trans
        (filterMap_create_inside fun e he hok => hleaf e (List.mem_filter.mpr ⟨he, hok⟩)))
    have hapart : Registry.core.compileGroups
        (Written.onlyAll (Written.apart (Written.survivors entries))) = _ :=
      Registry.compileGroups_onlyAll ((Builder.members_apart _ _).trans
        ((filterMap_create_inside fun e he _ => hleaf e he).trans (filterMap_create_survivors entries)))
    have hgroup := Registry.core.compileGroups_singleton (.object entries)
    simp only [whole, apart, group, hwhole, hapart, hgroup]
    refine ⟨trivial, sameButTrace_asAll name pr _, fun htwo => evaluate_asAll name pr fun g hg => ?_⟩
    -- a group that is compiled has as many conditions as there are survivors
    obtain ⟨_, hobject, hconditions, -⟩ := Registry.compileGroup?_eq_some_iff.mp hg
    obtain rfl := Value.object.inj hobject
    rw [← hconditions, length_filterMap_create]
    exact htwo
  case right =>
    intro kind hkind levels items
    cases levels with
    | zero => exact core_createWith_splitItems hkind items _
    | succ levels => exact core_createWith_splitItems hkind items _

/-- An entry that does not compile and a composite without members are left out, and two conditions
remain; in the other group one does.  Among the items of a composite what is no map stays where it is. -/
theorem evaluate_explicit_all_title :
    let two : List (String × Value) := [("title", .string "fix"), ("body", .string "["),
      ("changed-files", .ofStrings ["*.rs", "a*"]), ("any", .array [])]
    let one : List (String × Value) := [("title", .string "fix"), ("reviewer", .null)]
    let pr : PullRequest := { title := "Fix it", changedFiles := ["a.rs", "b.md"] }
    let groupOf entries := evaluate "bug" (Registry.core.compileGroups (.array [.object entries])) pr
    let wholeOf entries :=
      evaluate "bug" (Registry.core.compileGroups (Written.onlyAll [.object entries])) pr
    (∀ e ∈ Written.survivors two, e.1 ∉ Written.compositeKinds) ∧
      (∀ e ∈ Written.survivors one, e.1 ∉ Written.compositeKinds) ∧
      (Written.survivors two).length = 2 ∧
      evaluate "bug" (Registry.core.compileGroups
        (Written.onlyAll (Written.apart (Written.survivors two)))) pr = wholeOf two ∧
      wholeOf two = groupOf two ∧ (wholeOf two).matchedFiles = ["a.rs"] ∧
      SameButTrace (wholeOf one) (groupOf one) ∧ (groupOf one).matched = true ∧
      Registry.core.create "any" (.array [.object [("title", .string "a")],
          .object [("body", .string "b")], .null])
        = Registry.core.create "any" (.array [.object [("title", .string "a"), ("body", .string "b")],
          .object [], .null]) := by
  intro two one pr groupOf wholeOf
  have htwo : ∀ e ∈ Written.survivors two, e.1 ∉ Written.compositeKinds := by decide +kernel
  have hone : ∀ e ∈ Written.survivors one, e.1 ∉ Written.compositeKinds := by decide +kernel
  have hlength : (Written.survivors two).length = 2 := by decide +kernel
  obtain ⟨hapart, -, hsame⟩ := evaluate_explicit_all.1 two htwo "bug" pr
  exact ⟨htwo, hone, hlength, hapart, hsame hlength.ge, by decide +kernel,
    (evaluate_explicit_all.1 one hone "bug" pr).2.1, by decide +kernel,
    evaluate_explicit_all.2 "any" (by decide) maxNesting
      [.object [("title", .string "a"), ("body", .string "b")], .object [], .null]⟩

end PullTriage
