import Mathlib.Logic.Relation
import PullTriage.Builder.Extra
import PullTriage.Proofs.BuiltConditions

/-!
  PullTriage.Proofs.DroppedFragments: what cannot be built contributes nothing.

  At each level of a document something may stand that makes no rule: a label without groups, a group of
  which nothing is compiled, an entry that builds no condition, and in a composite an item that is no map
  or an entry of an item that builds no member.  `Inserts` says that a document has one such fragment
  more than another.  However many there are, the rules are the same, whatever else is registered:

      Relation.ReflTransGen (RuleDescription.Inserts r) d d'  →  r.compile d' = r.compile d

  Limits are checked on what is left, so a fragment that is left out never counts against them.
-/

namespace PullTriage

open Json

/-! ## §1. One fragment more. -/

/-- A condition can be built from an entry in a scope. -/
def Scope.Builds (s : Scope) (key : String) (v : Value) : Prop := ∃ c, s.create key v = .ok c

/-- The items of a composite, with one more that is no map or with an entry more in one of them that
builds no member. -/
inductive Scope.InsertsItem (s : Scope) : List Value → List Value → Prop where
  | item {before after : List Value} {v : Value} (noMap : v.object? = none) :
      InsertsItem s (before ++ after) (before ++ v :: after)
  | entry {before after : List Value} {first last : List (String × Value)} {key : String} {v : Value}
      (fresh : key ∉ Entries.keys (first ++ last)) (dropped : ¬s.Builds key v) :
      InsertsItem s (before ++ .object (first ++ last) :: after)
        (before ++ .object (first ++ (key, v) :: last) :: after)

namespace Registry

/-- The entries of a group, with one more that builds no condition or with something more in a
composite. -/
inductive InsertsEntry (r : Registry) : List (String × Value) → List (String × Value) → Prop where
  | entry {first last : List (String × Value)} {key : String} {v : Value}
      (fresh : key ∉ Entries.keys (first ++ last)) (dropped : ¬(Scope.root r).Builds key v) :
      InsertsEntry r (first ++ last) (first ++ (key, v) :: last)
  | composite {first last : List (String × Value)} {kind : String} {items items' : List Value}
      {s : Scope} (composite : kind = "all" ∨ kind = "any") (nested : (Scope.root r).nested = .ok s)
      (inside : s.InsertsItem items items') :
      InsertsEntry r (first ++ (kind, .array items) :: last) (first ++ (kind, .array items') :: last)

/-- The groups of a label, with one more of which nothing is compiled or with something more in one of
them. -/
inductive InsertsGroup (r : Registry) : List Value → List Value → Prop where
  | group {before after : List Value} {v : Value} (dropped : r.compileGroup? v = none) :
      InsertsGroup r (before ++ after) (before ++ v :: after)
  | entry {before after : List Value} {entries entries' : List (String × Value)}
      (inside : r.InsertsEntry entries entries') :
      InsertsGroup r (before ++ .object entries :: after) (before ++ .object entries' :: after)

/-- The labels of a document, with one more that is no list or of whose groups none is compiled, or with
something more in the groups of one of them. -/
inductive InsertsLabel (r : Registry) : List (String × Value) → List (String × Value) → Prop where
  | label {first last : List (String × Value)} {name : String} {v : Value}
      (fresh : name ∉ Entries.keys (first ++ last))
      (dropped : ∀ groups, v = .array groups → ∀ g ∈ groups, r.compileGroup? g = none) :
      InsertsLabel r (first ++ last) (first ++ (name, v) :: last)
  | group {first last : List (String × Value)} {name : String} {groups groups' : List Value}
      (inside : r.InsertsGroup groups groups') :
      InsertsLabel r (first ++ (name, .array groups) :: last)
        (first ++ (name, .array groups') :: last)

end Registry

/-- The second description has one fragment more than the first, of which nothing is built. -/
def RuleDescription.Inserts (r : Registry) (d d' : RuleDescription) : Prop :=
  r.InsertsLabel d.labels d'.labels

/-! ## §2. One place in a list. -/

section Place

variable {α β : Type} (f : α → Option β)

theorem filterMap_insert_none {a : α} (h : f a = none) (before after : List α) :
    (before ++ a :: after).filterMap f = (before ++ after).filterMap f := by
  rw [List.filterMap_append, List.filterMap_append, List.filterMap_cons_none h]

theorem filterMap_replace {a b : α} (h : f a = f b) (before after : List α) :
    (before ++ a :: after).filterMap f = (before ++ b :: after).filterMap f := by
  rw [List.filterMap_append, List.filterMap_append, List.filterMap_cons, List.filterMap_cons, h]

end Place

/-- An entry of which nothing is built may stand anywhere in a map. -/
theorem filterMap_create_insert {create : String → Value → Except RuleError Condition} {key : String}
    {v : Value} (h : ∀ c, create key v ≠ .ok c) (first last : List (String × Value)) :
    ((first ++ (key, v) :: last).filterMap fun e => (create e.1 e.2).toOption)
      = (first ++ last).filterMap fun e => (create e.1 e.2).toOption := by
  have hnone : (create key v).toOption = none := by
    rw [Option.eq_none_iff_forall_ne_some]
    exact fun c hc => h c (except_toOption_eq_some_iff.mp hc)
  exact filterMap_insert_none (fun e : String × Value => (create e.1 e.2).toOption) hnone first last

/-! ## §3. The levels of a document. -/

theorem Scope.ne_ok_of_not_builds {s : Scope} {key : String} {v : Value} (h : ¬s.Builds key v) :
    ∀ c, s.create key v ≠ .ok c := fun c hc => h ⟨c, hc⟩

/-- The members of a composite are what its items build, one item after the other. -/
theorem Builder.members_append_object (scope : ScopeView) (before after : List Value)
    (entries : List (String × Value)) :
    Builder.members scope (before ++ .object entries :: after)
      = Builder.members scope before
        ++ ((entries.filterMap fun e => (scope.create e.1 e.2).toOption)
          ++ Builder.members scope after) := by
  rw [Builder.members_append, ← List.singleton_append, Builder.members_append,
    Builder.members_singleton_object]

/-- A composite has the same members. -/
theorem Scope.InsertsItem.members_eq {s : Scope} {items items' : List Value}
    (h : s.InsertsItem items items') {scope : ScopeView} (hscope : scope.create = s.create) :
    Builder.members scope items' = Builder.members scope items := by
  cases h with
  | item noMap =>
      unfold Builder.members
      rw [filterMap_insert_none _ noMap]
  | entry fresh dropped =>
      rw [Builder.members_append_object, Builder.members_append_object, hscope,
        filterMap_create_insert (Scope.ne_ok_of_not_builds dropped)]

namespace Registry

variable {r : Registry} (hall : r.find? "all" = some .all) (hany : r.find? "any" = some .any)

include hall hany

/-- A composite makes the same condition, or fails in the same way. -/
theorem create_composite_eq {kind : String} (hkind : kind = "all" ∨ kind = "any")
    {items items' : List Value} {s : Scope} (hs : (Scope.root r).nested = .ok s)
    (h : s.InsertsItem items items') :
    r.create kind (.array items') = r.create kind (.array items) := by
  obtain rfl : ⟨r, 0⟩ = s := Except.ok.inj hs
  -- the members are the same, so counting them ends in the same way
  have hrequire : ∀ name, Builder.requireMembers name (.array items') (.ok (r.viewIn 0))
      = Builder.requireMembers name (.array items) (.ok (r.viewIn 0)) := by
    intro name
    have hmembers : Builder.members (r.viewIn 0) items'
        = Builder.members (r.viewIn 0) items := h.members_eq rfl
    rw [Builder.requireMembers_array, Builder.requireMembers_array, hmembers]
  rcases hkind with rfl | rfl
  · rw [create_all hall, create_all hall, hrequire]
  · rw [create_any hany, create_any hany, hrequire]

/-- A group has the same conditions. -/
theorem InsertsEntry.conditions_eq {entries entries' : List (String × Value)}
    (h : r.InsertsEntry entries entries') :
    (entries'.filterMap fun e => (r.create e.1 e.2).toOption)
      = entries.filterMap fun e => (r.create e.1 e.2).toOption := by
  cases h with
  | entry fresh dropped => exact filterMap_create_insert (Scope.ne_ok_of_not_builds dropped) _ _
  | composite composite nested inside =>
      refine filterMap_replace _ ?_ _ _
      exact congrArg Except.toOption (create_composite_eq hall hany composite nested inside)

/-- A label has the same groups. -/
theorem InsertsGroup.compileGroups_eq {groups groups' : List Value}
    (h : r.InsertsGroup groups groups') :
    r.compileGroups (.array groups') = r.compileGroups (.array groups) := by
  show groups'.filterMap r.compileGroup? = groups.filterMap r.compileGroup?
  cases h with
  | group dropped => exact filterMap_insert_none _ dropped _ _
  | entry inside =>
      refine filterMap_replace _ ?_ _ _
      rw [compileGroup?_object, compileGroup?_object, inside.conditions_eq hall hany]

end Registry

/-! ## §4. Documents. -/

theorem Registry.compileGroups_eq_nil {r : Registry} {v : Value}
    (h : ∀ groups, v = .array groups → ∀ g ∈ groups, r.compileGroup? g = none) :
    r.compileGroups v = [] := by
  cases v with
  | array groups => exact List.filterMap_eq_nil_iff.mpr (h groups rfl)
  | _ => rfl

/-- One fragment more does not change the rules. -/
theorem RuleDescription.Inserts.compile_eq {r : Registry} (hall : r.find? "all" = some .all)
    (hany : r.find? "any" = some .any) {d d' : RuleDescription} (h : d.Inserts r d') :
    r.compile d' = r.compile d := by
  obtain ⟨labels⟩ := d
  obtain ⟨labels'⟩ := d'
  show RuleSet.mk (labels'.filterMap r.compileLabel?) = ⟨labels.filterMap r.compileLabel?⟩
  rw [RuleSet.mk.injEq]
  cases h with
  | label fresh dropped =>
      exact filterMap_insert_none _
        (Registry.compileLabel?_of_nil (Registry.compileGroups_eq_nil dropped)) _ _
  | group inside =>
      refine filterMap_replace _ ?_ _ _
      unfold Registry.compileLabel?
      rw [inside.compileGroups_eq hall hany]

/-- **Fragments of which nothing is built change neither the rules nor what is reported, however many
there are and wherever they stand.** -/
theorem compile_inserts {r : Registry} (hall : r.find? "all" = some .all)
    (hany : r.find? "any" = some .any) {d d' : RuleDescription}
    (h : Relation.ReflTransGen (RuleDescription.Inserts r) d d') :
    r.compile d' = r.compile d ∧
      ∀ pr, (r.compile d').classify pr = (r.compile d).classify pr := by
  have hcompile : r.compile d' = r.compile d := by
    induction h with
    | refl => rfl
    | tail _ hstep ih => exact (hstep.compile_eq hall hany).trans ih
  exact ⟨hcompile, fun pr => congrArg (RuleSet.classify · pr) hcompile⟩

/-- Something is left out at every level, beside a kind from outside: an item that is no map, a composite
inside a composite, an entry of an unknown kind, a group of which nothing is compiled and a label
without groups. -/
theorem compile_inserts_docs :
    let r := Registry.core.register "min-files" Builder.minFiles
    let d : RuleDescription := ⟨[("docs", .array [
      .object [("any", .array [.object [("title", .string "doc"), ("min-files", .ofNat 9)]])]])]⟩
    let d' : RuleDescription := ⟨[("bug", .array [.null]), ("docs", .array [
      .object [("body", .bool true)],
      .object [("reviewer", .null), ("any", .array [.null,
        .object [("title", .string "doc"), ("all", .array []), ("min-files", .ofNat 9)]])]])]⟩
    r.find? "all" = some .all ∧ r.find? "any" = some .any ∧
      Relation.ReflTransGen (RuleDescription.Inserts r) d d' ∧
      r.compile d' = r.compile d ∧
      ((r.compile d').classify { title := "Update docs" }).labels = ["docs"] := by
  intro r d d'
  have hall : r.find? "all" = some .all := rfl
  have hany : r.find? "any" = some .any := rfl
  -- the documents on the way, and what is inserted into each of them
  let inDocs (groups : List Value) : RuleDescription := ⟨[("docs", .array groups)]⟩
  let inAny (items : List Value) : List (String × Value) := [("any", .array items)]
  let kept : List (String × Value) := [("title", .string "doc"), ("min-files", .ofNat 9)]
  let more : List (String × Value) :=
    [("title", .string "doc"), ("all", .array []), ("min-files", .ofNat 9)]
  have hgroup : ∀ {gs gs'}, r.InsertsGroup gs gs' → (inDocs gs).Inserts r (inDocs gs') :=
    fun h => @Registry.InsertsLabel.group r [] [] "docs" _ _ h
  have hentry : ∀ {es es'}, r.InsertsEntry es es' →
      (inDocs [.object es]).Inserts r (inDocs [.object es']) :=
    fun h => hgroup (@Registry.InsertsGroup.entry r [] [] _ _ h)
  have hitems : ∀ {is is'}, Scope.InsertsItem ⟨r, 0⟩ is is' →
      (inDocs [.object (inAny is)]).Inserts r (inDocs [.object (inAny is')]) :=
    fun h => hentry (@Registry.InsertsEntry.composite r [] [] "any" _ _ ⟨r, 0⟩ (.inr rfl) rfl h)
  have hitem : d.Inserts r (inDocs [.object (inAny [.null, .object kept])]) :=
    hitems (@Scope.InsertsItem.item ⟨r, 0⟩ [] [.object kept] .null rfl)
  have hmember : (inDocs [.object (inAny [.null, .object kept])]).Inserts r
      (inDocs [.object (inAny [.null, .object more])]) :=
    hitems (@Scope.InsertsItem.entry ⟨r, 0⟩ [.null] [] [("title", .string "doc")]
      [("min-files", .ofNat 9)] "all" (.array []) (by decide) (fun ⟨_, h⟩ => nomatch h))
  have hunknown : (inDocs [.object (inAny [.null, .object more])]).Inserts r
      (inDocs [.object (("reviewer", .null) :: inAny [.null, .object more])]) :=
    hentry (@Registry.InsertsEntry.entry r [] (inAny [.null, .object more]) "reviewer" .null
      (by decide) (fun ⟨_, h⟩ => nomatch h))
  have hempty : (inDocs [.object (("reviewer", .null) :: inAny [.null, .object more])]).Inserts r
      (inDocs [.object [("body", .bool true)],
        .object (("reviewer", .null) :: inAny [.null, .object more])]) :=
    hgroup (@Registry.InsertsGroup.group r [] _ (.object [("body", .bool true)]) rfl)
  have hlabel : (inDocs [.object [("body", .bool true)],
      .object (("reviewer", .null) :: inAny [.null, .object more])]).Inserts r d' :=
    @Registry.InsertsLabel.label r [] _ "bug" (.array [.null]) (by decide) (by
      rintro _ ⟨⟩ g hg
      rw [List.mem_singleton.mp hg]
      rfl)
  have hchain : Relation.ReflTransGen (RuleDescription.Inserts r) d d' :=
    .head hitem (.head hmember (.head hunknown (.head hempty (.single hlabel))))
  exact ⟨hall, hany, hchain, (compile_inserts hall hany hchain).1, by decide +kernel⟩

end PullTriage
