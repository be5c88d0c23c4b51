import Mathlib.Data.Multiset.Bind
import PullTriage.Proofs.CombinedGlobs
import PullTriage.Proofs.DocumentMeaning
import PullTriage.Proofs.MatchReasons
import PullTriage.Proofs.Verdicts

/-!
  PullTriage.Proofs.Rearrangement: the order inside a rule group does not matter.

  `Value.Rearranged` puts the items of lists and the entries of maps in another order, at any depth.  A
  document is rearranged group by group, while its labels and their groups keep their order.

  Level by level, an entry and its rearrangement are both built or both left out, and what is built has
  one verdict:

      v.Rearranged v'  →
        verdictOf pr (Registry.core.create key v) = verdictOf pr (Registry.core.create key v')

  As a composite or a group only asks which verdicts its members have, and how many members there are,
  this carries over to it from its members.
-/

namespace PullTriage

open Json

/-! ## §1. The same members in another order. -/

section Rel

variable {α β γ : Type} {R : α → β → Prop}

/-- Members that correspond after a permutation are related as multisets. -/
theorem rel_of_perm {l mid : List α} {l' : List β} (hperm : l.Perm mid) (h : List.Forall₂ R mid l') :
    Multiset.Rel R l l' := by
  rw [Multiset.coe_eq_coe.mpr hperm]
  clear hperm
  induction h with
  | nil => exact .zero
  | cons hab _ ih => exact .cons hab ih

variable {l : List α} {l' : List β} (h : Multiset.Rel R l l')
include h

/-- Functions that agree on related members take the same values, up to their order. -/
theorem map_perm_of_rel {f : α → γ} {g : β → γ} (hfg : ∀ a ∈ l, ∀ b, R a b → f a = g b) :
    (l.map f).Perm (l'.map g) := by
  have heq : (l : Multiset α).map f = (l' : Multiset β).map g :=
    Multiset.rel_eq.mp (Multiset.rel_map.mpr (h.mono fun a ha b _ => hfg a ha b))
  exact Multiset.coe_eq_coe.mp heq

/-- Tests that agree on related members succeed for all of them in both orders. -/
theorem all_eq_of_rel {f : α → Bool} {g : β → Bool} (hfg : ∀ a ∈ l, ∀ b, R a b → f a = g b) :
    l.all f = l'.all g := by
  have hall := (map_perm_of_rel h hfg).all_eq (f := id)
  rwa [List.all_map, List.all_map] at hall

/-- The same for some of them. -/
theorem any_eq_of_rel {f : α → Bool} {g : β → Bool} (hfg : ∀ a ∈ l, ∀ b, R a b → f a = g b) :
    l.any f = l'.any g := by
  have hany := (map_perm_of_rel h hfg).any_eq (f := id)
  rwa [List.any_map, List.any_map] at hany

/-- What is selected is the same, up to the order. -/
theorem filterMap_perm_of_rel {f : α → Option γ} {g : β → Option γ}
    (hfg : ∀ a ∈ l, ∀ b, R a b → f a = g b) : (l.filterMap f).Perm (l'.filterMap g) := by
  have hperm := (map_perm_of_rel h hfg).filterMap id
  rwa [List.filterMap_map, List.filterMap_map] at hperm

/-- What is put together is the same, up to the order. -/
theorem flatMap_perm_of_rel {f : α → List γ} {g : β → List γ}
    (hfg : ∀ a ∈ l, ∀ b, R a b → (f a).Perm (g b)) : (l.flatMap f).Perm (l'.flatMap g) := by
  -- the parts agree up to their order, so they are compared as multisets
  have hmap : ((l.map fun a => (f a : Multiset γ))).Perm (l'.map fun b => (g b : Multiset γ)) :=
    map_perm_of_rel h fun a ha b hab => Multiset.coe_eq_coe.mpr (hfg a ha b hab)
  have hjoin := congrArg Multiset.join (Multiset.coe_eq_coe.mpr hmap)
  have hflat : ∀ {δ : Type} (f : δ → List γ) (l : List δ),
      Multiset.join (l.map fun a => (f a : Multiset γ) : Multiset (Multiset γ)) = l.flatMap f :=
    fun f l => Multiset.coe_bind l f
  rw [hflat, hflat] at hjoin
  exact Multiset.coe_eq_coe.mp hjoin

end Rel

/-! ## §2. Rearranged documents. -/

namespace Json

/-- Two entries have one key, and what stands under it is related. -/
inductive SameKey (R : Value → Value → Prop) : String × Value → String × Value → Prop where
  | mk {key : String} {v v' : Value} (h : R v v') : SameKey R (key, v) (key, v')

/-- The items of lists and the entries of maps stand in another order, at any depth. -/
inductive Value.Rearranged : Value → Value → Prop where
  | same (v : Value) : Rearranged v v
  | array {items items' : List Value} (h : Multiset.Rel Rearranged items items') :
      Rearranged (.array items) (.array items')
  | object {entries entries' : List (String × Value)}
      (h : Multiset.Rel (SameKey Rearranged) entries entries') :
      Rearranged (.object entries) (.object entries')

/-- Rearranging gives no key twice. -/
theorem Value.DistinctKeys.rearranged {v v' : Value} (hkeys : v.DistinctKeys)
    (h : v.Rearranged v') : v'.DistinctKeys := by
  -- the relation is nested in that of multisets, so the induction is on the keys being distinct
  induction hkeys generalizing v' with
  | null | bool | number | string =>
      cases h
      constructor
  | array hitems ih =>
      cases h with
      | same => exact .array hitems
      | array h =>
          refine .array fun w' hw' => ?_
          obtain ⟨w, hw, hrel⟩ := Multiset.exists_mem_of_rel_of_mem (Multiset.rel_flip.mpr h) hw'
          exact ih w hw hrel
  | object hnodup hentries ih =>
      cases h with
      | same => exact .object hnodup hentries
      | object h =>
          have hperm := map_perm_of_rel (f := Prod.fst) (g := Prod.fst) h fun e _ e' he => by
            obtain ⟨-⟩ := he
            rfl
          refine .object (hperm.nodup_iff.mp hnodup) fun e' he' => ?_
          obtain ⟨e, he, hrel⟩ := Multiset.exists_mem_of_rel_of_mem (Multiset.rel_flip.mpr h) he'
          obtain ⟨hvalue⟩ := hrel
          exact ih _ he hvalue

/-- The groups of a label keep their order, and each of them is rearranged. -/
inductive Value.GroupsRearranged : Value → Value → Prop where
  | same (v : Value) : GroupsRearranged v v
  | array {items items' : List Value} (h : List.Forall₂ Rearranged items items') :
      GroupsRearranged (.array items) (.array items')

end Json

/-- The labels keep their order, and the groups of each of them are rearranged. -/
def RuleDescription.Rearranged (d d' : RuleDescription) : Prop :=
  List.Forall₂ (SameKey Value.GroupsRearranged) d.labels d'.labels

/-! ## §3. Leaves. -/

namespace Written

section Congr

variable {v v' : Value} (h : v.Rearranged v')
include h

theorem string?_rearranged : v.string? = v'.string? := by
  cases h <;> rfl

/-- The strings of a rearranged value pass the same tests. -/
theorem everyString_rearranged (test : String → Bool) :
    everyString test v = everyString test v' := by
  cases h with
  | same => rfl
  | array h => exact all_eq_of_rel h fun w _ w' hw => by rw [string?_rearranged hw]
  | object => rfl

theorem someString_rearranged (test : String → Bool) :
    someString test v = someString test v' := by
  cases h with
  | same => rfl
  | array h => exact any_eq_of_rel h fun w _ w' hw => by rw [string?_rearranged hw]
  | object => rfl

theorem orValid_rearranged : orValid v = orValid v' := by
  cases h with
  | same => rfl
  | array => rfl
  | object h =>
      refine all_eq_of_rel h fun e _ e' he => ?_
      obtain ⟨hv⟩ := he
      unfold textValid
      rw [everyString_rearranged hv]

theorem orHolds_rearranged (pr : PullRequest) : orHolds pr v = orHolds pr v' := by
  cases h with
  | same => rfl
  | array => rfl
  | object h =>
      refine any_eq_of_rel h fun e _ e' he => ?_
      obtain ⟨hv⟩ := he
      unfold textHolds
      simp only [someString_rearranged hv]

/-- They are the same, up to their order. -/
theorem strings_rearranged : (strings v).Perm (strings v') := by
  cases h with
  | same => exact .refl _
  | array h => exact filterMap_perm_of_rel h fun w _ w' hw => string?_rearranged hw
  | object => exact .nil

/-- An entry that is no composite stays valid. -/
theorem leafValid_rearranged (key : String) : leafValid key v = leafValid key v' := by
  unfold leafValid filesValid textValid
  rw [orValid_rearranged h, everyString_rearranged h, everyString_rearranged h,
    PathGlobs.isNone_combinationProblem?_perm (strings_rearranged h)]

/-- It keeps holding. -/
theorem leafHolds_rearranged (pr : PullRequest) (key : String) :
    leafHolds pr key v = leafHolds pr key v' := by
  unfold leafHolds filesHold textHolds
  simp only [orHolds_rearranged h, someString_rearranged h]

end Congr

/-- The files that an entry that is no composite reports: those that one of its globs matches. -/
def leafFiles (pr : PullRequest) (key : String) (v : Value) : Set String :=
  {path | key = "changed-files" ∧ path ∈ pr.changedFiles ∧
    someString (PathGlob.covers path) v = true}

/-- The verdict of an entry that is no composite, if it is valid. -/
def leafVerdict? (pr : PullRequest) (key : String) (v : Value) : Option Verdict :=
  if leafValid key v then some ⟨leafHolds pr key v, leafFiles pr key v⟩ else none

/-- So it keeps its verdict. -/
theorem leafVerdict?_rearranged {v v' : Value} (h : v.Rearranged v') (pr : PullRequest)
    (key : String) : leafVerdict? pr key v = leafVerdict? pr key v' := by
  unfold leafVerdict? leafFiles
  simp only [leafValid_rearranged h, leafHolds_rearranged h, someString_rearranged h]

end Written

section VerdictOf

variable (pr : PullRequest)

/-- The verdict of the condition that is built, if one is built. -/
def verdictOf (r : Except RuleError Condition) : Option Verdict :=
  r.toOption.map (Condition.verdict pr)

/-- What a leaf reports is written in its entry. -/
theorem files_of_createWith {scope : ScopeView} {key : String} {v : Value}
    {c : Condition} (h : Registry.core.createWith scope key v = .ok c)
    (hleaf : c.isComposite = false) : (c.verdict pr).files = Written.leafFiles pr key v := by
  obtain ⟨k, rfl, hmakes⟩ := core_makes h
  -- every other kind reports no files
  have hnone : k.name ≠ "changed-files" → ∅ = Written.leafFiles pr k.name v := by
    intro hkey
    refine (Set.eq_empty_iff_forall_notMem.mpr fun path hpath => ?_).symm
    exact hkey hpath.1
  cases hmakes with
  | @text f =>
      rw [Condition.verdict_text]
      exact hnone (by cases f <;> decide)
  | files listed compiled =>
      rw [Condition.verdict_files]
      ext path
      have hsome := (Written.string_of_patternList listed (PathGlob.covers path)).2
      rw [← PathGlobs.written_ofStrings compiled, ← PathGlobs.accepts_eq_any] at hsome
      show path ∈ pr.changedFiles ∧ _ ↔ _ = _ ∧ path ∈ pr.changedFiles ∧ _ = true
      rw [hsome]
      exact (and_iff_right rfl).symm
  | or =>
      rw [Condition.verdict_or]
      exact hnone (by decide)
  | all | any => cases hleaf

/-- Where an entry that builds a leaf has the outcome that is written, it has the verdict that is
written. -/
theorem verdictOf_of_outcome {scope : ScopeView} {key : String} {v : Value}
    (h : outcome pr (Registry.core.createWith scope key v)
      = expected (Written.leafValid key v) (Written.leafHolds pr key v))
    (hleaf : ∀ c, Registry.core.createWith scope key v = .ok c → c.isComposite = false) :
    verdictOf pr (Registry.core.createWith scope key v)
      = Written.leafVerdict? pr key v := by
  unfold Written.leafVerdict?
  cases hr : Registry.core.createWith scope key v with
  | error e =>
      rw [hr] at h
      have hvalid : ¬Written.leafValid key v = true := by
        intro hvalid
        rw [expected, if_pos hvalid] at h
        cases h
      rw [if_neg hvalid]
      rfl
  | ok c =>
      rw [hr] at h
      obtain ⟨hvalid, hholds⟩ := Option.ite_none_right_eq_some.mp h.symm
      rw [if_pos hvalid]
      have hfiles := files_of_createWith pr hr (hleaf c hr)
      exact congrArg some (Verdict.ext (Option.some.inj hholds).symm hfiles)

/-- Inside a composite every entry that is built is a leaf. -/
theorem verdictOf_member {key : String} {v : Value} (h : v.DistinctKeys) :
    verdictOf pr (Registry.core.createIn 0 key v)
      = Written.leafVerdict? pr key v :=
  verdictOf_of_outcome pr (outcome_member pr h) fun _ hc => builtIn_core.not_composite hc

/-- An entry of a group that is no composite. -/
theorem verdictOf_leaf {key : String} {v : Value} (h : v.DistinctKeys) (hall : key ≠ "all")
    (hany : key ≠ "any") (scope : ScopeView) :
    verdictOf pr (Registry.core.createWith scope key v)
      = Written.leafVerdict? pr key v := by
  refine verdictOf_of_outcome pr (outcome_leaf pr h hall hany scope) fun c hc => ?_
  obtain ⟨k, rfl, hmakes⟩ := core_makes hc
  cases hmakes with
  | text | files | or => rfl
  | all => exact absurd rfl hall
  | any => exact absurd rfl hany

/-! ## §4. Composites. -/

/-- The verdicts of the members that an item builds. -/
def itemVerdicts (create : String → Value → Except RuleError Condition) : Value → List Verdict
  | .object entries => entries.filterMap fun e => verdictOf pr (create e.1 e.2)
  | _ => []

/-- The verdicts of what is built from some entries. -/
theorem map_verdict_filterMap (create : String → Value → Except RuleError Condition)
    (entries : List (String × Value)) :
    (entries.filterMap fun e => (create e.1 e.2).toOption).map (Condition.verdict pr)
      = entries.filterMap fun e => verdictOf pr (create e.1 e.2) :=
  List.map_filterMap

/-- The verdicts of the members of a composite. -/
theorem map_verdict_members (scope : ScopeView) (items : List Value) :
    (Builder.members scope items).map (Condition.verdict pr)
      = items.flatMap (itemVerdicts pr scope.create) := by
  induction items with
  | nil => rfl
  | cons v items ih =>
      rw [List.flatMap_cons, ← ih]
      cases v with
      | object entries =>
          show (entries.filterMap (fun e => (scope.create e.1 e.2).toOption) ++ _).map _ = _
          rw [List.map_append, map_verdict_filterMap]
          rfl
      | _ => rfl

/-- Conditions with the same verdicts are equally many. -/
theorem length_eq_of_verdicts_perm {pr : PullRequest} {cs cs' : List Condition}
    (h : (cs.map (Condition.verdict pr)).Perm (cs'.map (Condition.verdict pr))) :
    cs.length = cs'.length := by
  have hlength := h.length_eq
  rwa [List.length_map, List.length_map] at hlength

/-- Items that are rearranged build members with the same verdicts. -/
theorem verdicts_members_perm {items items' : List Value}
    (h : Multiset.Rel Value.Rearranged items items') (hkeys : ∀ v ∈ items, v.DistinctKeys) :
    ((Builder.members (Registry.core.viewIn 0) items).map (Condition.verdict pr)).Perm
      ((Builder.members (Registry.core.viewIn 0) items').map (Condition.verdict pr)) := by
  rw [map_verdict_members, map_verdict_members]
  refine flatMap_perm_of_rel h fun v hv v' hitem => ?_
  have hv := hkeys v hv
  cases hitem with
  | same => exact .refl _
  | array => exact .refl _
  | object hentries =>
      refine filterMap_perm_of_rel hentries fun e he e' hentry => ?_
      have he := hv.entry e he
      obtain ⟨hvalue⟩ := hentry
      show verdictOf pr (Registry.core.createIn 0 _ _) = verdictOf pr (Registry.core.createIn 0 _ _)
      rw [verdictOf_member pr he, verdictOf_member pr (he.rearranged hvalue)]
      exact Written.leafVerdict?_rearranged hvalue pr _

/-- Requiring members asks how many there are, and that does not depend on their order; nor does what is
then made of them. -/
theorem verdictOf_requireMembers (kind : String) {condition : List Condition → Condition}
    {combine : List Verdict → Verdict}
    (hverdict : ∀ cs, (condition cs).verdict pr = combine (cs.map (Condition.verdict pr)))
    (hcombine : ∀ {vs vs' : List Verdict}, vs.Perm vs' → combine vs = combine vs')
    {items items' : List Value} (h : Multiset.Rel Value.Rearranged items items')
    (hkeys : ∀ v ∈ items, v.DistinctKeys) :
    verdictOf pr ((Builder.requireMembers kind (.array items)
        (.ok (Registry.core.viewIn 0))).map condition)
      = verdictOf pr ((Builder.requireMembers kind (.array items')
        (.ok (Registry.core.viewIn 0))).map condition) := by
  have hperm := verdicts_members_perm pr h hkeys
  rw [Builder.requireMembers_array, Builder.requireMembers_array]
  generalize Builder.members (Registry.core.viewIn 0) items = cs at hperm
  generalize Builder.members (Registry.core.viewIn 0) items' = cs' at hperm
  have hlength := length_eq_of_verdicts_perm hperm
  have hempty : cs.isEmpty = cs'.isEmpty := by
    rw [Bool.eq_iff_iff, List.isEmpty_iff_length_eq_zero, List.isEmpty_iff_length_eq_zero, hlength]
  rw [hlength, hempty]
  -- too many members and none at all are refused in both orders
  split
  case isTrue => rfl
  case isFalse =>
    split
    case isTrue => rfl
    case isFalse =>
      show some ((condition cs).verdict pr) = some ((condition cs').verdict pr)
      rw [hverdict, hverdict, hcombine hperm]

/-- **An entry of a group and its rearrangement build conditions with one verdict, or none.** -/
theorem verdictOf_create {key : String} {v v' : Value} (h : v.Rearranged v')
    (hkeys : v.DistinctKeys) :
    verdictOf pr (Registry.core.create key v) = verdictOf pr (Registry.core.create key v') := by
  by_cases hall : key = "all"
  case pos =>
    subst hall
    -- a map is no list of members in any order
    cases h with
    | same => rfl
    | object => rfl
    | array h =>
        rw [Registry.create_all rfl, Registry.create_all rfl]
        exact verdictOf_requireMembers pr "all" (Condition.verdict_all pr) Verdict.ofAll_of_perm h
          hkeys.item
  by_cases hany : key = "any"
  case pos =>
    subst hany
    cases h with
    | same => rfl
    | object => rfl
    | array h =>
        rw [Registry.create_any rfl, Registry.create_any rfl]
        exact verdictOf_requireMembers pr "any" (Condition.verdict_any pr) Verdict.ofAny_of_perm h
          hkeys.item
  have hleaf := verdictOf_leaf pr hkeys hall hany (Registry.core.viewInside maxNesting)
  have hleaf' := verdictOf_leaf pr (hkeys.rearranged h) hall hany
    (Registry.core.viewInside maxNesting)
  calc verdictOf pr (Registry.core.create key v)
      = Written.leafVerdict? pr key v := hleaf
    _ = Written.leafVerdict? pr key v' := Written.leafVerdict?_rearranged h pr key
    _ = verdictOf pr (Registry.core.create key v') := hleaf'.symm

/-! ## §5. Groups and labels. -/

/-- The verdict of a group is that of the conjunction of its conditions, if there are any. -/
theorem verdict_ofList? (cs : List Condition) :
    (RuleGroup.ofList? cs).map (RuleGroup.verdict pr)
      = if cs.length = 0 then none else some (.ofAll (cs.map (Condition.verdict pr))) := by
  unfold RuleGroup.ofList?
  by_cases h : cs = []
  case pos =>
    rw [dif_pos h, h]
    rfl
  case neg =>
    rw [dif_neg h, if_neg (mt List.length_eq_zero_iff.mp h)]
    exact congrArg some (RuleGroup.verdict_eq pr ⟨cs, h⟩)

/-- A group and its rearrangement are compiled with one verdict, or not at all. -/
theorem groupVerdict_rearranged {v v' : Value} (h : v.Rearranged v') (hkeys : v.DistinctKeys) :
    (Registry.core.compileGroup? v).map (RuleGroup.verdict pr)
      = (Registry.core.compileGroup? v').map (RuleGroup.verdict pr) := by
  cases h with
  | same => rfl
  | array => rfl
  | @object entries entries' h =>
      have hperm : (entries.filterMap fun e => verdictOf pr (Registry.core.create e.1 e.2)).Perm
          (entries'.filterMap fun e => verdictOf pr (Registry.core.create e.1 e.2)) := by
        refine filterMap_perm_of_rel h fun e he e' hentry => ?_
        have he := hkeys.entry e he
        obtain ⟨hvalue⟩ := hentry
        exact verdictOf_create pr hvalue he
      rw [← map_verdict_filterMap, ← map_verdict_filterMap] at hperm
      rw [Registry.compileGroup?_object, Registry.compileGroup?_object]
      generalize entries.filterMap (fun e => (Registry.core.create e.1 e.2).toOption) = cs at hperm
      generalize entries'.filterMap (fun e => (Registry.core.create e.1 e.2).toOption) = cs' at hperm
      -- only the number of the conditions and their verdicts are left to compare
      rw [apply_ite (Option.map _), apply_ite (Option.map _), verdict_ofList?, verdict_ofList?,
        length_eq_of_verdicts_perm hperm, Verdict.ofAll_of_perm hperm]

/-- The groups of a label and their rearrangements have the same verdicts in the same order. -/
theorem labelVerdicts_rearranged {v v' : Value} (h : v.GroupsRearranged v')
    (hkeys : v.DistinctKeys) :
    (Registry.core.compileGroups v).map (RuleGroup.verdict pr)
      = (Registry.core.compileGroups v').map (RuleGroup.verdict pr) := by
  cases h with
  | same => rfl
  | @array items items' h =>
      show (items.filterMap Registry.core.compileGroup?).map _
        = (items'.filterMap Registry.core.compileGroup?).map _
      have hmap : items.map (fun w => (Registry.core.compileGroup? w).map (RuleGroup.verdict pr))
          = items'.map fun w => (Registry.core.compileGroup? w).map (RuleGroup.verdict pr) := by
        rw [← List.forall₂_eq_eq_eq, List.forall₂_map_left_iff, List.forall₂_map_right_iff]
        refine ((List.forall₂_and_left _ _).mpr ⟨hkeys.item, h⟩).imp fun w w' hw => ?_
        exact groupVerdict_rearranged pr hw.2 hw.1
      have hgroups := congrArg (List.filterMap id) hmap
      rw [List.filterMap_map, List.filterMap_map] at hgroups
      rw [List.map_filterMap, List.map_filterMap]
      exact hgroups

/-- A label and its rearrangement are both compiled, with the same verdicts, or both left out. -/
theorem compileLabel?_rearranged {e e' : String × Value}
    (h : SameKey Value.GroupsRearranged e e') (hkeys : e.2.DistinctKeys) :
    Option.Rel (fun l l' : LabelRules => l.name = l'.name ∧
        l.groups.map (RuleGroup.verdict pr) = l'.groups.map (RuleGroup.verdict pr))
      (Registry.core.compileLabel? e) (Registry.core.compileLabel? e') := by
  obtain @⟨key, v, v', hvalue⟩ := h
  have hverdicts := labelVerdicts_rearranged pr hvalue hkeys
  by_cases hnil : Registry.core.compileGroups v = []
  case pos =>
    rw [hnil] at hverdicts
    have hnil' : Registry.core.compileGroups v' = [] := List.map_eq_nil_iff.mp hverdicts.symm
    rw [Registry.compileLabel?_of_nil hnil, Registry.compileLabel?_of_nil hnil']
    exact .none
  case neg =>
    have hne' : Registry.core.compileGroups v' ≠ [] := by
      intro hnil'
      rw [hnil'] at hverdicts
      exact hnil (List.map_eq_nil_iff.mp hverdicts)
    rw [Registry.compileLabel?_of_ne_nil hnil, Registry.compileLabel?_of_ne_nil hne']
    exact .some ⟨rfl, hverdicts⟩

end VerdictOf

/-- **In which order the parts of a rule group are written changes at most the order in which files are
reported.** -/
theorem classify_rearranged {d d' : RuleDescription} (h : d.Rearranged d')
    (hkeys : (Value.object d.labels).DistinctKeys) (pr : PullRequest) :
    List.Forall₂ SameReport ((Registry.core.compile d).classify pr).results
      ((Registry.core.compile d').classify pr).results := by
  refine sameReports_classify ?_
  rw [Registry.labels_compile, Registry.labels_compile]
  have hentries := (List.forall₂_and_left _ _).mpr ⟨hkeys.entry, h⟩
  exact List.rel_filterMap (fun e e' he => compileLabel?_rearranged pr he.2 he.1) hentries

/-- A group in which entries, members, fields and patterns are exchanged.  One of the members is left out
wherever it stands. -/
theorem classify_rearranged_docs :
    let d : RuleDescription := ⟨[("docs", .array [.object [("title", .string "fix")], .object [
      ("title", .ofStrings ["doc", "(a|b)"]),
      ("any", .array [.object [("nobody", .null), ("or", .object [("title", .string "up"),
        ("body", .string "docs")])], .object [("changed-files", .ofStrings ["*.md", "b.*"])]]),
      ("changed-files", .string "*.rs")]])]⟩
    let d' : RuleDescription := ⟨[("docs", .array [.object [("title", .string "fix")], .object [
      ("changed-files", .string "*.rs"),
      ("any", .array [.object [("changed-files", .ofStrings ["b.*", "*.md"])],
        .object [("or", .object [("body", .string "docs"), ("title", .string "up")]),
          ("nobody", .null)]]),
      ("title", .ofStrings ["(a|b)", "doc"])]])]⟩
    let pr : PullRequest := { title := "Update docs", changedFiles := ["a.md", "b.rs"] }
    let report (d : RuleDescription) := ((Registry.core.compile d).classify pr).results
    d.Rearranged d' ∧ (Value.object d.labels).DistinctKeys ∧
      List.Forall₂ SameReport (report d) (report d') ∧
      (report d).map (fun m => (m.label, m.winner.map Winner.index, m.matchedFiles))
        = [("docs", some 1, ["a.md", "b.rs"])] ∧
      (report d').map (fun m => (m.label, m.winner.map Winner.index, m.matchedFiles))
        = [("docs", some 1, ["b.rs", "a.md"])] := by
  intro d d' pr report
  have hpatterns : ∀ a b : String, (Value.ofStrings [a, b]).Rearranged (Value.ofStrings [b, a]) :=
    fun a b => .array (rel_of_perm (.swap _ _ []) (.cons (.same _) (.cons (.same _) .nil)))
  have hfields : (Value.object [("title", .string "up"), ("body", .string "docs")]).Rearranged
      (.object [("body", .string "docs"), ("title", .string "up")]) :=
    .object (rel_of_perm (.swap _ _ []) (.cons (.mk (.same _)) (.cons (.mk (.same _)) .nil)))
  have hmembers : (Value.array [.object [("nobody", .null), ("or", .object [("title", .string "up"),
      ("body", .string "docs")])], .object [("changed-files", .ofStrings ["*.md", "b.*"])]]).Rearranged
      (.array [.object [("changed-files", .ofStrings ["b.*", "*.md"])],
        .object [("or", .object [("body", .string "docs"), ("title", .string "up")]),
          ("nobody", .null)]]) := by
    refine .array (rel_of_perm (.swap _ _ []) (.cons (.object ?_) (.cons (.object ?_) .nil)))
    · exact rel_of_perm (.refl _) (.cons (.mk (hpatterns _ _)) .nil)
    · exact rel_of_perm (.swap _ _ []) (.cons (.mk hfields) (.cons (.mk (.same _)) .nil))
  have hrearranged : d.Rearranged d' := by
    refine .cons (.mk (.array (.cons (.same _) (.cons (.object ?_) .nil)))) .nil
    refine rel_of_perm (List.reverse_perm _).symm ?_
    exact .cons (.mk (.same _)) (.cons (.mk hmembers) (.cons (.mk (hpatterns _ _)) .nil))
  have hkeys : (Value.object d.labels).DistinctKeys := by
    simp [d, Entries.keys, Value.ofStrings]
  exact ⟨hrearranged, hkeys, classify_rearranged hrearranged hkeys pr, by decide +kernel,
    by decide +kernel⟩

end PullTriage
