import Mathlib.Data.List.Perm.Subperm
import PullTriage.Proofs.LargeGlobSets
import PullTriage.Proofs.WrittenConditions

/-!
  PullTriage.Proofs.DocumentMeaning: what a document of rules means by itself.

  Compiling a document and classifying a pull request computes what `Written` reads off the document:

      ((Registry.core.compile ⟨entries⟩).classify pr).labels = Written.labels pr entries

  Level by level, the conditions that are built correspond to the valid entries in their order, so both
  sides ask the same questions.

  Layers:
    * §1: entries;
    * §2: groups and labels.
-/

namespace PullTriage

open Json

section Outcome

variable (pr : PullRequest)

/-! ## §1. Entries. -/

/-- The builder of a kind that is no composite. -/
theorem core_find?_leaf {key : String} (hall : key ≠ "all") (hany : key ≠ "any") :
    Registry.core.find? key = if key = "or" then some Builder.or
      else if key = "changed-files" then some Builder.files
      else (TextField.ofKey? key).map Builder.text := by
  unfold Registry.find? TextField.ofKey?
  rw [core_builders]
  by_cases h₁ : key = "or"
  case pos => subst h₁; rfl
  by_cases h₂ : key = "changed-files"
  case pos => subst h₂; rfl
  by_cases h₃ : key = "head-branch"
  case pos => subst h₃; rfl
  by_cases h₄ : key = "title"
  case pos => subst h₄; rfl
  by_cases h₅ : key = "body"
  case pos => subst h₅; rfl
  simp [h₁, h₂, h₃, h₄, h₅, Ne.symm hall, Ne.symm hany, Ne.symm h₁, Ne.symm h₂, Ne.symm h₃,
    Ne.symm h₄, Ne.symm h₅]

theorem outcome_createWith (scope : ScopeView) (key : String) (v : Value) :
    outcome pr (Registry.core.createWith scope key v)
      = (Registry.core.find? key).bind fun b => b.make pr scope v := by
  unfold Registry.createWith
  cases Registry.core.find? key with
  | none => rfl
  | some b =>
      show outcome pr (if b.accepts v then _ else _) = b.make pr scope v
      unfold Builder.make
      split <;> rfl

/-- An entry that is no composite, wherever it stands. -/
theorem outcome_leaf {key : String} {v : Value} (h : v.DistinctKeys) (hall : key ≠ "all")
    (hany : key ≠ "any") (scope : ScopeView) :
    outcome pr (Registry.core.createWith scope key v)
      = expected (Written.leafValid key v) (Written.leafHolds pr key v) := by
  rw [outcome_createWith, core_find?_leaf hall hany]
  unfold Written.leafValid Written.leafHolds
  split
  case isTrue => exact make_or pr h scope
  case isFalse =>
    split
    case isTrue => exact make_files pr scope v
    case isFalse =>
      cases TextField.ofKey? key with
      | none => rfl
      | some f => exact make_text pr f scope v

/-- Inside a composite another one is never valid. -/
theorem outcome_member {key : String} {v : Value} (h : v.DistinctKeys) :
    outcome pr (Registry.core.createIn 0 key v)
      = expected (Written.leafValid key v) (Written.leafHolds pr key v) := by
  unfold Registry.createIn
  by_cases hall : key = "all"
  case pos =>
    subst hall
    rw [outcome_createWith]
    cases v <;> rfl
  by_cases hany : key = "any"
  case pos =>
    subst hany
    rw [outcome_createWith]
    cases v <;> rfl
  exact outcome_leaf pr h hall hany _

/-- The conditions that are built from entries are those of the valid entries, in their order. -/
theorem map_holds_filterMap {create : String → Value → Except RuleError Condition}
    {valid holds : String → Value → Bool} {entries : List (String × Value)}
    (h : ∀ e ∈ entries, outcome pr (create e.1 e.2) = expected (valid e.1 e.2) (holds e.1 e.2)) :
    (entries.filterMap fun e => (create e.1 e.2).toOption).map (Condition.holds pr)
      = (entries.filter fun e => valid e.1 e.2).map fun e => holds e.1 e.2 := by
  induction entries with
  | nil => rfl
  | cons e entries ih =>
      obtain ⟨he, hentries⟩ := List.forall_mem_cons.mp h
      rw [List.filterMap_cons, List.filter_cons]
      unfold outcome expected at he
      cases hr : (create e.1 e.2).toOption with
      | none =>
          rw [hr] at he
          have hvalid : valid e.1 e.2 = false := by
            cases hv : valid e.1 e.2 with
            | false => rfl
            | true =>
                rw [hv] at he
                cases he
          rw [hvalid]
          exact ih hentries
      | some c =>
          rw [hr] at he
          obtain ⟨hvalid, hholds⟩ := Option.ite_none_right_eq_some.mp he.symm
          rw [hvalid, if_pos rfl, List.map_cons, List.map_cons, ih hentries, Option.some.inj hholds]

/-! ### Composites. -/

theorem distinctKeys_flatten {items : List Value} (h : ∀ v ∈ items, v.DistinctKeys) :
    ∀ e ∈ (items.filterMap Value.object?).flatten, e.2.DistinctKeys := by
  intro e he
  obtain ⟨entries, hentries, he⟩ := List.mem_flatten.mp he
  obtain ⟨v, hv, hobject⟩ := List.mem_filterMap.mp hentries
  cases v with
  | object entries' =>
      obtain rfl : entries' = entries := Option.some.inj hobject
      exact (h _ hv).entry e he
  | _ => cases hobject

/-- The members that are built are the valid ones, in their order. -/
theorem map_holds_members {items : List Value} (h : ∀ v ∈ items, v.DistinctKeys) :
    (Builder.members (Registry.core.viewIn 0) items).map (Condition.holds pr)
      = (Written.members (.array items)).map fun e => Written.leafHolds pr e.1 e.2 := by
  unfold Builder.members Written.members
  rw [List.flatMap_def, ← List.filterMap_flatten]
  exact map_holds_filterMap pr fun e he => outcome_member pr (distinctKeys_flatten h e he)

/-- Requiring members: what holds of them is what holds of the valid ones. -/
theorem requireMembers_spec {v : Value} (h : v.DistinctKeys) (kind : String) :
    match Builder.requireMembers kind v (.ok (Registry.core.viewIn 0)) with
    | .error _ => (1 ≤ (Written.members v).length && (Written.members v).length ≤ 256) = false
    | .ok cs => (1 ≤ (Written.members v).length && (Written.members v).length ≤ 256) = true ∧
        v.array?.isSome = true ∧
        cs.map (Condition.holds pr)
          = (Written.members v).map fun e => Written.leafHolds pr e.1 e.2 := by
  cases v with
  | array items =>
      have hmap := map_holds_members pr h.item
      have hlength := congrArg List.length hmap
      rw [List.length_map, List.length_map] at hlength
      rw [Builder.requireMembers_array, ← hlength]
      generalize Builder.members (Registry.core.viewIn 0) items = cs at hmap
      -- too many members and none at all are refused alike
      by_cases hmany : cs.length > 256
      case pos =>
        rw [if_pos hmany]
        simp only [Bool.and_eq_false_iff, decide_eq_false_iff_not]
        omega
      case neg =>
        rw [if_neg hmany]
        cases cs with
        | nil => rfl
        | cons c cs =>
            refine ⟨?_, rfl, hmap⟩
            rw [List.length_cons] at hmany ⊢
            simp only [Bool.and_eq_true, decide_eq_true_eq]
            omega
  | _ => rfl

/-- A composite: its members are built in the scope below, and what it makes of them is its own. -/
theorem make_composite (b : Builder) (kind : String) (condition : List Condition → Condition)
    (combine : List Bool → Bool)
    (haccepts : ∀ v, b.accepts v = v.array?.isSome)
    (hbuild : ∀ v scope, b.build v scope = (Builder.requireMembers kind v scope.nested).map condition)
    (hholds : ∀ cs, (condition cs).holds pr = combine (cs.map (Condition.holds pr)))
    {v : Value} (h : v.DistinctKeys) :
    b.make pr (Registry.core.viewInside maxNesting) v
      = expected (1 ≤ (Written.members v).length && (Written.members v).length ≤ 256)
          (combine ((Written.members v).map fun e => Written.leafHolds pr e.1 e.2)) := by
  have hspec := requireMembers_spec pr h kind
  unfold Builder.make
  rw [haccepts, hbuild, Registry.nested_viewInside]
  cases hcs : Builder.requireMembers kind v (.ok (Registry.core.viewIn 0)) with
  | error e =>
      rw [hcs] at hspec
      rw [show (_ && _) = false from hspec]
      exact ite_self none
  | ok cs =>
      rw [hcs] at hspec
      obtain ⟨hvalid, harray, hmap⟩ := hspec
      rw [hvalid, harray, ← hmap, ← hholds]
      rfl

/-- **Building an entry of a group gives a condition if the entry is valid, and that holds if the entry
does.** -/
theorem outcome_create {key : String} {v : Value} (h : v.DistinctKeys) :
    outcome pr (Registry.core.create key v)
      = expected (Written.entryValid key v) (Written.entryHolds pr key v) := by
  unfold Written.entryValid Written.entryHolds
  by_cases hall : key = "all"
  case pos =>
    subst hall
    have hmake := make_composite pr .all "all" .all (·.all id) (fun _ => rfl) (fun _ _ => rfl)
      (fun cs => by rw [List.all_map]; exact allHold_eq pr cs) h
    rw [if_pos (.inl rfl), if_pos rfl]
    rw [List.all_map] at hmake
    exact (outcome_createWith pr _ "all" v).trans hmake
  by_cases hany : key = "any"
  case pos =>
    subst hany
    have hmake := make_composite pr .any "any" .any (·.any id) (fun _ => rfl) (fun _ _ => rfl)
      (fun cs => by rw [List.any_map]; exact anyHolds_eq pr cs) h
    rw [if_pos (.inr rfl), if_neg hall, if_pos rfl]
    rw [List.any_map] at hmake
    exact (outcome_createWith pr _ "any" v).trans hmake
  rw [if_neg (not_or.mpr ⟨hall, hany⟩), if_neg hall, if_neg hany]
  exact outcome_leaf pr h hall hany _

/-! ## §2. Groups and labels. -/

theorem mem_kinds_of_entryValid {key : String} {v : Value} (h : Written.entryValid key v = true) :
    key ∈ ["all", "any", "or", "changed-files", "head-branch", "title", "body"] := by
  unfold Written.entryValid at h
  split at h
  case isTrue hkey => rcases hkey with rfl | rfl <;> decide
  unfold Written.leafValid at h
  split at h
  case isTrue hkey => subst hkey; decide
  split at h
  case isTrue hkey => subst hkey; decide
  case isFalse =>
    obtain ⟨f, hf, -⟩ := (Option.any_eq_true _ _).mp h
    rw [TextField.key_of_ofKey? hf]
    cases f <;> decide

/-- As the keys of a map are distinct, it never has too many valid entries. -/
theorem length_valid_le {entries : List (String × Value)} (h : (Entries.keys entries).Nodup) :
    (entries.filter fun e => Written.entryValid e.1 e.2).length ≤ 7 := by
  have hnodup : ((entries.filter fun e => Written.entryValid e.1 e.2).map Prod.fst).Nodup :=
    h.sublist (List.filter_sublist.map Prod.fst)
  have hsubset : ((entries.filter fun e => Written.entryValid e.1 e.2).map Prod.fst)
      ⊆ ["all", "any", "or", "changed-files", "head-branch", "title", "body"] := by
    intro key hkey
    obtain ⟨e, he, rfl⟩ := List.mem_map.mp hkey
    exact mem_kinds_of_entryValid (List.mem_filter.mp he).2
  -- distinct keys among seven are at most seven
  have hlength := (List.subperm_of_subset hnodup hsubset).length_le
  rwa [List.length_map] at hlength

/-- Conditions make a group that holds if there are any and all of them hold. -/
theorem any_ofList?_holds (conditions : List Condition) :
    ((RuleGroup.ofList? conditions).any fun g => g.holds pr)
      = (!conditions.isEmpty && (conditions.map (Condition.holds pr)).all id) := by
  unfold RuleGroup.ofList?
  by_cases h : conditions = []
  case pos =>
    rw [dif_pos h, h]
    rfl
  case neg =>
    have hsome : conditions.isEmpty = false := by simpa using h
    rw [dif_neg h, hsome, List.all_map]
    exact allHold_eq pr conditions

theorem groupHolds_object (entries : List (String × Value)) :
    Written.groupHolds pr (.object entries)
      = (!(entries.filter fun e => Written.entryValid e.1 e.2).isEmpty &&
        ((entries.filter fun e => Written.entryValid e.1 e.2).map fun e =>
          Written.entryHolds pr e.1 e.2).all id) := by
  have hany : (entries.any fun e => Written.entryValid e.1 e.2)
      = !(entries.filter fun e => Written.entryValid e.1 e.2).isEmpty := by
    rw [Bool.eq_iff_iff]
    simp
  rw [List.all_map, List.all_filter, ← hany]
  rfl

/-- **A group is compiled and holds exactly when what is written holds.** -/
theorem holds_compileGroup {v : Value} (h : v.DistinctKeys) :
    ((Registry.core.compileGroup? v).any fun g => g.holds pr) = Written.groupHolds pr v := by
  cases v with
  | object entries =>
      have hmap := map_holds_filterMap pr fun e he => outcome_create pr (h.entry e he)
      have hlength := congrArg List.length hmap
      rw [List.length_map, List.length_map] at hlength
      rw [Registry.compileGroup?_object, groupHolds_object]
      generalize entries.filterMap (fun e => (Registry.core.create e.1 e.2).toOption) = conditions
        at hmap hlength
      -- with seven kinds of entries the limit is out of reach
      have hfew : ¬conditions.length > 256 := by
        have hseven := length_valid_le h.nodup
        omega
      have hempty : conditions.isEmpty
          = (entries.filter fun e => Written.entryValid e.1 e.2).isEmpty := by
        rw [Bool.eq_iff_iff, List.isEmpty_iff_length_eq_zero, List.isEmpty_iff_length_eq_zero, hlength]
      rw [if_neg hfew, any_ofList?_holds, hempty, hmap]
  | _ => rfl

theorem holds_compileGroups {v : Value} (h : v.DistinctKeys) :
    ((Registry.core.compileGroups v).any fun g => g.holds pr) = Written.labelHolds pr v := by
  cases v with
  | array items =>
      show (items.filterMap Registry.core.compileGroup?).any _ = items.any (Written.groupHolds pr)
      rw [List.any_filterMap, Bool.eq_iff_iff, List.any_eq_true, List.any_eq_true]
      refine exists_congr fun v => and_congr_right fun hv => ?_
      rw [← holds_compileGroup pr (h.item v hv)]
      cases Registry.core.compileGroup? v <;> exact Iff.rfl
  | _ => rfl

end Outcome

theorem matched_evaluate_eq (l : LabelRules) (pr : PullRequest) :
    (l.evaluate pr).matched = l.groups.any fun g => g.holds pr := by
  rw [Bool.eq_iff_iff, List.any_eq_true]
  exact matched_evaluate_iff l.name pr l.groups

/-- The labels that are given are those with a group that holds. -/
theorem labels_classify_eq (entries : List (String × Value)) (pr : PullRequest) :
    ((Registry.core.compile ⟨entries⟩).classify pr).labels
      = (entries.filter fun e => (Registry.core.compileGroups e.2).any fun g => g.holds pr).map
          Prod.fst := by
  unfold Classification.labels RuleSet.classify Registry.compile
  dsimp only
  induction entries with
  | nil => rfl
  | cons e entries ih =>
      rw [List.filterMap_cons, List.filter_cons]
      -- without groups a label is left out of the rules, and is not given either
      cases hgroups : Registry.core.compileGroups e.2 with
      | nil => exact ih
      | cons g groups =>
          dsimp only
          rw [List.map_cons, List.filter_cons, matched_evaluate_eq]
          cases (g :: groups).any fun g => g.holds pr with
          | false => exact ih
          | true =>
              rw [if_pos rfl, if_pos rfl, List.map_cons, List.map_cons, ih]
              congr 1
              exact label_evaluate e.1 pr (g :: groups)

/-- A label whose only group has refused globs and nothing else is not given. -/
theorem labels_of_not_filesValid {v : Value} (hkeys : v.DistinctKeys)
    (hvalid : Written.filesValid v = false) (label : String) (pr : PullRequest) :
    ((Registry.core.compile ⟨[(label, .array [.object [("changed-files", v)]])]⟩).classify pr).labels
      = [] := by
  have hkeys' : (Value.array [.object [("changed-files", v)]]).DistinctKeys := by
    simpa [Entries.keys] using hkeys
  have hentry : Written.entryValid "changed-files" v = false := hvalid
  have hlabel : Written.labelHolds pr (.array [.object [("changed-files", v)]]) = false := by
    show (Written.groupHolds pr (.object [("changed-files", v)]) || false) = false
    rw [groupHolds_object, List.filter_cons, hentry]
    rfl
  rw [labels_classify_eq, List.filter_cons, holds_compileGroups pr hkeys', hlabel]
  rfl

/-- **The labels of a pull request are those that the document means.** -/
theorem labels_classify_compile {entries : List (String × Value)}
    (h : (Value.object entries).DistinctKeys) (pr : PullRequest) :
    ((Registry.core.compile ⟨entries⟩).classify pr).labels = Written.labels pr entries := by
  have hlabels : ∀ e ∈ entries, ((Registry.core.compileGroups e.2).any fun g => g.holds pr)
      = Written.labelHolds pr e.2 := fun e he => holds_compileGroups pr (h.entry e he)
  rw [labels_classify_eq, List.filter_congr hlabels]
  rfl

/-- A label of two groups.  The second has entries, members and fields that are left out; the rest of
it holds. -/
theorem labels_classify_compile_docs :
    (Value.object [("docs", .array [.object [("title", .string "fix")],
        .object [("body", .bool true), ("head-branch", .ofStrings ["main", "docs"]),
          ("or", .object [("title", .string "UPDATE"), ("reviewer", .null)]),
          ("all", .array [.null, .object [("title", .string "doc"), ("any", .array [])]])]])]
      ).DistinctKeys ∧
      ((Registry.core.compile ⟨[("docs", .array [.object [("title", .string "fix")],
        .object [("body", .bool true), ("head-branch", .ofStrings ["main", "docs"]),
          ("or", .object [("title", .string "UPDATE"), ("reviewer", .null)]),
          ("all", .array [.null, .object [("title", .string "doc"), ("any", .array [])]])]])]⟩
        ).classify { branch := "update-docs", title := "Update docs" }).labels = ["docs"] := by
  have hkeys : (Value.object [("docs", .array [.object [("title", .string "fix")],
      .object [("body", .bool true), ("head-branch", .ofStrings ["main", "docs"]),
        ("or", .object [("title", .string "UPDATE"), ("reviewer", .null)]),
        ("all", .array [.null, .object [("title", .string "doc"), ("any", .array [])]])]])]
      ).DistinctKeys := by
    simp [Entries.keys, Value.ofStrings]
  refine ⟨hkeys, ?_⟩
  rw [labels_classify_compile hkeys]
  decide +kernel

/-- A label is not given, although one of its globs matches a changed file and each of them is accepted
alone: together they are too large. -/
theorem labels_of_globs_tooLarge :
    let globs := "a" :: List.replicate 50 (questionMarks 4096)
    let v := Value.ofStrings globs
    let pr : PullRequest := { changedFiles := ["a"] }
    (∀ w ∈ globs, ∃ gs, PathGlobs.ofStrings [w] = .ok gs) ∧ Written.filesHold pr v = true ∧
      ((Registry.core.compile ⟨[("docs", .array [.object [("changed-files", v)]])]⟩).classify pr).labels
        = [] := by
  intro globs v pr
  have hlisted : Builder.patternList? v = some globs := Builder.patternList?_ofStrings globs
  have hword : (PathGlobs.ofStrings ["a"]).isOk = true := by
    rw [PathGlobs.isOk_ofStrings]
    decide +kernel
  have htokens : PathGlob.tokens? "a" = some [.literal 'a'] := by rfl
  -- `a` is compared as a whole, so it is the question marks that fill the automaton
  have hproblem : PathGlobs.combinationProblem? globs = some .tooLarge := by
    rw [PathGlobs.combinationProblem?_cons htokens (by decide +kernel) (by decide +kernel)]
    exact PathGlobs.combinationProblem?_questionMarks (Nat.le_refl 4096) (by decide)
  refine ⟨List.forall_mem_cons.mpr ⟨except_isOk_iff.mp hword, fun w hw => ?_⟩, ?_, ?_⟩
  · rw [List.eq_of_mem_replicate hw]
    exact PathGlobs.exists_ofStrings_questionMarks (Nat.le_refl 4096)
  · have hcovers : (pr.changedFiles.any (PathGlob.covers · "a")) = true := by decide +kernel
    rw [Written.filesHold, (Written.string_of_patternList hlisted _).2, List.any_cons, hcovers]
    rfl
  · refine labels_of_not_filesValid ?_ ?_ "docs" pr
    · simp [v, Value.ofStrings]
    · rw [Written.filesValid, Written.strings_of_patternList hlisted, hproblem]
      exact Bool.and_false _

end PullTriage
