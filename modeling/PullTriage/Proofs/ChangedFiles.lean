import PullTriage.Proofs.BuiltConditions
import PullTriage.Proofs.FirstMatch
import PullTriage.Proofs.Verdicts

/-!
  PullTriage.Proofs.ChangedFiles: changing more files never takes a label away.

  No built-in kind negates a condition or counts files, so every verdict can only grow with the changed
  files:

      pr.Within pr'  →  c.verdict pr ≤ c.verdict pr'

  A group that holds therefore goes on holding, and the first group that holds is no later than it was.
  The order of the changed files and their repetitions do not matter, as then each of the two pull
  requests is within the other.
-/

namespace PullTriage

open Json

/-! ## §1. Verdicts that grow. -/

namespace Verdict

/-- A verdict is below another one if the other holds wherever it does and has its files. -/
instance : PartialOrder Verdict where
  le v v' := (v.holds = true → v'.holds = true) ∧ v.files ⊆ v'.files
  le_refl _ := ⟨id, subset_rfl⟩
  le_trans _ _ _ h h' := ⟨h'.1 ∘ h.1, h.2.trans h'.2⟩
  le_antisymm _ _ h h' := Verdict.ext (Bool.eq_iff_iff.mpr ⟨h.1, h'.1⟩) (h.2.antisymm h'.2)

/-- The files of several verdicts grow with each of them. -/
theorem files_mono {vs vs' : List Verdict} (h : List.Forall₂ (· ≤ ·) vs vs') :
    {path | ∃ v ∈ vs, path ∈ v.files} ⊆ {path | ∃ v ∈ vs', path ∈ v.files} := by
  intro path hpath
  obtain ⟨v, hv, hpath⟩ := hpath
  induction h with
  | nil => cases hv
  | cons hle _ ih =>
      rcases List.mem_cons.mp hv with rfl | hv
      · exact ⟨_, List.mem_cons_self, hle.2 hpath⟩
      · obtain ⟨v', hv', hpath⟩ := ih hv
        exact ⟨v', List.mem_cons_of_mem _ hv', hpath⟩

/-- A conjunction grows with its members. -/
theorem ofAll_mono {vs vs' : List Verdict} (h : List.Forall₂ (· ≤ ·) vs vs') :
    ofAll vs ≤ ofAll vs' := by
  refine ⟨?_, files_mono h⟩
  show vs.all holds = true → vs'.all holds = true
  intro hall
  induction h with
  | nil => rfl
  | cons hle _ ih =>
      rw [List.all_cons, Bool.and_eq_true] at hall ⊢
      exact ⟨hle.1 hall.1, ih hall.2⟩

/-- So does a disjunction. -/
theorem ofAny_mono {vs vs' : List Verdict} (h : List.Forall₂ (· ≤ ·) vs vs') :
    ofAny vs ≤ ofAny vs' := by
  refine ⟨?_, files_mono h⟩
  show vs.any holds = true → vs'.any holds = true
  intro hany
  induction h with
  | nil => cases hany
  | cons hle _ ih =>
      rw [List.any_cons, Bool.or_eq_true] at hany ⊢
      exact hany.imp hle.1 ih

end Verdict

/-! ## §2. Kinds from outside. -/

/-- No node of the condition is of a kind from outside. -/
def Condition.IsBuiltIn (c : Condition) : Prop := ∀ k : CustomCondition, ¬(Condition.custom k).IsNode c

/-- What is made of built-in members is built in. -/
theorem Makes.isBuiltIn {nested : Except RuleError ScopeView} {v : Value} {k : BuiltInKind}
    {c : Condition} (h : Makes nested v k c)
    (hmembers : ∀ scope, nested = .ok scope → ∀ name w m, scope.create name w = .ok m →
      m.IsBuiltIn) : c.IsBuiltIn := by
  have hbuilt : ∀ scope items, nested = .ok scope →
      ∀ m ∈ Builder.members scope items, m.IsBuiltIn := by
    intro scope items hopened m hm
    obtain ⟨-, name, w, -, -, hcreate⟩ := Builder.mem_members.mp hm
    exact hmembers scope hopened name w m hcreate
  intro custom hcustom
  cases h with
  | text | files | or => cases hcustom
  | all opened _ built =>
      subst built
      cases hcustom with
      | all hm hnode => exact hbuilt _ _ opened _ hm custom hnode
  | any opened _ built =>
      subst built
      cases hcustom with
      | any hm hnode => exact hbuilt _ _ opened _ hm custom hnode

namespace Registry.BuiltIn

variable {r : Registry}

/-- With the built-in builders no condition of a kind from outside is built, on any level. -/
theorem isBuiltIn_of_createIn (hr : r.BuiltIn) {levels : Nat} {name : String} {v : Value}
    {c : Condition} (h : r.createIn levels name v = .ok c) : c.IsBuiltIn := by
  induction levels generalizing name v c with
  | zero =>
      obtain ⟨k, -, hmakes⟩ := hr.makes h
      exact hmakes.isBuiltIn fun scope hopened => nomatch hopened
  | succ levels ih =>
      obtain ⟨k, -, hmakes⟩ := hr.makes h
      refine hmakes.isBuiltIn fun scope hopened name w m hcreate => ?_
      obtain rfl := Except.ok.inj hopened
      exact ih hcreate

/-- The conditions of a compiled group are built in. -/
theorem isBuiltIn_of_mem_compileGroups (hr : r.BuiltIn) {rules : Value} {g : RuleGroup}
    (hg : g ∈ r.compileGroups rules) : ∀ c ∈ g.conditions, c.IsBuiltIn := by
  intro c hc
  obtain ⟨-, w, -, -, hgroup⟩ := Registry.mem_compileGroups.mp hg
  obtain ⟨-, name, config, -, -, hcreate⟩ := Registry.exists_entry_of_mem_conditions hgroup hc
  exact hr.isBuiltIn_of_createIn hcreate

end Registry.BuiltIn

/-! ## §3. More changed files. -/

/-- The second pull request has the same texts and at least the changed files. -/
structure PullRequest.Within (pr pr' : PullRequest) : Prop where
  title : pr.title = pr'.title
  body : pr.body = pr'.body
  branch : pr.branch = pr'.branch
  files : ∀ path ∈ pr.changedFiles, path ∈ pr'.changedFiles

section Within

variable {pr pr' : PullRequest}

theorem PullRequest.Within.read (h : pr.Within pr') (f : TextField) : f.read pr = f.read pr' := by
  cases f with
  | branch => exact h.branch
  | title => exact h.title
  | body => exact h.body

/-- More changed files make globs match more. -/
theorem verdict_files_mono (h : pr.Within pr') (gs : PathGlobs) :
    (Condition.files gs).verdict pr ≤ (Condition.files gs).verdict pr' := by
  rw [Condition.verdict_files, Condition.verdict_files]
  constructor
  · show pr.changedFiles.any gs.accepts = true → pr'.changedFiles.any gs.accepts = true
    rw [List.any_eq_true, List.any_eq_true]
    intro hany
    obtain ⟨path, hpath, haccepts⟩ := hany
    exact ⟨path, h.files path hpath, haccepts⟩
  · intro path hpath
    exact ⟨h.files path hpath.1, hpath.2⟩

mutual

/-- **The verdict of a condition grows with the changed files.** -/
theorem verdict_mono (h : pr.Within pr') : ∀ c : Condition, c.IsBuiltIn →
    c.verdict pr ≤ c.verdict pr'
  | .text f ps, _ => by rw [Condition.verdict_text, Condition.verdict_text, h.read]
  | .files gs, _ => verdict_files_mono h gs
  | .or m, _ => by
      rw [Condition.verdict_or, Condition.verdict_or]
      simp only [h.read]
      exact le_refl _
  | .custom k, hc => absurd .root (hc k)
  | .all cs, hc => by
      rw [Condition.verdict_all, Condition.verdict_all]
      exact Verdict.ofAll_mono (verdicts_mono h cs fun c hmem k hk => hc k (.all hmem hk))
  | .any cs, hc => by
      rw [Condition.verdict_any, Condition.verdict_any]
      exact Verdict.ofAny_mono (verdicts_mono h cs fun c hmem k hk => hc k (.any hmem hk))

/-- The same for conditions in a row. -/
theorem verdicts_mono (h : pr.Within pr') : ∀ cs : List Condition, (∀ c ∈ cs, c.IsBuiltIn) →
    List.Forall₂ (· ≤ ·) (cs.map (Condition.verdict pr)) (cs.map (Condition.verdict pr'))
  | [], _ => .nil
  | c :: cs, hcs => by
      obtain ⟨hc, hcs⟩ := List.forall_mem_cons.mp hcs
      exact .cons (verdict_mono h c hc) (verdicts_mono h cs hcs)

end

/-- The verdict of a group grows with the changed files. -/
theorem groupVerdict_mono (h : pr.Within pr') {rules : Json.Value} {g : RuleGroup}
    (hg : g ∈ Registry.core.compileGroups rules) : g.verdict pr ≤ g.verdict pr' := by
  rw [g.verdict_eq, g.verdict_eq]
  exact Verdict.ofAll_mono (verdicts_mono h g.conditions (builtIn_core.isBuiltIn_of_mem_compileGroups hg))

/-! ## §4. The winner. -/

/-- The winner is one of the groups that are left. -/
theorem index_le_of_winner (label : String) {gs : List RuleGroup} {index : Nat} {w : Winner}
    (h : (evaluateFrom label pr index gs).winner = some w) : index ≤ w.index := by
  induction gs generalizing index with
  | nil => cases h
  | cons g gs ih =>
      cases hg : g.holds pr with
      | true =>
          rw [evaluateFrom_cons_of_holds label pr hg] at h
          rw [← Option.some.inj h]
      | false =>
          rw [evaluateFrom_cons_of_not label pr hg] at h
          exact Nat.le_of_succ_le (ih h)

/-- Where groups go on holding, a winner stays or comes earlier. -/
theorem winner_of_holds_mono (label : String) {gs : List RuleGroup} {index : Nat} {w : Winner}
    (hmono : ∀ g ∈ gs, g.holds pr = true → g.holds pr' = true)
    (h : (evaluateFrom label pr index gs).winner = some w) :
    ∃ w', (evaluateFrom label pr' index gs).winner = some w' ∧ w'.index ≤ w.index := by
  induction gs generalizing index with
  | nil => cases h
  | cons g gs ih =>
      obtain ⟨hfirst, hmono⟩ := List.forall_mem_cons.mp hmono
      cases hg : g.holds pr' with
      | true =>
          -- it may not have held before, but then the winner came after it
          rw [evaluateFrom_cons_of_holds label pr' hg]
          exact ⟨_, rfl, index_le_of_winner label h⟩
      | false =>
          have hnot : g.holds pr = false := by
            rw [← Bool.not_eq_true] at hg ⊢
            exact mt hfirst hg
          rw [evaluateFrom_cons_of_not label pr hnot] at h
          rw [evaluateFrom_cons_of_not label pr' hg]
          exact ih hmono h

end Within

/-! ## §5. Labels. -/

/-- **With more changed files every label is still reported, for the same group or an earlier one; and
in which order the changed files are given, and how often, changes at most the order in which they are
reported.** -/
theorem classify_grows (d : RuleDescription) {pr pr' : PullRequest} (h : pr.Within pr') :
    (∀ m ∈ ((Registry.core.compile d).classify pr).results,
      ∃ m' ∈ ((Registry.core.compile d).classify pr').results, m'.label = m.label ∧
        ∃ w w', m.winner = some w ∧ m'.winner = some w' ∧ w'.index ≤ w.index) ∧
    (pr'.Within pr → List.Forall₂ SameReport ((Registry.core.compile d).classify pr).results
      ((Registry.core.compile d).classify pr').results) := by
  have hmono : ∀ {pr pr' : PullRequest}, pr.Within pr' → ∀ l ∈ (Registry.core.compile d).labels,
      ∀ g ∈ l.groups, g.verdict pr ≤ g.verdict pr' := by
    intro pr pr' h l hl g hg
    obtain ⟨rules, -, hgroups, -⟩ := Registry.mem_compile.mp hl
    rw [← hgroups] at hg
    exact groupVerdict_mono h hg
  constructor
  · intro m hm
    obtain ⟨hmem, hmatched⟩ := List.mem_filter.mp hm
    obtain ⟨l, hl, rfl⟩ := List.mem_map.mp hmem
    obtain ⟨w, hw⟩ := Option.isSome_iff_exists.mp hmatched
    obtain ⟨w', hw', hle⟩ := winner_of_holds_mono l.name
      (fun g hg => (hmono h l hl g hg).1) hw
    have hmatched' : (l.evaluate pr').matched = true := by
      show (evaluateFrom l.name pr' 0 l.groups).winner.isSome = true
      rw [hw', Option.isSome_some]
    refine ⟨l.evaluate pr', List.mem_filter.mpr ⟨List.mem_map_of_mem hl, hmatched'⟩, ?_,
      w, w', hw, hw', hle⟩
    exact (label_evaluate l.name pr' l.groups).trans (label_evaluate l.name pr l.groups).symm
  · intro h'
    -- each is within the other, so the verdicts are equal
    refine sameReports_classify (List.forall₂_same.mpr fun l hl => ⟨rfl, ?_⟩)
    exact List.map_congr_left fun g hg => le_antisymm (hmono h l hl g hg) (hmono h' l hl g hg)

/-- A second file lets an earlier group win.  Given in another order and twice, the two files are
reported in another order. -/
theorem classify_grows_docs :
    let d : RuleDescription := ⟨[("docs", .array [
      .object [("title", .string "docs"), ("changed-files", .string "*.md")],
      .object [("any", .array [.object [("body", .string "docs")],
        .object [("changed-files", .ofStrings ["*.rs", "a.*"])]])]]),
      ("all", .array [.object [("changed-files", .string "*")]])]⟩
    let pr (files : List String) : PullRequest := { title := "Update docs", changedFiles := files }
    let report (files : List String) := ((Registry.core.compile d).classify (pr files)).results
    let winners (files : List String) := (report files).map fun m => m.winner.map Winner.index
    (pr ["a.rs"]).Within (pr ["b.md", "a.rs"]) ∧
      (∀ m ∈ report ["a.rs"], ∃ m' ∈ report ["b.md", "a.rs"], m'.label = m.label ∧
        ∃ w w', m.winner = some w ∧ m'.winner = some w' ∧ w'.index ≤ w.index) ∧
      winners ["a.rs"] = [some 1, some 0] ∧ winners ["b.md", "a.rs"] = [some 0, some 0] ∧
      (pr ["b.md", "a.rs"]).Within (pr ["a.rs", "b.md", "a.rs"]) ∧
      (pr ["a.rs", "b.md", "a.rs"]).Within (pr ["b.md", "a.rs"]) ∧
      List.Forall₂ SameReport (report ["b.md", "a.rs"]) (report ["a.rs", "b.md", "a.rs"]) ∧
      (report ["a.rs", "b.md", "a.rs"]).map MatchResult.matchedFiles
        = [["b.md"], ["a.rs", "b.md"]] := by
  intro d pr report winners
  have hmore : (pr ["a.rs"]).Within (pr ["b.md", "a.rs"]) := ⟨rfl, rfl, rfl, by decide⟩
  have hagain : (pr ["b.md", "a.rs"]).Within (pr ["a.rs", "b.md", "a.rs"]) :=
    ⟨rfl, rfl, rfl, by decide⟩
  have hback : (pr ["a.rs", "b.md", "a.rs"]).Within (pr ["b.md", "a.rs"]) :=
    ⟨rfl, rfl, rfl, by decide⟩
  refine ⟨hmore, (classify_grows d hmore).1, by decide +kernel, by decide +kernel, hagain, hback,
    (classify_grows d hagain).2 hback, by decide +kernel⟩

end PullTriage
