import Mathlib.Data.List.Perm.Basic
import Mathlib.Data.Set.Basic
import PullTriage.Proofs.FirstMatch

/-!
  PullTriage.Proofs.Verdicts: what a decision rests on.

  The verdict of a condition is whether it holds, together with the set of files that its trace reports.
  The verdict of a composite depends on those of its members alone, and the order of the members does not
  matter to it.  What is reported for a label depends, up to the order of the files, on the verdicts of
  its groups alone:

      gs.map (·.verdict pr) = gs'.map (·.verdict pr')  →
        SameReport (evaluate label gs pr) (evaluate label gs' pr')

  So rules and pull requests may be exchanged for others wherever the verdicts stay the same.
-/

namespace PullTriage

/-! ## §1. Verdicts. -/

/-- Whether something holds, and the files that are reported for it. -/
@[ext]
structure Verdict where
  holds : Bool
  files : Set String

namespace Verdict

/-- The verdict of a conjunction. -/
def ofAll (vs : List Verdict) : Verdict where
  holds := vs.all holds
  files := {path | ∃ v ∈ vs, path ∈ v.files}

/-- The verdict of a disjunction. -/
def ofAny (vs : List Verdict) : Verdict where
  holds := vs.any holds
  files := {path | ∃ v ∈ vs, path ∈ v.files}

/-- The files of several verdicts do not depend on their order. -/
theorem files_of_perm {vs vs' : List Verdict} (h : vs.Perm vs') :
    {path | ∃ v ∈ vs, path ∈ v.files} = {path | ∃ v ∈ vs', path ∈ v.files} := by
  ext path
  exact exists_congr fun v => and_congr_left fun _ => h.mem_iff

/-- A conjunction does not depend on the order of its members. -/
theorem ofAll_of_perm {vs vs' : List Verdict} (h : vs.Perm vs') : ofAll vs = ofAll vs' :=
  Verdict.ext h.all_eq (files_of_perm h)

/-- Nor does a disjunction. -/
theorem ofAny_of_perm {vs vs' : List Verdict} (h : vs.Perm vs') : ofAny vs = ofAny vs' :=
  Verdict.ext h.any_eq (files_of_perm h)

/-- A conjunction of one is as good as what it is made of. -/
theorem ofAll_singleton (v : Verdict) : ofAll [v] = v := by
  refine Verdict.ext (Bool.and_true v.holds) ?_
  simp [ofAll]

/-- A disjunction of one is as good as what it is made of. -/
theorem ofAny_singleton (v : Verdict) : ofAny [v] = v := by
  refine Verdict.ext (Bool.or_false v.holds) ?_
  simp [ofAny]

end Verdict

/-! ## §2. Conditions and groups. -/

/-- The verdict of a condition on a pull request. -/
def Condition.verdict (pr : PullRequest) (c : Condition) : Verdict where
  holds := c.holds pr
  files := {path | path ∈ (c.trace pr).reportedFiles}

/-- The verdict of a group on a pull request. -/
def RuleGroup.verdict (pr : PullRequest) (g : RuleGroup) : Verdict where
  holds := g.holds pr
  files := {path | path ∈ (g.trace pr).reportedFiles}

section Conditions

variable (pr : PullRequest)

/-- The files that are reported for several conditions. -/
theorem mem_reportedFilesOf {path : String} (cs : List Condition) :
    path ∈ Trace.reportedFilesOf (Condition.traces pr cs)
      ↔ ∃ c ∈ cs, path ∈ (c.trace pr).reportedFiles := by
  induction cs with
  | nil => simp [Condition.traces, Trace.reportedFilesOf]
  | cons c cs ih =>
      rw [Condition.traces, Trace.reportedFilesOf, List.mem_append, ih, List.exists_mem_cons_iff]

theorem setOf_reportedFilesOf (cs : List Condition) :
    {path | path ∈ Trace.reportedFilesOf (Condition.traces pr cs)}
      = {path | ∃ v ∈ cs.map (Condition.verdict pr), path ∈ v.files} := by
  ext path
  refine (mem_reportedFilesOf pr cs).trans ⟨?_, ?_⟩
  · rintro ⟨c, hc, hpath⟩
    exact ⟨c.verdict pr, List.mem_map_of_mem hc, hpath⟩
  · rintro ⟨v, hv, hpath⟩
    obtain ⟨c, hc, rfl⟩ := List.mem_map.mp hv
    exact ⟨c, hc, hpath⟩

/-- A text field reports no files. -/
theorem Condition.verdict_text (f : TextField) (ps : TextPatterns) :
    (Condition.text f ps).verdict pr = ⟨ps.foundIn (f.read pr), ∅⟩ := by
  refine Verdict.ext rfl (Set.eq_empty_iff_forall_notMem.mpr fun path hpath => ?_)
  exact List.not_mem_nil hpath

/-- Globs report the changed files that they accept. -/
theorem Condition.verdict_files (gs : PathGlobs) :
    (Condition.files gs).verdict pr
      = ⟨pr.changedFiles.any gs.accepts, {path | path ∈ pr.changedFiles ∧ gs.accepts path = true}⟩ := by
  refine Verdict.ext rfl (Set.ext fun path => ?_)
  show path ∈ (pr.changedFiles.filter gs.accepts).eraseDups ↔ _
  rw [List.mem_eraseDups, List.mem_filter]
  rfl

/-- A search in a text field reports no files. -/
theorem reportedFilesOf_traceText (fields : List (TextField × TextPatterns)) :
    Trace.reportedFilesOf (fields.map fun e => Condition.traceText pr e.1 e.2) = [] := by
  induction fields with
  | nil => rfl
  | cons e fields ih => exact ih

/-- An `or` looks at text fields only, so it reports no files. -/
theorem Condition.verdict_or (m : FieldPatterns) :
    (Condition.or m).verdict pr = ⟨m.toList.any fun e => e.2.foundIn (e.1.read pr), ∅⟩ := by
  refine Verdict.ext (holds_or_eq pr m) (Set.eq_empty_iff_forall_notMem.mpr fun path hpath => ?_)
  change path ∈ Trace.reportedFilesOf (m.toList.map fun e => Condition.traceText pr e.1 e.2) at hpath
  rw [reportedFilesOf_traceText] at hpath
  exact List.not_mem_nil hpath

/-- The verdict of an `all` is the conjunction of those of its members. -/
theorem Condition.verdict_all (cs : List Condition) :
    (Condition.all cs).verdict pr = .ofAll (cs.map (Condition.verdict pr)) := by
  refine Verdict.ext ?_ (setOf_reportedFilesOf pr cs)
  show Condition.allHold pr cs = (cs.map (Condition.verdict pr)).all Verdict.holds
  rw [allHold_eq, List.all_map]
  rfl

/-- The verdict of an `any` is the disjunction. -/
theorem Condition.verdict_any (cs : List Condition) :
    (Condition.any cs).verdict pr = .ofAny (cs.map (Condition.verdict pr)) := by
  refine Verdict.ext ?_ (setOf_reportedFilesOf pr cs)
  show Condition.anyHolds pr cs = (cs.map (Condition.verdict pr)).any Verdict.holds
  rw [anyHolds_eq, List.any_map]
  rfl

/-- The verdict of a group is that of the conjunction of its conditions, however few there are. -/
theorem RuleGroup.verdict_eq (g : RuleGroup) :
    g.verdict pr = .ofAll (g.conditions.map (Condition.verdict pr)) := by
  have hcondition : g.verdict pr = g.condition.verdict pr := by
    unfold RuleGroup.verdict Condition.verdict
    rw [g.holds_eq, g.trace_eq]
  rw [hcondition]
  -- one condition is reported as it is, several as a conjunction
  match g with
  | ⟨[], h⟩ => exact absurd rfl h
  | ⟨[c], _⟩ => exact (Verdict.ofAll_singleton (c.verdict pr)).symm
  | ⟨c :: c' :: cs, _⟩ => exact Condition.verdict_all pr (c :: c' :: cs)

end Conditions

/-! ## §3. Results. -/

/-- Two results say the same, up to the order in which files are reported. -/
structure SameReport (m m' : MatchResult) : Prop where
  label : m.label = m'.label
  groupsEvaluated : m.groupsEvaluated = m'.groupsEvaluated
  winner : m.winner.map Winner.index = m'.winner.map Winner.index
  files : m.matchedFiles.Perm m'.matchedFiles

theorem SameReport.matched {m m' : MatchResult} (h : SameReport m m') : m.matched = m'.matched := by
  have hsome := congrArg Option.isSome h.winner
  rwa [Option.isSome_map, Option.isSome_map] at hsome

theorem nodup_eraseDups (l : List String) : l.eraseDups.Nodup := by
  -- what follows the first member is filtered before it goes on, so the induction is on the length
  induction hn : l.length using Nat.strong_induction_on generalizing l with
  | _ n ih =>
      cases l with
      | nil => simp
      | cons a l =>
          have hlt : (l.filter fun b => !b == a).length < n := by
            have hle := List.length_filter_le (fun b => !b == a) l
            rw [List.length_cons] at hn
            omega
          rw [List.eraseDups_cons, List.nodup_cons]
          refine ⟨?_, ih _ hlt _ rfl⟩
          simp [List.mem_eraseDups]

/-- Each file is listed once, so the set of files decides the list up to its order. -/
theorem Trace.matchedFiles_perm {t t' : Trace}
    (h : ∀ path, path ∈ t.reportedFiles ↔ path ∈ t'.reportedFiles) :
    t.matchedFiles.Perm t'.matchedFiles := by
  refine (List.perm_ext_iff_of_nodup (nodup_eraseDups _) (nodup_eraseDups _)).mpr fun path => ?_
  show path ∈ t.reportedFiles.eraseDups ↔ path ∈ t'.reportedFiles.eraseDups
  rw [List.mem_eraseDups, List.mem_eraseDups, h]

section Reports

variable {pr pr' : PullRequest}

/-- **Groups with the same verdicts are reported alike.** -/
theorem sameReport_evaluateFrom (label : String) {gs : List RuleGroup} :
    ∀ {gs' : List RuleGroup} (index : Nat),
      gs.map (RuleGroup.verdict pr) = gs'.map (RuleGroup.verdict pr') →
        SameReport (evaluateFrom label pr index gs) (evaluateFrom label pr' index gs') := by
  induction gs with
  | nil =>
      intro gs' index h
      obtain rfl : gs' = [] := by simpa using h.symm
      exact ⟨rfl, rfl, rfl, .refl _⟩
  | cons g gs ih =>
      intro gs' index h
      cases gs' with
      | nil => cases h
      | cons g' gs' =>
          obtain ⟨hverdict, hrest⟩ := List.cons.inj h
          have hholds : g.holds pr = g'.holds pr' := congrArg Verdict.holds hverdict
          cases hg : g.holds pr with
          | true =>
              -- both are won by the group here, and its verdict has the files that are reported
              rw [evaluateFrom_cons_of_holds label pr hg,
                evaluateFrom_cons_of_holds label pr' (hholds.symm.trans hg)]
              have hfiles := congrArg Verdict.files hverdict
              exact ⟨rfl, rfl, rfl, Trace.matchedFiles_perm fun path => Set.ext_iff.mp hfiles path⟩
          | false =>
              rw [evaluateFrom_cons_of_not label pr hg,
                evaluateFrom_cons_of_not label pr' (hholds.symm.trans hg)]
              exact ih (index + 1) hrest

/-- Labels whose groups have the same verdicts get the same results. -/
theorem sameReports_classify {s s' : RuleSet}
    (h : List.Forall₂ (fun l l' => l.name = l'.name ∧
      l.groups.map (RuleGroup.verdict pr) = l'.groups.map (RuleGroup.verdict pr')) s.labels s'.labels) :
    List.Forall₂ SameReport (s.classify pr).results (s'.classify pr').results := by
  obtain ⟨labels⟩ := s
  obtain ⟨labels'⟩ := s'
  have hall : List.Forall₂ SameReport (labels.map (·.evaluate pr)) (labels'.map (·.evaluate pr')) := by
    rw [List.forall₂_map_left_iff, List.forall₂_map_right_iff]
    refine h.imp fun l l' ⟨hname, hverdicts⟩ => ?_
    unfold LabelRules.evaluate
    rw [hname]
    exact sameReport_evaluateFrom l'.name 0 hverdicts
  refine List.rel_filter (fun m m' hm => ?_) hall
  show m.matched = true ↔ m'.matched = true
  rw [hm.matched]

end Reports
end PullTriage
