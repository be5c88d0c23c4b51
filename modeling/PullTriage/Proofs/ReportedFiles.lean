import PullTriage.Builder.Core
import PullTriage.Proofs.Verdicts
import PullTriage.Rules.Compiler

/-!
  PullTriage.Proofs.ReportedFiles: which files are reported, and in which order.

  The files of a result are read off the trace of the group that won, in which every file match has
  already left out repetitions of its own.  All the same the list is what a reader of the rules expects:
  go through the globs of the group from left to right, whatever composite they stand in, list for each
  of them the changed files that it accepts, and keep the first occurrence of every path.

      firstOccurrences (g.trace pr).reportedFiles
        = firstOccurrences (g.globs.flatMap fun gs => pr.changedFiles.filter gs.accepts)

  Leaving out repetitions on the way changes nothing, because `firstOccurrences` absorbs itself.
-/

namespace PullTriage

/-! ## §1. First occurrences. -/

/-- The first occurrence of every path of a list. -/
def firstOccurrences : List String → List String
  | [] => []
  | path :: rest => path :: (firstOccurrences rest).filter (· ≠ path)

/-- First occurrences of what is kept are what is kept of the first occurrences. -/
theorem firstOccurrences_filter (keep : String → Bool) (l : List String) :
    firstOccurrences (l.filter keep) = (firstOccurrences l).filter keep := by
  induction l with
  | nil => rfl
  | cons path l ih =>
      cases hkeep : keep path with
      | true =>
          rw [List.filter_cons_of_pos hkeep, firstOccurrences, firstOccurrences,
            List.filter_cons_of_pos hkeep, ih, List.filter_comm]
      | false =>
          have hnot : ¬keep path = true := by simp [hkeep]
          rw [List.filter_cons_of_neg hnot, firstOccurrences, List.filter_cons_of_neg hnot, ih,
            List.filter_filter]
          -- what is kept is never the path that is dropped
          refine List.filter_congr fun other _ => ?_
          by_cases heq : other = path
          · simp [heq, hkeep]
          · simp [heq]

/-- Erasing duplicates leaves the first occurrences. -/
theorem eraseDups_eq_firstOccurrences (l : List String) : l.eraseDups = firstOccurrences l := by
  induction hlength : l.length using Nat.strong_induction_on generalizing l with
  | _ n ih =>
      cases l with
      | nil => rfl
      | cons path l =>
          have hlt : (l.filter fun other => !other == path).length < n := by
            have hle := List.length_filter_le (fun other => !other == path) l
            rw [List.length_cons] at hlength
            omega
          rw [List.eraseDups_cons, ih _ hlt _ rfl, firstOccurrences_filter, firstOccurrences]
          congr 2
          funext other
          rw [Bool.eq_iff_iff]
          simp

theorem mem_firstOccurrences {path : String} {l : List String} :
    path ∈ firstOccurrences l ↔ path ∈ l := by
  rw [← eraseDups_eq_firstOccurrences, List.mem_eraseDups]

/-- First occurrences are distinct. -/
theorem nodup_firstOccurrences (l : List String) : (firstOccurrences l).Nodup := by
  rw [← eraseDups_eq_firstOccurrences]
  exact nodup_eraseDups l

/-- Repetitions may be left out of the front beforehand. -/
theorem firstOccurrences_front (l rest : List String) :
    firstOccurrences (firstOccurrences l ++ rest) = firstOccurrences (l ++ rest) := by
  induction l with
  | nil => rfl
  | cons path l ih =>
      rw [firstOccurrences, List.cons_append, List.cons_append, firstOccurrences, firstOccurrences, ← ih]
      -- both sides drop `path` behind the front, so it does not matter whether the front has it
      have hdrop : ((firstOccurrences l).filter (· ≠ path) ++ rest).filter (· ≠ path)
          = (firstOccurrences l ++ rest).filter (· ≠ path) := by
        rw [List.filter_append, List.filter_append, List.filter_filter]
        simp only [Bool.and_self]
      rw [← firstOccurrences_filter _ (_ ++ rest), hdrop, firstOccurrences_filter]

theorem firstOccurrences_self (l : List String) :
    firstOccurrences (firstOccurrences l) = firstOccurrences l := by
  have hfront := firstOccurrences_front l []
  rwa [List.append_nil, List.append_nil] at hfront

/-- Lists with the same first occurrences may be exchanged for each other in front and behind. -/
theorem firstOccurrences_append_congr {l l' rest rest' : List String}
    (h : firstOccurrences l = firstOccurrences l')
    (hrest : firstOccurrences rest = firstOccurrences rest') :
    firstOccurrences (l ++ rest) = firstOccurrences (l' ++ rest') := by
  have hbehind : ∀ front : List String,
      firstOccurrences (front ++ rest) = firstOccurrences (front ++ rest') := by
    intro front
    induction front with
    | nil => exact hrest
    | cons path front ih => rw [List.cons_append, List.cons_append, firstOccurrences, firstOccurrences, ih]
  calc firstOccurrences (l ++ rest)
      = firstOccurrences (firstOccurrences l ++ rest) := (firstOccurrences_front l rest).symm
    _ = firstOccurrences (l' ++ rest) := by rw [h, firstOccurrences_front]
    _ = firstOccurrences (l' ++ rest') := hbehind l'

/-! ## §2. The globs of a condition. -/

mutual

/-- The globs over changed files in a condition, depth first and as they are declared. -/
def Condition.globs : Condition → List PathGlobs
  | .files gs => [gs]
  | .all children => globsOf children
  | .any children => globsOf children
  | .text _ _ => []
  | .or _ => []
  | .custom _ => []

/-- The globs over changed files in several conditions. -/
def Condition.globsOf : List Condition → List PathGlobs
  | [] => []
  | c :: rest => Condition.globs c ++ globsOf rest

end

/-- The globs over changed files in a group. -/
def RuleGroup.globs (g : RuleGroup) : List PathGlobs := Condition.globsOf g.conditions

/-- For each list of globs in turn, the changed files that it accepts. -/
def PullRequest.filesOf (pr : PullRequest) (globs : List PathGlobs) : List String :=
  globs.flatMap fun gs => pr.changedFiles.filter gs.accepts

section Reported

variable (pr : PullRequest)

mutual

/-- **A condition reports the files of its globs.** -/
theorem Condition.firstOccurrences_reportedFiles : ∀ c : Condition,
    firstOccurrences (c.trace pr).reportedFiles = firstOccurrences (pr.filesOf c.globs)
  | .text _ _ => rfl
  | .custom _ => rfl
  | .or m => by
      show firstOccurrences
        (Trace.reportedFilesOf (m.toList.map fun e => traceText pr e.1 e.2)) = _
      rw [reportedFilesOf_traceText]
      rfl
  | .files gs => by
      -- the file match has left out repetitions already
      have hfiles : pr.filesOf (Condition.files gs).globs = pr.changedFiles.filter gs.accepts :=
        List.append_nil _
      show firstOccurrences (pr.changedFiles.filter gs.accepts).eraseDups = _
      rw [hfiles, eraseDups_eq_firstOccurrences, firstOccurrences_self]
  | .all children => Condition.firstOccurrences_reportedFilesOf children
  | .any children => Condition.firstOccurrences_reportedFilesOf children

/-- The same for conditions in a row. -/
theorem Condition.firstOccurrences_reportedFilesOf : ∀ cs : List Condition,
    firstOccurrences (Trace.reportedFilesOf (traces pr cs)) = firstOccurrences (pr.filesOf (globsOf cs))
  | [] => rfl
  | c :: rest => by
      have happend : pr.filesOf (globsOf (c :: rest)) = pr.filesOf c.globs ++ pr.filesOf (globsOf rest) :=
        List.flatMap_append
      rw [traces, Trace.reportedFilesOf, happend]
      exact firstOccurrences_append_congr (Condition.firstOccurrences_reportedFiles c)
        (Condition.firstOccurrences_reportedFilesOf rest)

end

/-- The files of a group's trace. -/
theorem RuleGroup.matchedFiles_trace (g : RuleGroup) :
    (g.trace pr).matchedFiles = firstOccurrences (pr.filesOf g.globs) := by
  have hcondition : g.condition.globs = g.globs := by
    match g with
    | ⟨[], h⟩ => exact absurd rfl h
    | ⟨[c], _⟩ => exact (List.append_nil c.globs).symm
    | ⟨_ :: _ :: _, _⟩ => rfl
  rw [Trace.matchedFiles, eraseDups_eq_firstOccurrences, g.trace_eq pr,
    Condition.firstOccurrences_reportedFiles, hcondition]

end Reported

/-! ## §3. Results. -/

/-- **A result reports the changed files that the globs of the winning group accept, each once, in the
order of the globs.** -/
theorem matchedFiles_of_matched (label : String) (groups : List RuleGroup) (pr : PullRequest)
    (h : (evaluate label groups pr).matched = true) :
    ∃ i g, FirstHolding pr groups i g ∧
      (evaluate label groups pr).winner.map Winner.index = some i ∧
      (evaluate label groups pr).matchedFiles
        = firstOccurrences (g.globs.flatMap fun gs => pr.changedFiles.filter gs.accepts) ∧
      (evaluate label groups pr).matchedFiles.Nodup ∧
      (∀ path ∈ (evaluate label groups pr).matchedFiles, path ∈ pr.changedFiles) ∧
      ∀ gs ∈ g.globs, ∀ path ∈ pr.changedFiles, gs.accepts path = true →
        path ∈ (evaluate label groups pr).matchedFiles := by
  obtain ⟨before, g, after, rfl, hg, hbefore⟩ :=
    exists_split pr ((matched_evaluate_iff label pr groups).mp h)
  -- the groups before the first one that holds leave nothing behind but their number
  have hevaluate := evaluate_of_split label pr hbefore hg after
  have hfiles : (evaluate label (before ++ g :: after) pr).matchedFiles
      = firstOccurrences (pr.filesOf g.globs) := by
    rw [hevaluate]
    exact g.matchedFiles_trace pr
  refine ⟨before.length, g, ⟨by simp, hg, ?_⟩, by rw [hevaluate]; rfl, hfiles, ?_, ?_, ?_⟩
  · intro j hj b hget
    rw [List.getElem?_append_left hj] at hget
    exact hbefore b (List.mem_of_getElem? hget)
  · rw [hfiles]
    exact nodup_firstOccurrences _
  · intro path hpath
    rw [hfiles, mem_firstOccurrences] at hpath
    obtain ⟨gs, -, hpath⟩ := List.mem_flatMap.mp hpath
    exact (List.mem_filter.mp hpath).1
  · intro gs hgs path hpath haccepts
    rw [hfiles, mem_firstOccurrences]
    exact List.mem_flatMap.mpr ⟨gs, hgs, List.mem_filter.mpr ⟨hpath, haccepts⟩⟩

/-- The second of two groups wins.  Of its two file matches one stands in an `any` that the title has
decided already, and the other one finds a file that was listed before. -/
theorem matchedFiles_of_matched_docs :
    let groups := Registry.core.compileGroups (.array [
      .object [("title", .string "release")],
      .object [("any", .array [.object [("title", .string "docs")],
        .object [("changed-files", .ofStrings ["*.rs", "*.md"])]]), ("changed-files", .string "a*")]])
    let pr : PullRequest := { title := "Docs", changedFiles := ["b.md", "a.rs", "b.md", "c.txt"] }
    (evaluate "docs" groups pr).matched = true ∧
      (∃ i g, FirstHolding pr groups i g ∧
        (evaluate "docs" groups pr).winner.map Winner.index = some i ∧
        (evaluate "docs" groups pr).matchedFiles
          = firstOccurrences (g.globs.flatMap fun gs => pr.changedFiles.filter gs.accepts) ∧
        (evaluate "docs" groups pr).matchedFiles.Nodup ∧
        (∀ path ∈ (evaluate "docs" groups pr).matchedFiles, path ∈ pr.changedFiles) ∧
        ∀ gs ∈ g.globs, ∀ path ∈ pr.changedFiles, gs.accepts path = true →
          path ∈ (evaluate "docs" groups pr).matchedFiles) ∧
      (evaluate "docs" groups pr).winner.map Winner.index = some 1 ∧
      (evaluate "docs" groups pr).matchedFiles = ["b.md", "a.rs"] := by
  intro groups pr
  have hmatched : (evaluate "docs" groups pr).matched = true := by decide +kernel
  exact ⟨hmatched, matchedFiles_of_matched "docs" groups pr hmatched, by decide +kernel,
    by decide +kernel⟩

end PullTriage
