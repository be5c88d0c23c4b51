import PullTriage.CommandLine
import PullTriage.Proofs.DistinctKeys
import PullTriage.Proofs.IndependentLabels

/-!
  PullTriage.Proofs.ClassificationReport: what is printed for a classification is one story.

  The labels that a pull request gets are printed as a list, and again as the keys of a map with the
  result of each.  A map keeps one value for a key, so a label that was reported twice would stand in the
  list twice and lose one of its results in the map.  As the labels of a document are distinct, this never
  happens:

      keys of `debug_info`   =   `labels`   ⊆   keys of the document            (all in one order)
-/

namespace PullTriage

open Json

/-! ## §1. Results as they are written. -/

/-- What is written for a label of which a group won.  No group was tried after it. -/
def wonValue (label : String) (w : Winner) : Value := .object [
  ("label", .string label),
  ("matched", .bool true),
  ("matched_files", .ofStrings w.trace.matchedFiles),
  ("debug_info", .object [
    ("groups_evaluated", .ofNat (w.index + 1)),
    ("winning_group", .ofNat w.index),
    ("trace", w.trace.toValue)])]

/-- A label that is matched is written with the group that won, and that was the last one tried. -/
theorem toValue_evaluate_of_matched {label : String} {groups : List RuleGroup} {pr : PullRequest}
    (h : (evaluate label groups pr).matched = true) :
    ∃ w, (evaluate label groups pr).toValue = wonValue label w := by
  obtain ⟨before, g, after, rfl, hg, hbefore⟩ :=
    exists_split pr ((matched_evaluate_iff label pr groups).mp h)
  rw [evaluate_of_split label pr hbefore hg]
  exact ⟨⟨before.length, g.trace pr⟩, rfl⟩

/-- The results of a classification with the labels that they are for. -/
def Classification.written (c : Classification) : List (String × Value) :=
  c.results.map fun m => (m.label, m.toValue)

theorem Classification.keys_written (c : Classification) : Entries.keys c.written = c.labels := by
  unfold Entries.keys written labels
  rw [List.map_map]
  rfl

/-- What is written for a label comes from its own rules, and nothing is left out. -/
theorem RuleSet.mem_written_classify {s : RuleSet} {pr : PullRequest} {label : String} {v : Value} :
    (label, v) ∈ (s.classify pr).written ↔ ∃ l ∈ s.labels, l.name = label ∧
      (l.evaluate pr).matched = true ∧ v = (l.evaluate pr).toValue := by
  unfold Classification.written classify
  simp only [List.mem_map, List.mem_filter, Prod.mk.injEq]
  constructor
  · rintro ⟨m, ⟨⟨l, hl, rfl⟩, hmatched⟩, rfl, rfl⟩
    exact ⟨l, hl, (label_evaluate l.name pr l.groups).symm, hmatched, rfl⟩
  · rintro ⟨l, hl, rfl, hmatched, rfl⟩
    exact ⟨l.evaluate pr, ⟨⟨l, hl, rfl⟩, hmatched⟩, label_evaluate l.name pr l.groups, rfl⟩

/-! ## §2. The whole. -/

/-- **The printed labels are distinct and in the order of the document, the map has them in the same order,
and under each of them is the result of that label: matched, by the last group that was tried.** -/
theorem classificationValue_consistent (r : Registry) {d : RuleDescription}
    (hkeys : (Entries.keys d.labels).Nodup) (pr : PullRequest) (files : List FileRecord) :
    let output := classificationValue ((r.compile d).classify pr) files
    ∃ (labels : List String) (debug : Entries Value),
      output.get? "labels" = some (.ofStrings labels) ∧
      output.get? "debug_info" = some (.object debug) ∧
      labels.Nodup ∧ labels.Sublist (Entries.keys d.labels) ∧ Entries.keys debug = labels ∧
      (∀ label v, (label, v) ∈ debug ↔ ∃ l ∈ (r.compile d).labels, l.name = label ∧
        (l.evaluate pr).matched = true ∧ v = (l.evaluate pr).toValue) ∧
      ∀ label v, (label, v) ∈ debug → ∃ w, v = wonValue label w := by
  intro output
  have hsublist := r.sublist_labels_classify d pr
  have hnodup : ((r.compile d).classify pr).labels.Nodup := hkeys.sublist hsublist
  -- with distinct labels nothing is overwritten in the map
  have hself : Entries.ofList ((r.compile d).classify pr).written
      = ((r.compile d).classify pr).written := by
    apply Entries.ofList_eq_self
    rw [Classification.keys_written]
    exact hnodup
  refine ⟨_, _, rfl, congrArg (fun es => some (Value.object es)) hself, hnodup, hsublist,
    Classification.keys_written _, fun label v => RuleSet.mem_written_classify, ?_⟩
  intro label v hv
  obtain ⟨l, -, rfl, hmatched, rfl⟩ := RuleSet.mem_written_classify.mp hv
  exact toValue_evaluate_of_matched hmatched

/-- One label is left out, one is not matched, and of `docs` the second group wins. -/
theorem classificationValue_consistent_docs :
    let d : RuleDescription := ⟨[("bug", .null), ("docs", .array [
      .object [("title", .string "^wip")], .object [("changed-files", .string "*.md")]]),
      ("wip", .array [.object [("title", .string "^wip")]]),
      ("all", .array [.object [("body", .string "")]])]⟩
    let c := (Registry.core.compile d).classify { title := "Docs", changedFiles := ["a.md", "b.rs"] }
    let output := classificationValue c [⟨"a.md", "added", 1, 0⟩]
    (Entries.keys d.labels).Nodup ∧
      (∃ (labels : List String) (debug : Entries Value),
        output.get? "labels" = some (.ofStrings labels) ∧
        output.get? "debug_info" = some (.object debug) ∧ labels.Nodup ∧
        labels.Sublist (Entries.keys d.labels) ∧ Entries.keys debug = labels ∧
        ∀ label v, (label, v) ∈ debug → ∃ w, v = wonValue label w) ∧
      c.labels = ["docs", "all"] ∧ c.results.map MatchResult.groupsEvaluated = [2, 1] ∧
      c.results.map MatchResult.matchedFiles = [["a.md"], []] := by
  intro d c output
  have hkeys : (Entries.keys d.labels).Nodup := by decide
  obtain ⟨labels, debug, hlabels, hdebug, hnodup, hsublist, hkeysDebug, -, hwon⟩ :=
    classificationValue_consistent Registry.core hkeys _ [⟨"a.md", "added", 1, 0⟩]
  exact ⟨hkeys, ⟨labels, debug, hlabels, hdebug, hnodup, hsublist, hkeysDebug, hwon⟩,
    by decide +kernel, by decide +kernel, by decide +kernel⟩

end PullTriage
