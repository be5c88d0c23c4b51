import PullTriage.Proofs.BuiltConditions
import PullTriage.Proofs.FirstMatch
import PullTriage.Proofs.KeyedEntries

/-!
  PullTriage.Proofs.IndependentLabels: what is reported for a label depends on its own entry alone.

  Compiling and classifying goes through the entries of a document one by one, and each of them reports
  by itself or not at all:

      ((r.compile d).classify pr).results = d.labels.filterMap (r.report? pr)

  As the names of the labels are distinct, a label is reported in the same way wherever its entry stands
  and whatever stands beside it.
-/

namespace PullTriage

open Json

/-! ## §1. Looking up a result. -/

theorem Classification.get?_eq_some_iff {c : Classification} (h : c.labels.Nodup) {label : String}
    {m : MatchResult} : c.get? label = some m ↔ m ∈ c.results ∧ m.label = label :=
  find?_key_eq_some_iff h

/-! ## §2. One entry. -/

namespace Registry

/-- What an entry of a document reports by itself. -/
def report? (r : Registry) (pr : PullRequest) (e : String × Value) : Option MatchResult :=
  let result := evaluate e.1 (r.compileGroups e.2) pr
  if result.matched then some result else none

variable {r : Registry} {pr : PullRequest}

/-- An entry reports the label that it is written under. -/
theorem label_of_report? {e : String × Value} {m : MatchResult} (h : r.report? pr e = some m) :
    m.label = e.1 := by
  obtain ⟨-, h⟩ := Option.ite_none_right_eq_some.mp h
  rw [← Option.some.inj h]
  exact label_evaluate e.1 pr _

/-- A label that is left out of the rules would not be reported either. -/
theorem report?_eq (e : String × Value) :
    r.report? pr e = ((r.compileLabel? e).map (·.evaluate pr)).filter MatchResult.matched := by
  by_cases h : r.compileGroups e.2 = []
  case pos =>
    rw [compileLabel?_of_nil h]
    unfold report?
    rw [h]
    rfl
  case neg =>
    rw [compileLabel?_of_ne_nil h]
    rfl

/-- **What is reported for a document is what its entries report, one after the other.** -/
theorem results_classify (r : Registry) (d : RuleDescription) (pr : PullRequest) :
    ((r.compile d).classify pr).results = d.labels.filterMap (r.report? pr) := by
  show (((r.compile d).labels.map (·.evaluate pr)).filter MatchResult.matched) = _
  rw [labels_compile, List.map_filterMap, List.filter_filterMap]
  refine List.filterMap_congr fun e _ => ?_
  exact (report?_eq e).symm

/-- The labels that are reported stand in the order of the document. -/
theorem sublist_labels_classify (r : Registry) (d : RuleDescription) (pr : PullRequest) :
    ((r.compile d).classify pr).labels.Sublist (Entries.keys d.labels) := by
  have hlabels : ((r.compile d).labels.map (·.evaluate pr)).map MatchResult.label
      = (r.compile d).labels.map LabelRules.name := by
    rw [List.map_map]
    exact List.map_congr_left fun l _ => label_evaluate l.name pr l.groups
  have hreported : ((r.compile d).classify pr).labels.Sublist
      ((r.compile d).labels.map LabelRules.name) := by
    rw [← hlabels]
    exact List.filter_sublist.map MatchResult.label
  exact hreported.trans (sublist_names_compile d)

/-- A result is that of the entry under its label. -/
theorem mem_results_iff {d : RuleDescription} (h : (Entries.keys d.labels).Nodup)
    {m : MatchResult} : m ∈ ((r.compile d).classify pr).results ↔
      ∃ v, Entries.get? d.labels m.label = some v ∧ r.report? pr (m.label, v) = some m := by
  rw [results_classify, List.mem_filterMap]
  simp only [Entries.get?_eq_some_iff h]
  constructor
  · rintro ⟨⟨name, v⟩, he, hreport⟩
    obtain rfl : m.label = name := label_of_report? hreport
    exact ⟨v, he, hreport⟩
  · rintro ⟨v, he, hreport⟩
    exact ⟨(m.label, v), he, hreport⟩

end Registry

/-! ## §3. Two documents. -/

/-- **A label with the same groups in two documents is reported for both or for neither, and with the same
result; and if the documents differ by their order alone, so does what is reported.** -/
theorem labels_independent (r : Registry) {d₁ d₂ : RuleDescription}
    (h₁ : (Entries.keys d₁.labels).Nodup) (h₂ : (Entries.keys d₂.labels).Nodup) (pr : PullRequest) :
    (∀ label, Entries.get? d₁.labels label = Entries.get? d₂.labels label →
      (label ∈ ((r.compile d₁).classify pr).labels ↔ label ∈ ((r.compile d₂).classify pr).labels) ∧
      ((r.compile d₁).classify pr).get? label = ((r.compile d₂).classify pr).get? label ∧
      ∀ m : MatchResult, m.label = label →
        (m ∈ ((r.compile d₁).classify pr).results ↔ m ∈ ((r.compile d₂).classify pr).results)) ∧
    (d₁.labels.Perm d₂.labels →
      ((r.compile d₁).classify pr).results.Perm ((r.compile d₂).classify pr).results ∧
      ((r.compile d₁).classify pr).labels.Sublist (Entries.keys d₁.labels) ∧
      ((r.compile d₂).classify pr).labels.Sublist (Entries.keys d₂.labels)) := by
  have hsub₁ := r.sublist_labels_classify d₁ pr
  have hsub₂ := r.sublist_labels_classify d₂ pr
  constructor
  · intro label hlabel
    -- a result carries its label, and what is compiled for a label depends on its value only
    have hresult : ∀ m : MatchResult, m.label = label →
        (m ∈ ((r.compile d₁).classify pr).results ↔ m ∈ ((r.compile d₂).classify pr).results) := by
      rintro m rfl
      rw [Registry.mem_results_iff h₁, Registry.mem_results_iff h₂, hlabel]
    refine ⟨?_, ?_, hresult⟩
    · unfold Classification.labels
      simp only [List.mem_map]
      exact exists_congr fun m => and_congr_left (hresult m)
    · refine Option.ext fun m => ?_
      rw [Classification.get?_eq_some_iff (h₁.sublist hsub₁),
        Classification.get?_eq_some_iff (h₂.sublist hsub₂)]
      exact and_congr_left (hresult m)
  · intro hperm
    refine ⟨?_, hsub₁, hsub₂⟩
    rw [r.results_classify, r.results_classify]
    exact hperm.filterMap _

/-- The label `docs` beside one that matches, beside two that are left out, and before the one that
matches. -/
theorem labels_independent_docs :
    let docs : Value := .array [.object [("title", .string "doc")]]
    let wip : Value := .array [.object [("title", .string "^wip")]]
    let d₁ : RuleDescription := ⟨[("wip", wip), ("docs", docs)]⟩
    let d₂ : RuleDescription := ⟨[("bug", .null), ("docs", docs), ("wip", .array [])]⟩
    let d₃ : RuleDescription := ⟨[("docs", docs), ("wip", wip)]⟩
    let report (d : RuleDescription) := (Registry.core.compile d).classify { title := "WIP: docs" }
    (Entries.keys d₁.labels).Nodup ∧ (Entries.keys d₂.labels).Nodup ∧
      (Entries.keys d₃.labels).Nodup ∧
      Entries.get? d₁.labels "docs" = Entries.get? d₂.labels "docs" ∧
      (report d₁).get? "docs" = (report d₂).get? "docs" ∧ (report d₂).labels = ["docs"] ∧
      d₁.labels.Perm d₃.labels ∧ (report d₁).results.Perm (report d₃).results ∧
      (report d₁).labels = ["wip", "docs"] ∧ (report d₃).labels = ["docs", "wip"] := by
  intro docs wip d₁ d₂ d₃ report
  have h₁ : (Entries.keys d₁.labels).Nodup := by decide
  have h₂ : (Entries.keys d₂.labels).Nodup := by decide
  have h₃ : (Entries.keys d₃.labels).Nodup := by decide
  have hdocs : Entries.get? d₁.labels "docs" = Entries.get? d₂.labels "docs" := by rfl
  have hperm : d₁.labels.Perm d₃.labels := .swap _ _ []
  refine ⟨h₁, h₂, h₃, hdocs, ?_, by decide +kernel, hperm, ?_, by decide +kernel,
    by decide +kernel⟩
  · exact ((labels_independent Registry.core h₁ h₂ _).1 "docs" hdocs).2.1
  · exact ((labels_independent Registry.core h₁ h₃ _).2 hperm).1

end PullTriage
