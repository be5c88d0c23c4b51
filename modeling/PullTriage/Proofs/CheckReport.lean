import PullTriage.CommandLine
import PullTriage.Proofs.GroupNumbers
import PullTriage.Proofs.IndependentLabels
import PullTriage.Proofs.Normalization

/-!
  PullTriage.Proofs.CheckReport: the report on rules and the rules as they are written agree.

  A check prints a line for every label of a document and then two counts, or it prints the compiled rules.
  The lines look the labels up by name, the counts are lengths, and the compiled rules are written as a
  map.  As the labels are distinct, the three say the same:

      dropped      ⇔   no key of the written rules
      n groups     ⇔   an array of n items under the label
      compiled  =  lines that are not dropped,      compiled + dropped  =  declared

  Layers:
    * §1: a line tells what it is about;
    * §2: looking up, writing down and compiling one label;
    * §3: files give every label once;
    * §4: the report.
-/

namespace PullTriage

open Json

/-! ## §1. Lines. -/

/-- The line for a label of which so many groups were compiled, or which was dropped. -/
def reportLine (label : String) : Option Nat → String
  | some n => "  " ++ label ++ ": " ++ toString n ++ " rule group(s)\n"
  | none => "  " ++ label ++ ": dropped (no rule group compiled)\n"

theorem toString_nat_injective : Function.Injective (toString : Nat → String) := by
  have hdigits : ∀ k : Nat, Nat.ofDigitChars 10 (toString k).toList 0 = k := by
    intro k
    rw [Nat.toString_eq_repr, Nat.toList_repr, Nat.ofDigitChars_ten_toDigits]
  intro m n h
  rw [← hdigits m, h, hdigits n]

/-- The two kinds of lines end differently. -/
theorem reportLine_some_ne_none (label : String) (n : Nat) :
    reportLine label (some n) ≠ reportLine label none := by
  intro h
  have hrest : toString n ++ " rule group(s)\n" = "dropped (no rule group compiled)\n" := by
    rw [← String.append_right_inj ("  " ++ label ++ ": ")]
    simpa [reportLine, String.append_assoc] using h
  have hsuffix : " rule group(s)\n".toList <:+ "dropped (no rule group compiled)\n".toList :=
    ⟨(toString n).toList, by rw [← String.toList_append, hrest]⟩
  exact absurd hsuffix (by decide)

/-- A line says whether its label was dropped, and how many groups it has. -/
theorem reportLine_injective (label : String) : Function.Injective (reportLine label) := by
  intro a b h
  cases a with
  | none =>
      cases b with
      | none => rfl
      | some n => exact absurd h.symm (reportLine_some_ne_none label n)
  | some m =>
      cases b with
      | none => exact absurd h (reportLine_some_ne_none label m)
      | some n =>
          have hnumber : toString m = toString n := by
            rw [← String.append_right_inj ("  " ++ label ++ ": "),
              ← String.append_left_inj " rule group(s)\n"]
            exact h
          rw [toString_nat_injective hnumber]

theorem checkLine_eq (s : RuleSet) (label : String) :
    checkLine s label = reportLine label ((s.get? label).map fun l => l.groups.length) := by
  unfold checkLine
  cases s.get? label with
  | none | some => rfl

/-! ## §2. Three views of compiled rules. -/

/-- With distinct names the rules are written as they stand. -/
theorem RuleSet.toValue_eq {s : RuleSet} (h : (s.labels.map LabelRules.name).Nodup) :
    s.toValue = .object (s.labels.map LabelRules.entry) := by
  refine congrArg Value.object (Entries.ofList_eq_self ?_)
  rw [Entries.keys, List.map_map]
  exact h

/-- Looking a label up by its name finds what is written under it. -/
theorem RuleSet.get?_entries (s : RuleSet) (label : String) :
    Entries.get? (s.labels.map LabelRules.entry) label = (s.get? label).map fun l => l.entry.2 := by
  unfold Entries.get? get?
  rw [List.find?_map, Option.map_map]
  rfl

theorem RuleSet.get?_eq_none_iff {s : RuleSet} {label : String} :
    s.get? label = none ↔ label ∉ Entries.keys (s.labels.map LabelRules.entry) := by
  have hkeys : Entries.keys (s.labels.map LabelRules.entry) = s.labels.map LabelRules.name := by
    rw [Entries.keys, List.map_map]
    rfl
  rw [hkeys, List.mem_map, get?, List.find?_eq_none]
  simp only [beq_iff_eq, not_exists, not_and]

namespace Registry

variable {r : Registry}

theorem name_of_compileLabel? {e : String × Value} {l : LabelRules}
    (h : r.compileLabel? e = some l) : l.name = e.1 := by
  unfold compileLabel? at h
  split at h
  case h_1 => cases h
  case h_2 => rw [← Option.some.inj h]

/-- Under the name of a label stands what its own entry compiles to. -/
theorem get?_compile {d : RuleDescription} (hkeys : (Entries.keys d.labels).Nodup)
    {e : String × Value} (he : e ∈ d.labels) : (r.compile d).get? e.1 = r.compileLabel? e := by
  have hnames : ((r.compile d).labels.map LabelRules.name).Nodup :=
    hkeys.sublist (sublist_names_compile d)
  refine Option.ext fun l => ?_
  rw [RuleSet.get?, find?_key_eq_some_iff hnames, labels_compile, List.mem_filterMap]
  constructor
  · rintro ⟨⟨e', he', hcompiled⟩, hname⟩
    have hkey : e'.1 = e.1 := by rw [← name_of_compileLabel? hcompiled, hname]
    rw [← List.inj_on_of_nodup_map hkeys he' he hkey]
    exact hcompiled
  · intro hcompiled
    exact ⟨⟨e, he, hcompiled⟩, name_of_compileLabel? hcompiled⟩

end Registry

/-! ## §3. Files. -/

namespace RuleDescription

theorem nodup_keys_of_ofValue {v : Value} (h : v.DistinctKeys) {d : RuleDescription}
    (hd : ofValue v = .ok d) : (Entries.keys d.labels).Nodup := by
  cases v with
  | object entries =>
      rw [← Except.ok.inj hd]
      exact h.nodup
  | null =>
      rw [← Except.ok.inj hd]
      exact List.nodup_nil
  | bool | number | string | array => cases hd

/-- A file gives every label once, whatever it is written in. -/
theorem nodup_keys_of_ofFile {path : String} {text : Option String} {d : RuleDescription}
    (hd : ofFile path text = .ok d) : (Entries.keys d.labels).Nodup := by
  cases text with
  | none => cases hd
  | some text =>
      cases hformat : formatOf path with
      | json =>
          have hjson : ofJson text = .ok d := by simpa [ofFile, hformat] using hd
          unfold ofJson at hjson
          split at hjson
          case h_1 v hv => exact nodup_keys_of_ofValue (Value.distinctKeys_read hv) hjson
          case h_2 => cases hjson
      | yaml =>
          have hyaml : ofYaml text = .ok d := by simpa [ofFile, hformat] using hd
          unfold ofYaml at hyaml
          split at hyaml
          case h_1 v hv => exact nodup_keys_of_ofValue (Yaml.distinctKeys_read hv) hyaml
          case h_2 => cases hyaml

end RuleDescription

/-! ## §4. The report. -/

/-- A line that says how many groups a label has counts what is written under it. -/
theorem checkLine_eq_iff {s : RuleSet} {label : String} {n : Nat} :
    checkLine s label = reportLine label (some n) ↔ ∃ items,
      Entries.get? (s.labels.map LabelRules.entry) label = some (.array items) ∧ items.length = n := by
  rw [checkLine_eq, (reportLine_injective label).eq_iff, s.get?_entries]
  cases s.get? label with
  | none => simp
  | some l => simp [LabelRules.entry]

/-- A line says that a label was dropped when nothing is written under it. -/
theorem checkLine_eq_dropped_iff {s : RuleSet} {label : String} :
    checkLine s label = reportLine label none ↔
      label ∉ Entries.keys (s.labels.map LabelRules.entry) := by
  rw [checkLine_eq, (reportLine_injective label).eq_iff, Option.map_eq_none_iff,
    RuleSet.get?_eq_none_iff]

/-- In the report on its own document a line says that a label was dropped when its entry compiles to
nothing. -/
theorem checkLine_compile_eq_dropped_iff {r : Registry} {d : RuleDescription}
    (hkeys : (Entries.keys d.labels).Nodup) {e : String × Value} (he : e ∈ d.labels) :
    checkLine (r.compile d) e.1 = reportLine e.1 none ↔ r.compileLabel? e = none := by
  rw [checkLine_eq, (reportLine_injective e.1).eq_iff, Option.map_eq_none_iff,
    Registry.get?_compile hkeys he]

/-- The lines of labels that were dropped, among the labels of a document. -/
theorem length_dropped (r : Registry) {d : RuleDescription} (hkeys : (Entries.keys d.labels).Nodup) :
    ((Entries.keys d.labels).filter fun label =>
        checkLine (r.compile d) label = reportLine label none).length
      = d.labels.countP fun e => (r.compileLabel? e).isNone := by
  rw [← List.countP_eq_length_filter, Entries.keys, List.countP_map]
  refine List.countP_congr fun e he => ?_
  rw [Function.comp_apply, decide_eq_true_iff, checkLine_compile_eq_dropped_iff hkeys he,
    Option.isNone_iff_eq_none]

/-- A check of rules that can be read prints the one or the other. -/
theorem Command.run_check (r : Registry) {read : String → Option String} {path : String}
    {d : RuleDescription} (hd : RuleDescription.ofFile path (read path) = .ok d) (normalized : Bool) :
    (Command.check path normalized).run r read
      = .success (if normalized then (r.compile d).toValue.pretty 0 ++ "\n"
        else checkReport d (r.compile d)) := by
  unfold Command.run
  dsimp only
  rw [hd]

/-- **The report on a document, its counts and the rules as they are written agree.** -/
theorem check_agrees (r : Registry) {d : RuleDescription} (hkeys : (Entries.keys d.labels).Nodup) :
    let s := r.compile d
    let labels := Entries.keys d.labels
    let dropped := labels.filter fun label => checkLine s label = reportLine label none
    let kept := labels.filter fun label => checkLine s label ≠ reportLine label none
    ∃ written : Entries Value, s.toValue = .object written ∧
      checkReport d s = String.join (labels.map (checkLine s)) ++
        toString s.labels.length ++ " of " ++ toString labels.length ++ " label(s) compiled\n" ∧
      (∀ label ∈ labels, (∃ groups, checkLine s label = reportLine label groups) ∧
        (checkLine s label = reportLine label none ↔ label ∉ Entries.keys written) ∧
        ∀ n, checkLine s label = reportLine label (some n) ↔ ∃ items,
          Entries.get? written label = some (.array items) ∧ items.length = n) ∧
      kept.length = s.labels.length ∧ s.labels.length + dropped.length = labels.length ∧
      ∀ read path, RuleDescription.ofFile path (read path) = .ok d →
        (Command.check path false).run r read = .success (checkReport d s) ∧
        (Command.check path true).run r read = .success (s.toValue.pretty 0 ++ "\n") := by
  intro s labels dropped kept
  have hnames : (s.labels.map LabelRules.name).Nodup :=
    hkeys.sublist (Registry.sublist_names_compile d)
  have hlength : labels.length = d.labels.length := List.length_map _
  have hdeclared : s.labels.length + dropped.length = labels.length := by
    rw [length_dropped r hkeys, hlength]
    exact length_filterMap_add_countP r.compileLabel? d.labels
  have hkept : kept.length = s.labels.length := by
    -- each line is of one kind or the other
    have hsplit : labels.length = dropped.length + kept.length := by
      simp only [dropped, kept, ne_eq, decide_not]
      exact List.length_eq_length_filter_add _
    omega
  refine ⟨_, RuleSet.toValue_eq hnames, ?_, fun label _ => ⟨⟨_, checkLine_eq s label⟩,
    checkLine_eq_dropped_iff, fun n => checkLine_eq_iff⟩, hkept, hdeclared, ?_⟩
  · rw [hlength]
    unfold checkReport
    rw [show labels.map (checkLine s) = d.labels.map fun e => checkLine s e.1 from List.map_map]
  · intro read path hd
    exact ⟨Command.run_check r hd false, Command.run_check r hd true⟩

/-- A label without a group that can be built is dropped, and `docs` keeps two groups of three. -/
theorem check_agrees_docs :
    let text := "\x7b\"bug\":[\x7b\"title\":\"(\"\x7d],\"docs\":[\x7b\"title\":\"a\"\x7d,null," ++
      "\x7b\"body\":[\"b\"]\x7d]\x7d"
    let run (normalized : Bool) := (Command.check "rules.json" normalized).run .core fun _ => some text
    ∃ d, RuleDescription.ofFile "rules.json" (some text) = .ok d ∧ (Entries.keys d.labels).Nodup ∧
      run false = .success (checkReport d (Registry.core.compile d)) ∧
      run true = .success ((Registry.core.compile d).toValue.pretty 0 ++ "\n") ∧
      run false = .success ("  bug: dropped (no rule group compiled)\n" ++
        "  docs: 2 rule group(s)\n" ++ "1 of 2 label(s) compiled\n") := by
  intro text run
  have hok : (RuleDescription.ofFile "rules.json" (some text)).isOk = true := by decide +kernel
  obtain ⟨d, hd⟩ := except_isOk_iff.mp hok
  have hkeys : (Entries.keys d.labels).Nodup := RuleDescription.nodup_keys_of_ofFile hd
  obtain ⟨-, -, -, -, -, -, hrun⟩ := check_agrees .core hkeys
  obtain ⟨hreport, hnormalized⟩ := hrun (fun _ => some text) "rules.json" hd
  exact ⟨d, hd, hkeys, hreport, hnormalized, by decide +kernel⟩

end PullTriage
