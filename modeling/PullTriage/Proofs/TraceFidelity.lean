import Mathlib.Data.List.Forall2
import PullTriage.Rules.RuleSet

/-!
  PullTriage.Proofs.TraceFidelity: a trace is a picture of the decision.

  A condition is decided by `Condition.holds`, which stops as soon as the answer is known, and reported
  by `Condition.trace`, which looks at everything.  `Explains` says what a report has to be: it has the
  shape of the condition, and at every node it gives the answer that the condition there has by itself.

      Explains pr c (c.trace pr)
-/

namespace PullTriage

/-! ## §1. What a report has to be. -/

/-- `w` is the earliest pattern of a list that is found in a text. -/
def TextPatterns.IsEarliest (ps : TextPatterns) (text w : String) : Prop :=
  ∃ before p after, ps.patterns = before ++ p :: after ∧ p.written = w ∧
    p.foundIn text = true ∧ ∀ q ∈ before, q.foundIn text = false

/-- The fields that have patterns, in the order branch, title, body. -/
def FieldPatterns.configured (m : FieldPatterns) : List (TextField × TextPatterns) :=
  (m.branch.map (TextField.branch, ·)).toList ++ (m.title.map (TextField.title, ·)).toList ++
    (m.body.map (TextField.body, ·)).toList

/-- A trace explains a condition: node for node it is of the same kind, has as many children in the same
order, and is matched exactly when the condition holds. -/
inductive Explains (pr : PullRequest) : Condition → Trace → Prop where
  | text {f : TextField} {ps : TextPatterns} {m : Bool} {found : Option String}
      (matched : m = (Condition.text f ps).holds pr) (absent : found = none ↔ m = false)
      (earliest : ∀ w, found = some w → ps.IsEarliest (f.read pr) w) :
      Explains pr (.text f ps) (.text f m found)
  | files {gs : PathGlobs} {m : Bool} {fs : List String}
      (matched : m = (Condition.files gs).holds pr) (nonempty : m = true ↔ fs ≠ []) :
      Explains pr (.files gs) (.files m fs)
  | all {cs : List Condition} {m : Bool} {ts : List Trace}
      (matched : m = (Condition.all cs).holds pr) (children : List.Forall₂ (Explains pr) cs ts) :
      Explains pr (.all cs) (.all m ts)
  | any {cs : List Condition} {m : Bool} {ts : List Trace}
      (matched : m = (Condition.any cs).holds pr) (children : List.Forall₂ (Explains pr) cs ts) :
      Explains pr (.any cs) (.any m ts)
  | or {ps : FieldPatterns} {m : Bool} {ts : List Trace}
      (matched : m = (Condition.or ps).holds pr)
      (children : List.Forall₂ (Explains pr) (ps.configured.map fun e => .text e.1 e.2) ts) :
      Explains pr (.or ps) (.or m ts)
  | custom {c : CustomCondition} {m : Bool} (matched : m = (Condition.custom c).holds pr) :
      Explains pr (.custom c) (.custom c.kind m)

/-- A trace that explains a condition says whether it holds. -/
theorem Explains.matched_eq {pr : PullRequest} {c : Condition} {t : Trace} (h : Explains pr c t) :
    t.matched = c.holds pr := by
  cases h with
  | text matched => exact matched
  | files matched => exact matched
  | all matched => exact matched
  | any matched => exact matched
  | or matched => exact matched
  | custom matched => exact matched

/-! ## §2. Leaves. -/

/-- A first pattern is found exactly when one is. -/
theorem TextPatterns.isSome_find? (ps : TextPatterns) (text : String) :
    (ps.find? text).isSome = ps.foundIn text := by
  unfold TextPatterns.find? TextPatterns.foundIn
  rw [Option.isSome_map, List.isSome_find?]

/-- The pattern that is found is the earliest. -/
theorem TextPatterns.isEarliest_find? {ps : TextPatterns} {text w : String}
    (h : ps.find? text = some w) : ps.IsEarliest text w := by
  obtain ⟨p, hfind, hw⟩ := Option.map_eq_some_iff.mp h
  obtain ⟨hfound, before, after, hpatterns, hbefore⟩ := List.find?_eq_some_iff_append.mp hfind
  exact ⟨before, p, after, hpatterns, hw, hfound, fun q hq => by simpa using hbefore q hq⟩

/-- The trace of a search names the earliest pattern. -/
theorem explains_text (pr : PullRequest) (f : TextField) (ps : TextPatterns) :
    Explains pr (.text f ps) (Condition.traceText pr f ps) := by
  have hfound : (ps.find? (f.read pr)).isSome = (Condition.text f ps).holds pr := by
    rw [ps.isSome_find?]
    rfl
  refine .text hfound ?_ fun w hw => TextPatterns.isEarliest_find? hw
  rw [← Option.not_isSome_iff_eq_none, Bool.not_eq_true]

/-- Some paths are accepted exactly when one is. -/
theorem PathGlobs.accepted_ne_nil (gs : PathGlobs) (paths : List String) :
    gs.accepted paths ≠ [] ↔ paths.any gs.accepts = true := by
  rw [List.any_eq_true]
  constructor
  · intro hne
    obtain ⟨path, hpath⟩ := List.exists_mem_of_ne_nil _ hne
    unfold PathGlobs.accepted at hpath
    rw [List.mem_eraseDups, List.mem_filter] at hpath
    exact ⟨path, hpath⟩
  · rintro ⟨path, hpath⟩
    have hmem : path ∈ gs.accepted paths := by
      unfold PathGlobs.accepted
      rw [List.mem_eraseDups, List.mem_filter]
      exact hpath
    exact List.ne_nil_of_mem hmem

/-- The trace of the changed files lists those that are accepted. -/
theorem explains_files (pr : PullRequest) (gs : PathGlobs) :
    Explains pr (.files gs) ((Condition.files gs).trace pr) := by
  have hmatched : (!(gs.accepted pr.changedFiles).isEmpty) = pr.changedFiles.any gs.accepts := by
    rw [Bool.eq_iff_iff, ← gs.accepted_ne_nil]
    simp
  exact .files hmatched (by simp)

theorem FieldPatterns.toList_eq (m : FieldPatterns) : m.toList = m.configured := by
  obtain ⟨branch, title, body⟩ := m
  cases branch <;> cases title <;> cases body <;> rfl

/-- An empty list of patterns is found nowhere, so asking whether it is empty changes nothing. -/
theorem holds_or_eq (pr : PullRequest) (m : FieldPatterns) :
    (Condition.or m).holds pr = m.toList.any fun e => e.2.foundIn (e.1.read pr) := by
  have hempty : ∀ (ps : TextPatterns) (text : String),
      (!ps.isEmpty && ps.foundIn text) = ps.foundIn text := by
    intro ps text
    unfold TextPatterns.isEmpty TextPatterns.foundIn
    cases ps.patterns <;> rfl
  unfold Condition.holds
  simp only [hempty]

theorem matched_traceText (pr : PullRequest) (f : TextField) (ps : TextPatterns) :
    (Condition.traceText pr f ps).matched = ps.foundIn (f.read pr) := ps.isSome_find? _

/-- The trace of an `or` has one search for each of its fields. -/
theorem explains_or (pr : PullRequest) (m : FieldPatterns) :
    Explains pr (.or m) ((Condition.or m).trace pr) := by
  constructor
  case matched =>
    rw [holds_or_eq, List.any_map]
    simp only [Function.comp_def, matched_traceText]
  case children =>
    rw [m.toList_eq, List.forall₂_map_left_iff, List.forall₂_map_right_iff]
    exact List.forall₂_same.mpr fun e _ => explains_text pr e.1 e.2

/-! ## §3. Trees. -/

theorem allHold_eq (pr : PullRequest) (cs : List Condition) :
    Condition.allHold pr cs = cs.all (Condition.holds pr) := by
  induction cs with
  | nil => rfl
  | cons c cs ih => rw [Condition.allHold, ih, List.all_cons]

theorem anyHolds_eq (pr : PullRequest) (cs : List Condition) :
    Condition.anyHolds pr cs = cs.any (Condition.holds pr) := by
  induction cs with
  | nil => rfl
  | cons c cs ih => rw [Condition.anyHolds, ih, List.any_cons]

/-- Traces that explain their conditions are matched together when the conditions hold together. -/
theorem all_matched_eq {pr : PullRequest} {cs : List Condition} {ts : List Trace}
    (h : List.Forall₂ (Explains pr) cs ts) : ts.all Trace.matched = Condition.allHold pr cs := by
  induction h with
  | nil => rfl
  | cons hc _ ih => rw [List.all_cons, Condition.allHold, hc.matched_eq, ih]

/-- A disjunction matches in its trace exactly when it holds. -/
theorem any_matched_eq {pr : PullRequest} {cs : List Condition} {ts : List Trace}
    (h : List.Forall₂ (Explains pr) cs ts) : ts.any Trace.matched = Condition.anyHolds pr cs := by
  induction h with
  | nil => rfl
  | cons hc _ ih => rw [List.any_cons, Condition.anyHolds, hc.matched_eq, ih]

mutual

/-- The trace of a condition explains it. -/
theorem Condition.explains_trace (pr : PullRequest) : ∀ c : Condition, Explains pr c (c.trace pr)
  | .text f ps => explains_text pr f ps
  | .files gs => explains_files pr gs
  | .all cs => .all (all_matched_eq (explains_traces pr cs)) (explains_traces pr cs)
  | .any cs => .any (any_matched_eq (explains_traces pr cs)) (explains_traces pr cs)
  | .or m => explains_or pr m
  | .custom _ => .custom rfl

/-- The same for conditions in a row. -/
theorem Condition.explains_traces (pr : PullRequest) :
    ∀ cs : List Condition, List.Forall₂ (Explains pr) cs (Condition.traces pr cs)
  | [] => .nil
  | c :: rest => .cons (Condition.explains_trace pr c) (Condition.explains_traces pr rest)

end

/-! ## §4. Groups. -/

/-- The condition that a group stands for: its only condition, or the conjunction of all of them. -/
def RuleGroup.condition (g : RuleGroup) : Condition :=
  match g.conditions with
  | [c] => c
  | cs => .all cs

/-- The trace of a group is that of its condition. -/
theorem RuleGroup.trace_eq (pr : PullRequest) : ∀ g : RuleGroup, g.trace pr = g.condition.trace pr
  | ⟨[], h⟩ => absurd rfl h
  | ⟨[_], _⟩ => rfl
  | ⟨_ :: _ :: _, _⟩ => rfl

/-- A group holds when its condition does. -/
theorem RuleGroup.holds_eq (pr : PullRequest) : ∀ g : RuleGroup, g.holds pr = g.condition.holds pr
  | ⟨[], h⟩ => absurd rfl h
  | ⟨[c], _⟩ => Bool.and_true (c.holds pr)
  | ⟨_ :: _ :: _, _⟩ => rfl

/-- The trace of a group is matched exactly when the group holds. -/
theorem RuleGroup.matched_trace (g : RuleGroup) (pr : PullRequest) :
    (g.trace pr).matched = g.holds pr := by
  rw [g.trace_eq pr, g.holds_eq pr]
  exact (g.condition.explains_trace pr).matched_eq

/-- **Every trace explains what was decided: that of a condition the condition, and that of a group the
condition that the group stands for.** -/
theorem trace_explains (pr : PullRequest) :
    (∀ c : Condition, Explains pr c (c.trace pr)) ∧
      ∀ g : RuleGroup, Explains pr g.condition (g.trace pr) ∧
        (g.trace pr).matched = g.holds pr := by
  refine ⟨Condition.explains_trace pr, fun g => ⟨?_, g.matched_trace pr⟩⟩
  rw [g.trace_eq pr]
  exact g.condition.explains_trace pr

end PullTriage
