import PullTriage.Proofs.TraceFidelity

/-!
  PullTriage.Proofs.FirstMatch: the first group that holds wins.

  Trying groups in order skips those that do not hold and stops at the first that does.  Everything that
  is reported comes from that group: its number, its trace and the files in it.
-/

namespace PullTriage

/-- Group number `i` is `g`, it holds, and no group before it does. -/
def FirstHolding (pr : PullRequest) (groups : List RuleGroup) (i : Nat) (g : RuleGroup) : Prop :=
  groups[i]? = some g ∧ g.holds pr = true ∧
    ∀ j < i, ∀ h, groups[j]? = some h → h.holds pr = false

/-- The first group that holds cuts the list into groups that do not hold, itself, and the rest. -/
theorem FirstHolding.split {pr : PullRequest} {groups : List RuleGroup} {i : Nat} {g : RuleGroup}
    (h : FirstHolding pr groups i g) :
    ∃ before after, groups = before ++ g :: after ∧ before.length = i ∧ g.holds pr = true ∧
      ∀ b ∈ before, b.holds pr = false := by
  obtain ⟨hget, hholds, hbefore⟩ := h
  obtain ⟨hlt, rfl⟩ := List.getElem?_eq_some_iff.mp hget
  refine ⟨groups.take i, groups.drop (i + 1), ?_, ?_, hholds, ?_⟩
  · rw [← List.drop_eq_getElem_cons hlt, List.take_append_drop]
  · rw [List.length_take]
    omega
  · intro b hb
    obtain ⟨j, hj, rfl⟩ := List.mem_iff_getElem.mp hb
    rw [List.length_take] at hj
    refine hbefore j (by omega) _ ?_
    rw [List.getElem_take]
    exact List.getElem?_eq_getElem (by omega)

/-! ## §1. Trying groups in order. -/

section Evaluate

variable (label : String) (pr : PullRequest)

/-- A group that holds ends the search. -/
theorem evaluateFrom_cons_of_holds {g : RuleGroup} (h : g.holds pr = true) (index : Nat)
    (rest : List RuleGroup) :
    evaluateFrom label pr index (g :: rest) = ⟨label, index + 1, some ⟨index, g.trace pr⟩⟩ := by
  rw [evaluateFrom, if_pos h]

/-- A group that does not hold is only counted. -/
theorem evaluateFrom_cons_of_not {g : RuleGroup} (h : g.holds pr = false) (index : Nat)
    (rest : List RuleGroup) :
    evaluateFrom label pr index (g :: rest) = evaluateFrom label pr (index + 1) rest := by
  rw [evaluateFrom, if_neg (by rw [h]; exact Bool.false_ne_true)]

/-- Groups that do not hold are only counted. -/
theorem evaluateFrom_append {before : List RuleGroup} (h : ∀ b ∈ before, b.holds pr = false)
    (index : Nat) (rest : List RuleGroup) :
    evaluateFrom label pr index (before ++ rest)
      = evaluateFrom label pr (index + before.length) rest := by
  induction before generalizing index with
  | nil => rfl
  | cons b before ih =>
      obtain ⟨hb, hbefore⟩ := List.forall_mem_cons.mp h
      rw [List.cons_append, evaluateFrom_cons_of_not label pr hb, ih hbefore, List.length_cons]
      congr 1
      omega

theorem evaluate_of_split {before : List RuleGroup} {g : RuleGroup}
    (h : ∀ b ∈ before, b.holds pr = false) (hg : g.holds pr = true) (after : List RuleGroup) :
    evaluate label (before ++ g :: after) pr
      = ⟨label, before.length + 1, some ⟨before.length, g.trace pr⟩⟩ := by
  unfold evaluate
  rw [evaluateFrom_append label pr h, evaluateFrom_cons_of_holds label pr hg, Nat.zero_add]

theorem evaluate_of_none {groups : List RuleGroup} (h : ∀ g ∈ groups, g.holds pr = false) :
    evaluate label groups pr = ⟨label, groups.length, none⟩ := by
  have happend := evaluateFrom_append label pr h 0 []
  rw [List.append_nil, Nat.zero_add] at happend
  exact happend

/-- Where some group holds, there is a first one. -/
theorem exists_split {groups : List RuleGroup} (h : ∃ g ∈ groups, g.holds pr = true) :
    ∃ before g after, groups = before ++ g :: after ∧ g.holds pr = true ∧
      ∀ b ∈ before, b.holds pr = false := by
  cases hfind : groups.find? (·.holds pr) with
  | none =>
      obtain ⟨g, hg, hholds⟩ := h
      exact absurd hholds (List.find?_eq_none.mp hfind g hg)
  | some g =>
      obtain ⟨hholds, before, after, hgroups, hbefore⟩ := List.find?_eq_some_iff_append.mp hfind
      exact ⟨before, g, after, hgroups, hholds, fun b hb => by simpa using hbefore b hb⟩

/-- A label matches exactly when one of its groups holds. -/
theorem matched_evaluate_iff (groups : List RuleGroup) :
    (evaluate label groups pr).matched = true ↔ ∃ g ∈ groups, g.holds pr = true := by
  constructor
  case mp =>
    intro hmatched
    by_contra hnone
    have hall : ∀ g ∈ groups, g.holds pr = false := by
      intro g hg
      rw [← Bool.not_eq_true]
      exact fun hholds => hnone ⟨g, hg, hholds⟩
    rw [evaluate_of_none label pr hall] at hmatched
    cases hmatched
  case mpr =>
    intro h
    obtain ⟨before, g, after, rfl, hg, hbefore⟩ := exists_split pr h
    rw [evaluate_of_split label pr hbefore hg]
    rfl

theorem label_evaluate (groups : List RuleGroup) : (evaluate label groups pr).label = label := by
  by_cases h : ∃ g ∈ groups, g.holds pr = true
  case pos =>
    obtain ⟨before, g, after, rfl, hg, hbefore⟩ := exists_split pr h
    rw [evaluate_of_split label pr hbefore hg]
  case neg =>
    have hall : ∀ g ∈ groups, g.holds pr = false := by simpa using h
    rw [evaluate_of_none label pr hall]

end Evaluate

/-! ## §2. What is reported. -/

/-- **The first group that holds wins, and nothing after it is looked at.** -/
theorem evaluate_reports_first (label : String) (groups : List RuleGroup) (pr : PullRequest) :
    (evaluate label groups pr).label = label ∧
      ((evaluate label groups pr).matched = true ↔ ∃ g ∈ groups, g.holds pr = true) ∧
      (∀ i g, FirstHolding pr groups i g →
        (evaluate label groups pr).winner = some ⟨i, g.trace pr⟩ ∧
          (g.trace pr).matched = true ∧
          (evaluate label groups pr).groupsEvaluated = i + 1 ∧
          (evaluate label groups pr).matchedFiles = (g.trace pr).matchedFiles ∧
          ∀ others, evaluate label (groups.take (i + 1) ++ others) pr = evaluate label groups pr) ∧
      ((∀ g ∈ groups, g.holds pr = false) →
        (evaluate label groups pr).winner = none ∧
          (evaluate label groups pr).matchedFiles = [] ∧
          (evaluate label groups pr).groupsEvaluated = groups.length) := by
  refine ⟨label_evaluate label pr groups, matched_evaluate_iff label pr groups, ?_, ?_⟩
  · intro i g hfirst
    obtain ⟨before, after, rfl, rfl, hg, hbefore⟩ := hfirst.split
    have htake : (before ++ g :: after).take (before.length + 1) = before ++ [g] := by
      rw [List.take_length_add_append]
      rfl
    rw [evaluate_of_split label pr hbefore hg, htake]
    refine ⟨rfl, ?_, rfl, rfl, fun others => ?_⟩
    · rw [g.matched_trace pr]
      exact hg
    · -- what follows the winner is a parameter of the result, so any other list will do
      rw [List.append_assoc]
      exact evaluate_of_split label pr hbefore hg others
  · intro hall
    rw [evaluate_of_none label pr hall]
    exact ⟨rfl, rfl, rfl⟩

/-- The group of one condition. -/
def RuleGroup.single (c : Condition) : RuleGroup := ⟨[c], List.cons_ne_nil c []⟩

/-- Of three groups the second is the first to hold; with the first alone none holds. -/
theorem evaluate_reports_second :
    FirstHolding default [.single (.any []), .single (.all []), .single (.all [.any []])] 1
        (.single (.all [])) ∧
      (evaluate "docs" [.single (.any []), .single (.all []), .single (.all [.any []])]
        default).winner = some ⟨1, .all true []⟩ ∧
      (∀ g ∈ [RuleGroup.single (.any [])], g.holds default = false) ∧
      (evaluate "docs" [.single (.any [])] default).winner = none := by
  have hfirst : FirstHolding default
      [.single (.any []), .single (.all []), .single (.all [.any []])] 1 (.single (.all [])) := by
    refine ⟨rfl, rfl, fun j hj h hget => ?_⟩
    obtain rfl : j = 0 := by omega
    rw [← Option.some.inj hget]
    rfl
  have hnone : ∀ g ∈ [RuleGroup.single (.any [])], g.holds default = false := by
    intro g hg
    rw [List.mem_singleton.mp hg]
    rfl
  exact ⟨hfirst, ((evaluate_reports_first "docs" _ default).2.2.1 1 _ hfirst).1, hnone,
    ((evaluate_reports_first "docs" _ default).2.2.2 hnone).1⟩

end PullTriage
