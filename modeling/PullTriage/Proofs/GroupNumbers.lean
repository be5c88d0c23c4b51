import PullTriage.Proofs.IndependentLabels

/-!
  PullTriage.Proofs.GroupNumbers: which of the groups that are written a winner's number means.

  Groups of which nothing is compiled are left out before any group is tried, so the number of a winner
  counts the groups that are compiled.  In the list as it is written the winner stands further back, by as
  many places as elements before it are left out:

      m.winner = some w  →  w.index + r.leftOutBefore groups j = j,  where `r.WinsAt pr groups j g`

  The two numbers are the same exactly when nothing before the winner is left out.
-/

namespace PullTriage

open Json

/-! ## §1. Elements that are left out. -/

section FilterMap

variable {α β : Type} (f : α → Option β)

theorem length_filterMap_add_countP (l : List α) :
    (l.filterMap f).length + l.countP (fun a => (f a).isNone) = l.length := by
  rw [List.length_filterMap_eq_countP, List.length_eq_countP_add_countP fun a => (f a).isSome]
  congr 1
  refine List.countP_congr fun a _ => ?_
  cases f a <;> simp

/-- What stands at a place among the images comes from a place in the list, and what stands before it
from before that place. -/
theorem exists_split_of_filterMap {l : List α} {before after : List β} {b : β}
    (h : l.filterMap f = before ++ b :: after) :
    ∃ first a last, l = first ++ a :: last ∧ first.filterMap f = before ∧ f a = some b := by
  obtain ⟨first, rest, rfl, hfirst, hrest⟩ := List.filterMap_eq_append_iff.mp h
  obtain ⟨skipped, a, last, rfl, hskipped, ha, -⟩ := List.filterMap_eq_cons_iff.mp hrest
  refine ⟨first ++ skipped, a, last, by rw [List.append_assoc], ?_, ha⟩
  rw [List.filterMap_append, hfirst, List.filterMap_eq_nil_iff.mpr hskipped, List.append_nil]

end FilterMap

/-! ## §2. The winner in the list that is written. -/

namespace Registry

/-- Element number `j` of a list of groups compiles to `g`, and it is the first of which the group
holds. -/
structure WinsAt (r : Registry) (pr : PullRequest) (groups : List Value) (j : Nat) (g : RuleGroup) :
    Prop where
  compiles : groups[j]?.bind r.compileGroup? = some g
  holds : g.holds pr = true
  /-- An element before it does not compile, or its group does not hold. -/
  first : ∀ i < j, ∀ h, groups[i]?.bind r.compileGroup? = some h → h.holds pr = false

/-- How many of the first `j` elements do not compile. -/
def leftOutBefore (r : Registry) (groups : List Value) (j : Nat) : Nat :=
  (groups.take j).countP fun v => (r.compileGroup? v).isNone

variable {r : Registry} {pr : PullRequest}

/-- The group that wins is that of the first element whose group holds, and its number does not count
the elements that are left out. -/
theorem exists_winsAt {label : String} {groups : List Value}
    (h : (evaluate label (r.compileGroups (.array groups)) pr).matched = true) :
    ∃ i j g, (evaluate label (r.compileGroups (.array groups)) pr).winner = some ⟨i, g.trace pr⟩ ∧
      r.WinsAt pr groups j g ∧ i + r.leftOutBefore groups j = j := by
  obtain ⟨before, g, after, hsplit, hg, hbefore⟩ :=
    exists_split pr ((matched_evaluate_iff label pr _).mp h)
  obtain ⟨first, v, last, rfl, hfirst, hv⟩ := exists_split_of_filterMap r.compileGroup? hsplit
  refine ⟨before.length, first.length, g, ?_, ⟨?_, hg, ?_⟩, ?_⟩
  · rw [hsplit, evaluate_of_split label pr hbefore hg]
  · rw [List.getElem?_append_right (Nat.le_refl _), Nat.sub_self, List.getElem?_cons_zero]
    exact hv
  · intro i hi h hget
    obtain ⟨u, hu, hcompiles⟩ := Option.bind_eq_some_iff.mp hget
    rw [List.getElem?_append_left hi] at hu
    refine hbefore h ?_
    rw [← hfirst]
    exact List.mem_filterMap.mpr ⟨u, List.mem_of_getElem? hu, hcompiles⟩
  · unfold leftOutBefore
    rw [List.take_left, ← hfirst]
    exact length_filterMap_add_countP r.compileGroup? first

theorem leftOutBefore_eq_zero_iff {groups : List Value} {j : Nat} :
    r.leftOutBefore groups j = 0 ↔ ∀ v ∈ groups.take j, (r.compileGroup? v).isSome = true := by
  unfold leftOutBefore
  rw [List.countP_eq_zero]
  refine forall₂_congr fun v _ => ?_
  cases r.compileGroup? v <;> simp

end Registry

/-! ## §3. What is reported. -/

/-- **A label is reported for the first element of its list whose group holds, under the number that this
element has once those before it are left out that do not compile.** -/
theorem winner_counts_compiled (r : Registry) {d : RuleDescription}
    (hd : (Entries.keys d.labels).Nodup) (pr : PullRequest) {m : MatchResult}
    (hm : m ∈ ((r.compile d).classify pr).results) :
    ∃ groups w j g, Entries.get? d.labels m.label = some (.array groups) ∧ m.winner = some w ∧
      r.WinsAt pr groups j g ∧ w.trace = g.trace pr ∧ w.index + r.leftOutBefore groups j = j ∧
      (w.index = j ↔ ∀ v ∈ groups.take j, (r.compileGroup? v).isSome = true) := by
  obtain ⟨v, hv, hreport⟩ := (Registry.mem_results_iff hd).mp hm
  obtain ⟨hmatched, heq⟩ := Option.ite_none_right_eq_some.mp hreport
  -- only a list has groups, so what is reported stands under one
  obtain ⟨groups, rfl⟩ : ∃ groups, v = .array groups := by
    cases v with
    | array groups => exact ⟨groups, rfl⟩
    | _ => cases hmatched
  obtain ⟨i, j, g, hwinner, hwins, hnumber⟩ := Registry.exists_winsAt hmatched
  rw [Option.some.inj heq] at hwinner
  refine ⟨groups, _, j, g, hv, hwinner, hwins, rfl, hnumber, ?_⟩
  rw [← Registry.leftOutBefore_eq_zero_iff]
  dsimp only
  omega

/-- Three groups under one label: one of an unknown kind, one that does not hold and one that does. -/
def threeGroups : List Value := [.object [("reviewer", .string "ann")],
  .object [("title", .string "^fix")], .object [("title", .string "doc")]]

/-- The third element of the list wins as the second of two groups. -/
theorem winner_counts_compiled_third :
    let d : RuleDescription := ⟨[("docs", .array threeGroups)]⟩
    let pr : PullRequest := { title := "Update docs" }
    (Entries.keys d.labels).Nodup ∧ ∃ m ∈ ((Registry.core.compile d).classify pr).results,
      ∃ w g, m.winner = some w ∧ w.index = 1 ∧ Registry.core.WinsAt pr threeGroups 2 g ∧
        w.trace = g.trace pr := by
  intro d pr
  have hkeys : (Entries.keys d.labels).Nodup := by decide
  have hreported : (((Registry.core.compile d).classify pr).results.map
      fun m => (m.label, m.winner.map Winner.index)) = [("docs", some 1)] := by decide +kernel
  obtain ⟨m, hm, heq⟩ := List.mem_map.mp (hreported ▸ List.mem_singleton_self _)
  obtain ⟨hlabel, hindex⟩ := Prod.mk.inj heq
  obtain ⟨groups, w, j, g, hget, hw, hwins, htrace, hnumber, -⟩ :=
    winner_counts_compiled Registry.core hkeys pr hm
  rw [hlabel] at hget
  obtain rfl : threeGroups = groups := Value.array.inj (Option.some.inj hget)
  rw [hw] at hindex
  have hone : w.index = 1 := Option.some.inj hindex
  -- one element is left out, the first
  have hall : threeGroups.countP (fun v => (Registry.core.compileGroup? v).isNone) = 1 := by
    decide +kernel
  have hfirst : Registry.core.leftOutBefore threeGroups 1 = 1 := by decide +kernel
  have hle : Registry.core.leftOutBefore threeGroups j ≤ 1 :=
    hall ▸ (List.take_sublist j threeGroups).countP_le
  obtain rfl : j = 2 := by
    have hne : j ≠ 1 := by
      rintro rfl
      omega
    omega
  exact ⟨hkeys, m, hm, w, g, hw, hone, hwins, htrace⟩

/-- The number of a winner is not its place in the list that is written: here the element in that place
does not hold. -/
theorem winner_number_skips_leftOut :
    let d : RuleDescription := ⟨[("docs", .array threeGroups)]⟩
    let pr : PullRequest := { title := "Update docs" }
    ∃ m ∈ ((Registry.core.compile d).classify pr).results, m.label = "docs" ∧
      m.winner.map Winner.index = some 1 ∧
      ¬∃ g, threeGroups[1]?.bind Registry.core.compileGroup? = some g ∧ g.holds pr = true := by
  intro d pr
  have hreported : (((Registry.core.compile d).classify pr).results.map
      fun m => (m.label, m.winner.map Winner.index)) = [("docs", some 1)] := by decide +kernel
  obtain ⟨m, hm, heq⟩ := List.mem_map.mp (hreported ▸ List.mem_singleton_self _)
  obtain ⟨hlabel, hindex⟩ := Prod.mk.inj heq
  have hholds : (threeGroups[1]?.bind Registry.core.compileGroup?).any (·.holds pr) = false := by
    decide +kernel
  refine ⟨m, hm, hlabel, hindex, fun ⟨g, hg, hg'⟩ => ?_⟩
  rw [hg] at hholds
  exact Bool.false_ne_true (hholds.symm.trans hg')

end PullTriage
