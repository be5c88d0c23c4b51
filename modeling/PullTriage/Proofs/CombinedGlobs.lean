import Mathlib.Data.List.Basic
import PullTriage.Proofs.PatternLists

/-!
  PullTriage.Proofs.CombinedGlobs: which globs can be used together.

  The size of an automaton is a sum over the patterns in it.  So whether globs can be used together does
  not depend on their order, and a glob that can be used with others can be used alone:

      globs ~ globs'       →  (combinationProblem? globs = none ↔ combinationProblem? globs' = none)
      glob ∈ globs         →  combinationProblem? globs = none → combinationProblem? [glob] = none

  Layers:
    * §1: automata of several patterns;
    * §2: lists of globs;
    * §3: lists of globs as they are written.
-/

namespace PullTriage

/-! ## §1. Automata of several patterns. -/

namespace Regex

/-- The sum of two lists is the sum of both. -/
theorem total_append (ns ms : List Nat) : total (ns ++ ms) = total ns + total ms := by
  induction ns with
  | nil => exact (Nat.zero_add _).symm
  | cons n ns ih =>
      show n + total (ns ++ ms) = n + total ns + total ms
      rw [ih, Nat.add_assoc]

/-- A sum does not depend on the order. -/
theorem total_perm {ns ms : List Nat} (h : ns.Perm ms) : total ns = total ms := by
  induction h with
  | nil => rfl
  | cons n _ ih => exact congrArg (n + ·) ih
  | swap n m ns => exact Nat.add_left_comm m n (total ns)
  | trans _ _ ih ih' => exact ih.trans ih'

/-- A number is at most the sum that it is part of. -/
theorem le_total_of_mem {n : Nat} {ns : List Nat} (h : n ∈ ns) : n ≤ total ns := by
  obtain ⟨before, after, rfl⟩ := List.append_of_mem h
  rw [total_append]
  show n ≤ total before + (n + total after)
  omega

/-- Equal numbers are multiplied. -/
theorem total_replicate (k n : Nat) : total (List.replicate k n) = k * n := by
  induction k with
  | zero => exact (Nat.zero_mul n).symm
  | succ k ih =>
      rw [List.replicate_succ, Nat.succ_mul]
      show n + total (List.replicate k n) = _
      rw [ih, Nat.add_comm]

/-- Patterns side by side take the same space in any order. -/
theorem sideBySideSize_perm {ns ms : List Nat} (h : ns.Perm ms) :
    sideBySideSize ns = sideBySideSize ms := by
  have hlength := h.length_eq
  match ns, ms with
  | [], [] => rfl
  | [_], [_] => rw [List.singleton_perm_singleton.mp h]
  | _ :: _ :: _, _ :: _ :: _ =>
      show Program.alternationSize _ = Program.alternationSize _
      unfold Program.alternationSize
      rw [hlength, total_perm h]
  | [], _ :: _ | _ :: _, [] | [_], _ :: _ :: _ | _ :: _ :: _, [_] => simp at hlength

/-- They take as much space as all of them at least. -/
theorem total_le_sideBySideSize (ns : List Nat) : total ns ≤ sideBySideSize ns := by
  match ns with
  | [] => exact Nat.zero_le _
  | [n] => exact Nat.le_refl n
  | n :: m :: ns => exact Nat.le_add_left _ _

variable {alphabet : Alphabet} {direction : Direction} {ps qs : List Program} {p : Program}

/-- The size of an automaton does not depend on the order of its patterns. -/
theorem automatonSize_perm (h : ps.Perm qs) :
    automatonSize alphabet direction ps = automatonSize alphabet direction qs := by
  unfold automatonSize
  dsimp only
  rw [h.all_eq, sideBySideSize_perm (h.map _)]

/-- An automaton is no larger than one that has more patterns. -/
theorem automatonSize_singleton_le (h : p ∈ ps) :
    automatonSize alphabet direction [p] ≤ automatonSize alphabet direction ps := by
  have hsize : patternSize alphabet direction p
      ≤ sideBySideSize (ps.map (patternSize alphabet direction)) :=
    Nat.le_trans (le_total_of_mem (List.mem_map_of_mem h)) (total_le_sideBySideSize _)
  -- if every match begins at the beginning, so does that of one pattern
  have hstart : ∀ anchor, startSize ([p].all (·.isAnchored anchor))
      ≤ startSize (ps.all (·.isAnchored anchor)) := by
    intro anchor
    cases hall : ps.all (·.isAnchored anchor) with
    | true =>
        have hp := List.all_eq_true.mp hall p h
        rw [List.all_cons, hp]
        exact Nat.le_refl _
    | false => cases [p].all (·.isAnchored anchor) <;> decide
  exact Nat.add_le_add (hstart _) hsize

/-- Whether patterns fit a limit does not depend on their order. -/
theorem fitsLimit_perm {limit : Nat} (h : ps.Perm qs) :
    fitsLimit alphabet limit ps = fitsLimit alphabet limit qs := by
  unfold fitsLimit
  rw [automatonSize_perm h, automatonSize_perm h]

/-- A pattern that fits with others fits alone. -/
theorem fitsLimit_singleton {limit : Nat} (hfits : fitsLimit alphabet limit ps = true) (h : p ∈ ps) :
    fitsLimit alphabet limit [p] = true := by
  unfold fitsLimit at hfits ⊢
  simp only [Bool.and_eq_true, decide_eq_true_eq] at hfits ⊢
  exact ⟨Nat.le_trans (automatonSize_singleton_le h) hfits.1,
    Nat.le_trans (automatonSize_singleton_le h) hfits.2⟩

end Regex

/-! ## §2. Lists of globs. -/

namespace Glob

variable {globs globs' : List (List Token)} {ts : List Token}

/-- There is an automaton if no pattern nests too deep and all of them fit. -/
theorem automatonProblem?_eq_none_iff : automatonProblem? globs = none ↔
    (∀ ts ∈ globs, isTooDeep ts = false) ∧
      Regex.fitsLimit .bytes sizeLimit (globs.map globProgram) = true := by
  unfold automatonProblem?
  rw [← List.findIdx?_eq_none_iff]
  cases globs.findIdx? isTooDeep with
  | some number => simp
  | none => simp

/-- Whether there is one does not depend on the order of the globs. -/
theorem automatonProblem?_perm (h : globs.Perm globs') :
    automatonProblem? globs = none ↔ automatonProblem? globs' = none := by
  rw [automatonProblem?_eq_none_iff, automatonProblem?_eq_none_iff,
    Regex.fitsLimit_perm (h.map globProgram)]
  simp only [h.mem_iff]

/-- If there is one for several globs, there is one for each. -/
theorem automatonProblem?_singleton (h : automatonProblem? globs = none) (hts : ts ∈ globs) :
    automatonProblem? [ts] = none := by
  rw [automatonProblem?_eq_none_iff] at h ⊢
  exact ⟨List.forall_mem_singleton.mpr (h.1 ts hts),
    Regex.fitsLimit_singleton h.2 (List.mem_map_of_mem hts)⟩

/-- Globs can be used together if each that needs an extension can be used alone, and those that are
matched by their pattern alone fit into one automaton. -/
theorem combinationProblem?_eq_none_iff : combinationProblem? globs = none ↔
    (∀ ts ∈ globs, (Strategy.ofTokens ts).needsExtension = true → automatonProblem? [ts] = none) ∧
      automatonProblem? (globs.filter fun ts => Strategy.ofTokens ts == .pattern) = none := by
  unfold combinationProblem?
  rw [Option.or_eq_none_iff, List.findSome?_eq_none_iff]
  simp only [List.mem_filter, and_imp]

/-- **The order of globs does not matter.** -/
theorem combinationProblem?_perm (h : globs.Perm globs') :
    combinationProblem? globs = none ↔ combinationProblem? globs' = none := by
  rw [combinationProblem?_eq_none_iff, combinationProblem?_eq_none_iff,
    automatonProblem?_perm (h.filter _)]
  simp only [h.mem_iff]

theorem automatonProblem?_nil : automatonProblem? [] = none := by decide +kernel

/-- A glob alone has one automaton or none. -/
theorem combinationProblem?_of_automaton (h : automatonProblem? [ts] = none) :
    combinationProblem? [ts] = none := by
  rw [combinationProblem?_eq_none_iff]
  refine ⟨List.forall_mem_singleton.mpr fun _ => h, ?_⟩
  rw [List.filter_singleton]
  cases Strategy.ofTokens ts == .pattern with
  | true => exact h
  | false => exact automatonProblem?_nil

/-- **A glob that can be used with others can be used alone.** -/
theorem combinationProblem?_singleton (h : combinationProblem? globs = none) (hts : ts ∈ globs) :
    combinationProblem? [ts] = none := by
  rw [combinationProblem?_eq_none_iff] at h ⊢
  refine ⟨List.forall_mem_singleton.mpr (h.1 ts hts), ?_⟩
  rw [List.filter_singleton]
  cases hpattern : Strategy.ofTokens ts == .pattern with
  | true => exact automatonProblem?_singleton h.2 (List.mem_filter.mpr ⟨hts, hpattern⟩)
  | false => exact automatonProblem?_nil

end Glob

/-! ## §3. Globs as they are written. -/

namespace PathGlobs

/-- Whether globs as written can be used together does not depend on their order. -/
theorem isNone_combinationProblem?_perm {ws ws' : List String} (h : ws.Perm ws') :
    (combinationProblem? ws).isNone = (combinationProblem? ws').isNone := by
  rw [Bool.eq_iff_iff, Option.isNone_iff_eq_none, Option.isNone_iff_eq_none]
  exact Glob.combinationProblem?_perm (h.filterMap _)

/-- What can be put together with other globs can be put together alone. -/
theorem ofGlobs_singleton {gs : PathGlobs} {g : PathGlob} (h : g ∈ gs.globs) :
    ∃ gs', ofGlobs [g] = .ok gs' ∧ gs'.globs = [g] := by
  have hcombined := Glob.combinationProblem?_singleton gs.combined
    (List.mem_map_of_mem (f := fun g => g.glob.tokens) h)
  exact ⟨⟨[g], hcombined⟩, ofGlobs_eq_ok_iff.mpr rfl, rfl⟩

end PathGlobs
end PullTriage
