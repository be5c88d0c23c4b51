import PullTriage.Proofs.GlobSizes

/-!
  PullTriage.Proofs.LargeGlobSets: globs that are accepted one by one and refused as a set.

  A glob of `n` question marks is well formed, and its automaton is small.  But the automaton of `k` such
  globs takes 72 bytes for each of their question marks, so it passes the limit when there are many:

      sizeLimit < k * (n * 72)   →   the set of k globs of n question marks is refused

  The error names all of the globs, as none of them is to blame.

  Layers:
    * §1: rows of `?`;
    * §2: globs of question marks as they are written.
-/

namespace PullTriage

namespace Glob

open Regex (Program Direction)

/-! ## §1. Rows of `?`. -/

/-- A row of `?` is matched by its pattern. -/
theorem ofTokens_anys (n : Nat) :
    Strategy.ofTokens (List.replicate (n + 1) .any) = .pattern := by
  have hliterals : ∀ rest, literals? (.any :: rest) = none := fun _ => rfl
  have hlast : (List.replicate (n + 1) Token.any).getLast? = some .any := by
    rw [List.getLast?_replicate, if_neg (Nat.succ_ne_zero n)]
  have hreverse : (List.replicate (n + 1) Token.any).reverse = .any :: List.replicate n .any := by
    rw [List.reverse_replicate]
    rfl
  unfold Strategy.ofTokens beginning? requiredExtension?
  rw [hlast, hreverse]
  rfl

theorem isGroup_anys (n : Nat) : ∀ t ∈ List.replicate n Token.any, t.isGroup = false :=
  fun _ ht => (List.eq_of_mem_replicate ht) ▸ rfl

/-- Each `?` takes two states, one of which lists a range. -/
theorem rowSize_anys (direction : Direction) (n : Nat) :
    Program.rowSize .bytes direction (tokenPrograms (List.replicate n .any)) = n * 72 := by
  induction n with
  | zero => exact (Nat.zero_mul 72).symm
  | succ n ih =>
      rw [List.replicate_succ, Nat.succ_mul, ← ih]
      exact Nat.add_comm _ _

/-- The whole glob has two states more. -/
theorem size_globProgram_anys (direction : Direction) (n : Nat) :
    (globProgram (List.replicate n .any)).size .bytes direction = n * 72 + 64 := by
  have hprogram : globProgram (List.replicate n .any) =
      .concatOf (.look .textStart :: tokenPrograms (List.replicate n .any) ++ [.look .textEnd]) := by
    cases n with
    | zero => rfl
    | succ n => rfl
  rw [hprogram, size_between direction (isEmpty_tokenPrograms (isGroup_anys n)), rowSize_anys]

/-- **Globs of `?` are too large together when there are enough of them.** -/
theorem combinationProblem?_anys {k n : Nat} (hlarge : sizeLimit < k * (n * 72)) :
    combinationProblem? (List.replicate k (List.replicate n .any)) = some .tooLarge := by
  obtain ⟨n, rfl⟩ : ∃ m, n = m + 1 := by
    refine Nat.exists_eq_succ_of_ne_zero ?_
    rintro rfl
    exact absurd hlarge (by simp)
  -- all of the globs enter the automaton, and none of them nests
  have hpattern : ∀ ts ∈ List.replicate k (List.replicate (n + 1) Token.any),
      Strategy.ofTokens ts = .pattern := by
    intro ts hts
    rw [List.eq_of_mem_replicate hts, ofTokens_anys]
  have hdeep : (List.replicate k (List.replicate (n + 1) Token.any)).findIdx? isTooDeep = none := by
    refine List.findIdx?_eq_none_iff.mpr fun ts hts => decide_eq_false ?_
    rw [List.eq_of_mem_replicate hts]
    have hnesting := tokensNesting_le (isGroup_anys (n + 1))
    show ¬250 < tokensNesting _ + 1
    omega
  -- side by side they take at least what their question marks take
  have hsize : sizeLimit < Regex.automatonSize .bytes .forward
      ((List.replicate k (List.replicate (n + 1) Token.any)).map globProgram) := by
    refine Nat.lt_of_lt_of_le ?_ (Nat.le_add_left _ _)
    refine Nat.lt_of_lt_of_le ?_ (Regex.total_le_sideBySideSize _)
    rw [List.map_replicate, List.map_replicate, Regex.total_replicate, Program.patternSize_eq,
      size_globProgram_anys]
    exact Nat.lt_of_lt_of_le hlarge (Nat.mul_le_mul_left k (by omega))
  unfold combinationProblem?
  rw [List.filter_eq_nil_iff.mpr fun ts hts => by rw [hpattern ts hts]; exact Bool.false_ne_true,
    List.filter_eq_self.mpr fun ts hts => by rw [hpattern ts hts]; rfl]
  show automatonProblem? _ = some .tooLarge
  unfold automatonProblem? Regex.fitsLimit
  rw [hdeep, decide_eq_false (Nat.not_le.mpr hsize)]
  rfl

/-- A glob that is answered by comparing parts of the path adds nothing. -/
theorem combinationProblem?_cons {ts : List Token} {globs : List (List Token)}
    (hpattern : (Strategy.ofTokens ts == .pattern) = false)
    (hextension : (Strategy.ofTokens ts).needsExtension = false) :
    combinationProblem? (ts :: globs) = combinationProblem? globs := by
  unfold combinationProblem?
  rw [List.filter_cons_of_neg (by rw [hextension]; exact Bool.false_ne_true),
    List.filter_cons_of_neg (by rw [hpattern]; exact Bool.false_ne_true)]

theorem rowBound_anys (n : Nat) : rowBound (List.replicate n .any) = n * 72 := by
  unfold rowBound
  rw [List.map_replicate, Regex.total_replicate]
  rfl

/-! ## §2. Globs of question marks. -/

/-- Question marks are read one by one. -/
theorem readTokens_anys (n : Nat) (s : State) : ∃ s', readTokens s (List.replicate n '?') = .ok s' ∧
    s'.outer = s.outer ∧ s'.level.current = List.replicate n .any ++ s.level.current := by
  induction n generalizing s with
  | zero => exact ⟨s, readTokens.eq_1 s, rfl, rfl⟩
  | succ n ih =>
      obtain ⟨s', hread, houter, hcurrent⟩ := ih (s.push .any '?')
      refine ⟨s', ?_, houter, ?_⟩
      · rw [List.replicate_succ, readTokens.eq_2]
        exact hread
      · rw [hcurrent, List.replicate_succ', List.append_assoc]
        rfl

/-- A glob of question marks is read to a row of `?`. -/
theorem read_anys (n : Nat) : Token.read (List.replicate n '?') = .ok (List.replicate n .any) := by
  obtain ⟨s, hread, houter, hcurrent⟩ := readTokens_anys n .initial
  unfold Token.read
  rw [hread]
  dsimp only
  rw [houter, hcurrent]
  show Except.ok (List.replicate n Token.any ++ []).reverse = _
  rw [List.append_nil, List.reverse_replicate]

end Glob

open Glob

/-- A glob of question marks. -/
def questionMarks (n : Nat) : String := String.ofList (List.replicate n '?')

/-- It is as long as it has question marks. -/
theorem utf8ByteSize_questionMarks (n : Nat) : (questionMarks n).utf8ByteSize = n := by
  induction n with
  | zero => rfl
  | succ n ih =>
      unfold questionMarks at *
      rw [List.replicate_succ, utf8ByteSize_ofList_cons, ih, Nat.add_comm]
      rfl

section QuestionMarks

variable {n : Nat} (hn : n ≤ 4096)

include hn

/-- A glob of question marks is accepted. -/
theorem PathGlob.compile_questionMarks : PathGlob.compile (questionMarks n) =
    .ok ⟨List.replicate n .any, .ofTokens (List.replicate n .any)⟩ := by
  have hfree : (List.replicate n '?').any isBrace = false := by
    rw [List.any_eq_false]
    intro c hc
    rw [List.eq_of_mem_replicate hc]
    decide
  have hbraces : literalBraces (questionMarks n).toList = List.replicate n '?' := by
    unfold questionMarks
    rw [String.toList_ofList]
    exact braces_of_braceFree.1 _ hfree
  unfold PathGlob.compile
  rw [if_neg (by rw [utf8ByteSize_questionMarks]; exact Nat.not_lt.mpr hn), hbraces, read_anys]

theorem PathGlob.tokens?_questionMarks :
    PathGlob.tokens? (questionMarks n) = some (List.replicate n .any) := by
  unfold PathGlob.tokens?
  rw [PathGlob.compile_questionMarks hn]
  rfl

/-- A glob of question marks can be used alone. -/
theorem PathGlobs.exists_ofStrings_questionMarks :
    ∃ gs, PathGlobs.ofStrings [questionMarks n] = .ok gs := by
  have hbound : rowBound (List.replicate n .any) ≤ 10000000 := by
    rw [rowBound_anys]
    omega
  have halone : PathGlobs.combinationProblem? [questionMarks n] = none := by
    unfold PathGlobs.combinationProblem?
    rw [List.filterMap_cons_some (PathGlob.tokens?_questionMarks hn), List.filterMap_nil]
    exact combinationProblem?_of_flat (isGroup_anys n) hbound
  have hone : ([questionMarks n].all fun w => (PathGlob.compile w).isOk) = true := by
    rw [List.all_cons, PathGlob.compile_questionMarks hn]
    rfl
  rw [← except_isOk_iff, PathGlobs.isOk_ofStrings, hone, halone]
  rfl

/-- **Many globs of question marks cannot be used together.** -/
theorem PathGlobs.combinationProblem?_questionMarks {k : Nat} (hlarge : sizeLimit < k * (n * 72)) :
    PathGlobs.combinationProblem? (List.replicate k (questionMarks n)) = some .tooLarge := by
  have htokens : (List.replicate k (questionMarks n)).filterMap PathGlob.tokens? =
      List.replicate k (List.replicate n .any) := by
    rw [List.filterMap_replicate_of_some (PathGlob.tokens?_questionMarks hn)]
  unfold PathGlobs.combinationProblem?
  rw [htokens]
  exact combinationProblem?_anys hlarge

omit hn in
/-- A glob that is answered by comparing parts of the path adds nothing to a set. -/
theorem PathGlobs.combinationProblem?_cons {written : String} {ts : List Token}
    (htokens : PathGlob.tokens? written = some ts)
    (hpattern : (Strategy.ofTokens ts == .pattern) = false)
    (hextension : (Strategy.ofTokens ts).needsExtension = false) (others : List String) :
    PathGlobs.combinationProblem? (written :: others) = PathGlobs.combinationProblem? others := by
  unfold PathGlobs.combinationProblem?
  rw [List.filterMap_cons_some htokens, Glob.combinationProblem?_cons hpattern hextension]

/-- The error names all the globs of a set that is too large. -/
theorem PathGlobs.ofStrings_questionMarks {k : Nat} (hlarge : sizeLimit < k * (n * 72)) :
    PathGlobs.ofStrings (List.replicate k (questionMarks n)) =
      .error (.invalidGlob (", ".intercalate (List.replicate k (questionMarks n)))
        "error building NFA") := by
  refine PathGlobs.ofStrings_of_problem (p := .tooLarge) (List.all_eq_true.mpr fun w hw => ?_)
    (PathGlobs.combinationProblem?_questionMarks hn hlarge)
  rw [List.eq_of_mem_replicate hw, PathGlob.compile_questionMarks hn]
  rfl

end QuestionMarks

end PullTriage
