import PullTriage.Proofs.CombinedGlobs
import PullTriage.Proofs.GlobReading

/-!
  PullTriage.Proofs.GlobSizes: how large the automaton of a glob is.

  The program of a glob is a row of small programs, one for each token, and simplifying a row does not
  change its size.  A token without branches takes at most 160 bytes for each character that it is
  written with, so the automaton of a glob without groups stays below the limit by far; it also nests no
  deeper than four.

  Layers:
    * §1: rows of programs;
    * §2: the program of a token;
    * §3: globs without groups;
    * §4: what is read of a glob without plain braces.

  Main statement: `combinationProblem?_of_read`.
-/

namespace PullTriage

/-! ## §1. Rows of programs. -/

namespace Regex.Program

variable (alphabet : Alphabet) (direction : Direction)

/-- The size of programs one after the other. -/
def rowSize (ps : List Program) : Nat := total (sizes alphabet direction ps)

theorem rowSize_cons (p : Program) (ps : List Program) : rowSize alphabet direction (p :: ps) =
    p.size alphabet direction + rowSize alphabet direction ps := rfl

theorem rowSize_append (ps qs : List Program) : rowSize alphabet direction (ps ++ qs) =
    rowSize alphabet direction ps + rowSize alphabet direction qs := by
  induction ps with
  | nil => exact (Nat.zero_add _).symm
  | cons p ps ih => rw [List.cons_append, rowSize_cons, rowSize_cons, ih, Nat.add_assoc]

/-- A literal takes one state for each of its bytes. -/
theorem size_literal (symbols : List Nat) : (literal symbols).size alphabet direction =
    stateSize * (symbols.flatMap alphabet.encode).length := rfl

/-- The parts of a row take as much space as the row. -/
theorem rowSize_parts (p : Program) :
    rowSize alphabet direction p.parts = p.size alphabet direction := by
  cases p with
  | concat ps => rfl
  | _ => exact Nat.add_zero _

/-- Rows inside a row may be written out. -/
theorem rowSize_flatMap_parts (ps : List Program) :
    rowSize alphabet direction (ps.flatMap parts) = rowSize alphabet direction ps := by
  induction ps with
  | nil => rfl
  | cons p ps ih => rw [List.flatMap_cons, rowSize_append, rowSize_parts, rowSize_cons, ih]

/-- Two literals take as much space as one. -/
theorem rowSize_joinLiterals (ps : List Program) :
    rowSize alphabet direction (joinLiterals ps) = rowSize alphabet direction ps := by
  fun_induction joinLiterals ps with
  | case1 => rfl
  | case2 a rest b others heq ih =>
      rw [heq] at ih
      rw [rowSize_cons, rowSize_cons, ← ih, rowSize_cons, size_literal, size_literal, size_literal,
        List.flatMap_append, List.length_append, Nat.mul_add, Nat.add_assoc]
  | case3 a rest _ ih => rw [rowSize_cons, rowSize_cons, ih]
  | case4 p rest _ ih => rw [rowSize_cons, rowSize_cons, ih]

/-- A row of programs that say something takes as much space as they do. -/
theorem size_concatOf {ps : List Program} (hne : ps ≠ []) (h : ∀ p ∈ ps, p.isEmpty = false) :
    (concatOf ps).size alphabet direction = rowSize alphabet direction ps := by
  have hfilter : (ps.filter fun p => !p.isEmpty) = ps :=
    List.filter_eq_self.mpr fun p hp => by rw [h p hp]; rfl
  unfold concatOf
  rw [hfilter]
  match ps, hne with
  | [p], _ => exact (Nat.add_zero _).symm
  | p :: q :: ps, _ =>
      rw [← rowSize_flatMap_parts, ← rowSize_joinLiterals]
      dsimp only
      split
      case h_1 r heq =>
        rw [heq]
        exact (Nat.add_zero _).symm
      case h_2 => rfl

/-- A pattern in an automaton takes little more than its program. -/
theorem patternSize_eq (p : Program) : patternSize alphabet direction p =
    p.size alphabet direction + if direction = .forward then 96 else 32 := by
  cases direction <;> rfl

/-- An automaton of one pattern is little larger than its program. -/
theorem automatonSize_singleton_le_size (p : Program) :
    automatonSize alphabet direction [p] ≤ p.size alphabet direction + 208 := by
  have hstart : ∀ anchored, startSize anchored ≤ 112 := by decide
  have hpattern : patternSize alphabet direction p ≤ p.size alphabet direction + 96 := by
    rw [patternSize_eq]
    split <;> omega
  exact Nat.le_trans (Nat.add_le_add (hstart _) hpattern) (by omega)

end Regex.Program

/-! ## §2. The program of a token. -/

namespace Glob

open Regex (Program Direction)
open Unicode (Ranges)

/-- Whether a token has branches. -/
def Token.isGroup : Token → Bool
  | .alternatives _ => true
  | _ => false

/-- The most that the program of a token without branches takes. -/
def Token.sizeBound : Token → Nat
  | .literal _ => 128
  | .any => 72
  | .anyRun => 112
  | .directoriesFirst => 320
  | .directoriesLast => 144
  | .directoriesBetween => 280
  | .oneOf _ ranges => 72 + 56 * ranges.length
  | .alternatives _ => 0

/-- Inserting a range adds one at most. -/
theorem length_insert_le (r : Nat × Nat) (a : Ranges) : (Ranges.insert r a).length ≤ a.length + 1 := by
  fun_induction Ranges.insert r a with
  | case1 => exact Nat.le_refl 1
  | case2 => exact Nat.le_refl _
  | case3 r s rest _ _ ih => exact Nat.succ_le_succ ih
  | case4 r s rest _ _ ih => exact Nat.le_trans ih (Nat.le_succ _)

/-- Two sets together have no more ranges than both have. -/
theorem length_union_le (a b : Ranges) : (Ranges.union a b).length ≤ a.length + b.length := by
  induction a with
  | nil => exact Nat.le_add_left _ _
  | cons r a ih =>
      show (Ranges.insert r (Ranges.union a b)).length ≤ _
      have hinsert := length_insert_le r (Ranges.union a b)
      rw [List.length_cons]
      omega

/-- Between some ranges there is at most one gap more. -/
theorem length_gaps_le (last : Nat) (a : Ranges) :
    ∀ low, (Ranges.gaps last low a).length ≤ a.length + 1 := by
  induction a with
  | nil =>
      intro low
      unfold Ranges.gaps
      split
      · exact Nat.le_refl 1
      · exact Nat.zero_le 1
  | cons r a ih =>
      intro low
      unfold Ranges.gaps
      have hrest := ih (r.2 + 1)
      split
      · exact Nat.succ_le_succ hrest
      · exact Nat.le_succ_of_le hrest

/-- A character has four bytes at most. -/
theorem length_charBytes_le (c : Char) : (charBytes c).length ≤ 4 := by
  unfold charBytes
  rw [List.length_map, String.length_utf8EncodeChar]
  exact c.utf8Size_le_four

/-- A range of characters makes seven ranges of bytes at most. -/
theorem length_byteRanges_le (low high : Char) : (byteRanges low high).length ≤ 7 := by
  have hlow := length_charBytes_le low
  have hhigh := length_charBytes_le high
  unfold byteRanges
  split
  · rw [List.length_map]
    omega
  · simp only [List.length_append, List.length_map, List.length_dropLast, List.length_tail,
      List.length_singleton]
    omega

/-- The ranges of bytes of a class, negated or not. -/
theorem length_classBytes_le (negated : Bool) (ranges : List (Char × Char)) :
    (classBytes negated ranges).length ≤ 7 * ranges.length + 1 := by
  have hbytes : (ranges.flatMap fun r => byteRanges r.1 r.2).length ≤ 7 * ranges.length := by
    induction ranges with
    | nil => exact Nat.le_refl 0
    | cons r ranges ih =>
        have hr := length_byteRanges_le r.1 r.2
        rw [List.flatMap_cons, List.length_append, List.length_cons]
        omega
  have hunion := length_union_le (ranges.flatMap fun r => byteRanges r.1 r.2) []
  rw [List.length_nil, Nat.add_zero] at hunion
  unfold classBytes
  dsimp only
  split
  · exact Nat.le_trans (length_gaps_le _ _ 0) (by omega)
  · omega

/-- A class of bytes takes two states, the first of which lists its ranges. -/
theorem size_ofRanges_le (direction : Direction) (a : Ranges) :
    (Program.ofRanges a).size .bytes direction ≤ 64 + 8 * a.length := by
  have hclass : (Program.oneOf a).size .bytes direction = 64 + 8 * a.length := by
    show 32 + 8 * a.length + 32 = _
    omega
  unfold Program.ofRanges
  split
  case h_1 low high =>
    split
    · exact Nat.le_trans (by decide : 32 ≤ 72) (Nat.le_refl 72)
    · exact Nat.le_of_eq hclass
  case h_2 => exact Nat.le_of_eq hclass

/-- **The size of a token.** -/
theorem size_tokenProgram_le (direction : Direction) {t : Token} (h : t.isGroup = false) :
    (tokenProgram t).size .bytes direction ≤ t.sizeBound := by
  cases t with
  | literal c =>
      have hbytes := length_charBytes_le c
      have hencode : (charBytes c).flatMap Regex.Alphabet.bytes.encode = charBytes c :=
        List.flatMap_singleton' _
      show 32 * ((charBytes c).flatMap Regex.Alphabet.bytes.encode).length ≤ 128
      rw [hencode]
      omega
  | oneOf negated ranges =>
      have hlength := length_classBytes_le negated ranges
      refine Nat.le_trans (size_ofRanges_le direction _) ?_
      show _ ≤ 72 + 56 * ranges.length
      omega
  | alternatives => cases h
  | any | anyRun | directoriesFirst | directoriesLast | directoriesBetween =>
      cases direction <;> decide +kernel

/-- The program of a token without branches says something. -/
theorem isEmpty_tokenProgram {t : Token} (h : t.isGroup = false) : (tokenProgram t).isEmpty = false := by
  cases t with
  | oneOf negated ranges =>
      show (Program.ofRanges _).isEmpty = false
      unfold Program.ofRanges
      split
      · split <;> rfl
      · rfl
  | alternatives => cases h
  | _ => rfl

/-- A token without branches nests four levels at most. -/
theorem nesting_le {t : Token} (h : t.isGroup = false) : t.nesting ≤ 4 := by
  cases t with
  | oneOf negated ranges =>
      show (if _ then 2 else 1) ≤ 4
      split <;> decide
  | alternatives => cases h
  | literal => exact Nat.zero_le 4
  | any | anyRun | directoriesFirst | directoriesLast | directoriesBetween => decide

/-! ## §3. Globs without groups. -/

/-- The most that the programs of tokens without branches take. -/
def rowBound (ts : List Token) : Nat := Regex.total (ts.map Token.sizeBound)

section Flat

variable {ts : List Token} (h : ∀ t ∈ ts, t.isGroup = false)

include h

/-- The programs of tokens take no more than the tokens may. -/
theorem rowSize_tokenPrograms_le (direction : Direction) :
    Program.rowSize .bytes direction (tokenPrograms ts) ≤ rowBound ts := by
  induction ts with
  | nil => exact Nat.le_refl 0
  | cons t ts ih =>
      obtain ⟨ht, hts⟩ := List.forall_mem_cons.mp h
      exact Nat.add_le_add (size_tokenProgram_le direction ht) (ih hts)

/-- None of them is empty. -/
theorem isEmpty_tokenPrograms : ∀ p ∈ tokenPrograms ts, p.isEmpty = false := by
  induction ts with
  | nil => exact fun _ hp => nomatch hp
  | cons t ts ih =>
      obtain ⟨ht, hts⟩ := List.forall_mem_cons.mp h
      exact List.forall_mem_cons.mpr ⟨isEmpty_tokenProgram ht, ih hts⟩

/-- Nor does a row of tokens without branches nest deeper than four levels. -/
theorem tokensNesting_le : tokensNesting ts ≤ 4 := by
  induction ts with
  | nil => exact Nat.zero_le 4
  | cons t ts ih =>
      obtain ⟨ht, hts⟩ := List.forall_mem_cons.mp h
      exact Nat.max_le.mpr ⟨nesting_le ht, ih hts⟩

omit h in
/-- A program between the ends of a path. -/
theorem size_between (direction : Direction) {ps : List Program}
    (hps : ∀ p ∈ ps, p.isEmpty = false) :
    (Program.concatOf (.look .textStart :: ps ++ [.look .textEnd])).size .bytes direction =
      Program.rowSize .bytes direction ps + 64 := by
  rw [Program.size_concatOf _ _ (by simp), Program.rowSize_append, Program.rowSize_cons]
  · show 32 + Program.rowSize .bytes direction ps + 32 = _
    omega
  · intro p hp
    rcases List.mem_append.mp hp with hp | hp
    · rcases List.mem_cons.mp hp with rfl | hp
      · rfl
      · exact hps p hp
    · rw [List.mem_singleton.mp hp]
      rfl

/-- A glob takes as much as its tokens, and two states for the ends of the path. -/
theorem size_globProgram_le (direction : Direction) :
    (globProgram ts).size .bytes direction ≤ rowBound ts + 64 := by
  unfold globProgram
  dsimp only
  split
  case h_1 => cases direction <;> decide +kernel
  case h_2 =>
    rw [size_between direction (isEmpty_tokenPrograms h)]
    exact Nat.add_le_add_right (rowSize_tokenPrograms_le h direction) 64

/-- **A glob without groups that is not too large can be used alone.** -/
theorem combinationProblem?_of_flat (hbound : rowBound ts ≤ 10000000) :
    combinationProblem? [ts] = none := by
  refine combinationProblem?_of_automaton (automatonProblem?_eq_none_iff.mpr ⟨?_, ?_⟩)
  · refine List.forall_mem_singleton.mpr (decide_eq_false ?_)
    have hnesting := tokensNesting_le h
    show ¬250 < tokensNesting ts + 1
    omega
  · have hsize : ∀ direction, Regex.automatonSize .bytes direction [globProgram ts] ≤ sizeLimit := by
      intro direction
      have hautomaton := Program.automatonSize_singleton_le_size .bytes direction (globProgram ts)
      have hglob := size_globProgram_le h direction
      unfold sizeLimit
      omega
    unfold Regex.fitsLimit
    rw [List.map_singleton, decide_eq_true (hsize .forward), decide_eq_true (hsize .backward)]
    rfl

end Flat

/-! ## §4. Reading. -/

/-- A character adds one range at most to a class in progress. -/
theorem ClassState.length_ranges_add {k k' : ClassState} {c : Char} (h : k.add c = .ok k') :
    k'.ranges.length ≤ k.ranges.length + 1 := by
  unfold add at h
  split at h
  case h_1 low high rest _ heq =>
    split at h
    case isTrue => cases h
    case isFalse =>
      rw [← Except.ok.inj h, heq]
      exact Nat.le_succ _
  case h_2 =>
    rw [← Except.ok.inj h]
    exact Nat.le_refl _

/-- So does a member, a hyphen included. -/
theorem ClassState.length_ranges_member {k k' : ClassState} {c : Char} (h : k.member c = .ok k') :
    k'.ranges.length ≤ k.ranges.length + 1 := by
  unfold member at h
  split at h
  case isTrue =>
    unfold hyphen at h
    split at h
    case isTrue => exact length_ranges_add h
    case isFalse =>
      rw [← Except.ok.inj h]
      exact Nat.le_succ _
  case isFalse => exact length_ranges_add h

/-- Reading members, a class gets at most one range for each of them. -/
theorem ClassState.length_ranges_foldlM {members : List Char} :
    ∀ {k k' : ClassState}, members.foldlM ClassState.member k = .ok k' →
      k'.ranges.length ≤ k.ranges.length + members.length := by
  induction members with
  | nil =>
      intro k k' h
      rw [← Except.ok.inj h]
      exact Nat.le_refl _
  | cons c members ih =>
      intro k k' h
      rw [List.foldlM_cons] at h
      cases hc : k.member c with
      | error e => rw [hc] at h; cases h
      | ok k₁ =>
          rw [hc] at h
          have hrest := ih (show members.foldlM ClassState.member k₁ = .ok k' from h)
          have hfirst := length_ranges_member hc
          rw [List.length_cons]
          omega

/-- A finished class has at most one range more, for a hyphen at its end. -/
theorem ClassState.sizeBound_close (k : ClassState) :
    k.close.isGroup = false ∧ k.close.sizeBound ≤ 128 + 56 * k.ranges.length := by
  refine ⟨rfl, ?_⟩
  show 72 + 56 * (if k.afterHyphen then ('-', '-') :: k.ranges else k.ranges).reverse.length ≤ _
  rw [List.length_reverse]
  split
  · rw [List.length_cons]
    omega
  · omega

/-- A piece is read to a token without branches that takes 160 bytes at most for each character. -/
theorem Piece.sizeBound_token {p : Piece} {t : Token} (h : p.token = .ok t) :
    t.isGroup = false ∧ t.sizeBound ≤ 160 * p.text.length := by
  cases p with
  | plain c =>
      obtain rfl := Except.ok.inj h
      split
      · exact ⟨rfl, (by decide : 72 ≤ 160)⟩
      · split
        · exact ⟨rfl, (by decide : 112 ≤ 160)⟩
        · exact ⟨rfl, (by decide : 128 ≤ 160)⟩
  | escaped c =>
      obtain rfl := Except.ok.inj h
      exact ⟨rfl, (by decide : 128 ≤ 320)⟩
  | bracket mark members =>
      obtain ⟨k, hclass, rfl⟩ := exists_of_token_bracket h
      obtain ⟨hflat, hbound⟩ := k.sizeBound_close
      have hranges := ClassState.length_ranges_foldlM hclass
      rw [List.length_nil, Nat.zero_add] at hranges
      refine ⟨hflat, ?_⟩
      simp only [text, List.length_cons, List.length_append, List.length_nil]
      omega

/-- The tokens that were read have no branches, and their programs take `n` bytes at most. -/
structure State.IsFlat (s : State) (n : Nat) : Prop where
  flat : ∀ t ∈ s.level.current, t.isGroup = false
  bound : rowBound s.level.current ≤ n

namespace State.IsFlat

variable {s : State} {n : Nat} (h : s.IsFlat n)

include h

/-- A token that is added takes what it may. -/
theorem push {t : Token} (ht : t.isGroup = false) (c : Char) :
    (s.push t c).IsFlat (t.sizeBound + n) where
  flat := List.forall_mem_cons.mpr ⟨ht, h.flat⟩
  bound := Nat.add_le_add_left h.bound _

/-- So does a token that takes the place of the last one. -/
theorem replaceLast {t : Token} (ht : t.isGroup = false) (c : Char) :
    (s.replaceLast t c).IsFlat (t.sizeBound + n) := by
  have hsame : (⟨s.level, s.outer, some c⟩ : State).IsFlat (t.sizeBound + n) :=
    ⟨h.flat, Nat.le_trans h.bound (Nat.le_add_left _ _)⟩
  unfold State.replaceLast
  split
  case h_1 => exact hsame
  case h_2 => exact hsame
  case h_3 u rest _ _ hcurrent =>
    -- the token that is replaced took some bytes, too
    obtain ⟨hflat, hbound⟩ := h
    rw [hcurrent] at hflat hbound
    have hrest : rowBound rest ≤ n := Nat.le_trans (Nat.le_add_left _ _) hbound
    exact ⟨List.forall_mem_cons.mpr ⟨ht, (List.forall_mem_cons.mp hflat).2⟩,
      Nat.add_le_add_left hrest _⟩
  case h_4 => exact h.push ht c

/-- The bound may be larger than it has to be. -/
theorem mono {m : Nat} (hm : n ≤ m) : s.IsFlat m := ⟨h.flat, Nat.le_trans h.bound hm⟩

theorem pushTwoRuns : s.pushTwoRuns.IsFlat (224 + n) := by
  have htwo := (h.push (t := .anyRun) rfl '*').push (t := .anyRun) rfl '*'
  exact htwo.mono (by show 112 + (112 + n) ≤ _; omega)

theorem enterDirectories : s.enterDirectories.IsFlat (320 + n) := by
  unfold State.enterDirectories
  split
  · exact h.push rfl '/'
  · exact (h.replaceLast (t := .directoriesBetween) rfl '/').mono
      (Nat.add_le_add_right (by decide : 280 ≤ 320) n)

theorem endDirectories : s.endDirectories.IsFlat (320 + n) := by
  unfold State.endDirectories
  split
  · exact h.push rfl '*'
  · exact (h.replaceLast (t := .directoriesLast) rfl '*').mono
      (Nat.add_le_add_right (by decide : 144 ≤ 320) n)

end State.IsFlat

/-- **A run over pieces adds 160 bytes at most for each of their characters.** -/
theorem Reads.isFlat {s s' : State} {ps : List Piece} (h : Reads s ps s') {n : Nat}
    (hs : s.IsFlat n) : s'.IsFlat (160 * (ps.flatMap Piece.text).length + n) := by
  induction h generalizing n with
  | done => exact hs.mono (Nat.le_add_left _ _)
  | @piece s p ps t s' token single rest ih =>
      obtain ⟨hflat, hbound⟩ := Piece.sizeBound_token token
      refine (ih (hs.push hflat p.last)).mono ?_
      rw [List.flatMap_cons, List.length_append]
      omega
  | @runs s ps s' inside rest ih =>
      refine (ih hs.pushTwoRuns).mono ?_
      simp only [List.flatMap_cons, Piece.text, List.length_append, List.length_singleton]
      omega
  | @enter s ps s' fresh rest ih =>
      refine (ih hs.enterDirectories).mono ?_
      simp only [List.flatMap_cons, Piece.text, List.length_append, List.length_singleton]
      omega
  | finish fresh => exact hs.endDirectories

/-- **A glob without plain braces can be used alone.** -/
theorem combinationProblem?_of_read {c : Cut} {ts : List Token} (hrest : Unfinished c.rest)
    (hpieces : ∀ p ∈ c.pieces, p.WellFormed ∧ ∀ d, p = .plain d → isBrace d = false)
    (hlength : c.text.length ≤ 62500) (hread : Token.read c.text = .ok ts) :
    combinationProblem? [ts] = none := by
  have houtcome : Outcome .initial c (readTokens .initial c.text) :=
    outcome_readTokens hrest hpieces rfl
  rcases houtcome with ⟨-, s, hs, houter, hrun⟩ | ⟨-, e, he⟩
  case inr =>
    unfold Token.read at hread
    rw [he] at hread
    cases hread
  case inl =>
    unfold Token.read at hread
    rw [hs] at hread
    simp only [houter, List.isEmpty_nil, if_true] at hread
    obtain rfl := Except.ok.inj hread
    -- no token is a group, and no token costs more than the text it was read from
    have hinitial : State.initial.IsFlat 0 := ⟨List.forall_mem_nil _, Nat.le_refl 0⟩
    obtain ⟨hflat, hbound⟩ := hrun.isFlat hinitial
    have htext : (c.pieces.flatMap Piece.text).length ≤ c.text.length := by
      unfold Cut.text
      rw [List.length_append]
      exact Nat.le_add_right _ _
    refine combinationProblem?_of_flat (fun t ht => hflat t (List.mem_reverse.mp ht)) ?_
    have hreverse : rowBound s.level.current.reverse = rowBound s.level.current :=
      Regex.total_perm ((List.reverse_perm _).map _)
    rw [hreverse]
    omega

end Glob
end PullTriage
