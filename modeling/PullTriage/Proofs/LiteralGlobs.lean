import PullTriage.Proofs.DirectoryGlobs

/-!
  PullTriage.Proofs.LiteralGlobs: a glob without wildcards means itself.

  A glob that holds no star, question mark, bracket or backslash accepts one path, the one that is
  written like it:

      accepts  path   ⇔   path = glob           (the last component of the glob is not `..`)

  Without braces such a glob is compared with the path as a whole.  With braces it is rewritten to one
  with classes, which is matched by its pattern and, if it ends in an extension, by that as well.  Each of
  its pieces still stands for the bytes of one character, and no two texts have the same bytes.

  Layers:
    * §1: a glob that stands for one path, whatever its strategy;
    * §2: pieces without wildcards stand for their bytes in a row;
    * §3: compiled globs.
-/

namespace PullTriage

open Glob

namespace Glob

/-! ## §1. Globs that stand for one path. -/

/-- What a strategy accepts is a word of the glob, also where it asks for the name of the file. -/
theorem Strategy.mem_globWords_of_matches {ts : List Token} {path : List Nat}
    (h : (Strategy.ofTokens ts).matches ts path = true) : path ∈ globWords ts := by
  by_cases hname : lastName path = [0x2E, 0x2E]
  case pos => exact ((matches_ofTokens_of_parent ts hname).mp h).1
  case neg => exact (matches_ofTokens_iff ts hname).mp h

/-- A glob that stands for one path accepts this path, if its last component is not `..`, and no other. -/
theorem Strategy.matches_ofTokens_of_single {ts : List Token} {word : List Nat}
    (hwords : globWords ts = {word}) (hname : lastName word ≠ [0x2E, 0x2E]) (path : List Nat) :
    (Strategy.ofTokens ts).matches ts path = true ↔ path = word := by
  constructor
  case mp =>
    intro h
    have hmem : path ∈ globWords ts := mem_globWords_of_matches h
    rw [hwords] at hmem
    exact hmem
  case mpr =>
    intro h
    rw [h, matches_ofTokens_iff ts hname, hwords]
    rfl

/-! ## §2. Pieces without wildcards. -/

/-- Characters that open no other piece are cut one by one. -/
theorem cut_plain {cs : List Char} (h : ∀ c ∈ cs, c ≠ '\\' ∧ c ≠ '[') :
    cut cs = ⟨cs.map .plain, []⟩ := by
  induction cs with
  | nil => rfl
  | cons c cs ih =>
      obtain ⟨hc, hcs⟩ := List.forall_mem_cons.mp h
      have hpiece : cut (c :: cs) = (cut cs).cons (.plain c) := cut_text_append (p := .plain c) hc cs
      rw [hpiece, ih hcs]
      rfl

theorem classesClose_plain (rest cs : List Char) : classesClose rest (cs.map .plain) = true := by
  induction cs with
  | nil => rfl
  | cons c cs ih => exact ih

theorem isValid_plain (cs : List Char) : (Cut.mk (cs.map .plain) []).isValid = true := by
  show (cs.map Piece.plain).all Piece.isValid = true
  rw [List.all_map, List.all_eq_true]
  exact fun _ _ => rfl

/-- Plain characters that are no wildcards stand for their bytes. -/
theorem accepts_plain {cs : List Char} (h : ∀ c ∈ cs, c ≠ '?' ∧ c ≠ '*') (path : List Nat) :
    (Cut.mk (cs.map .plain) []).Accepts path ↔ path = bytesOf cs := by
  have hspelled : spelled true (cs.map .plain) = {bytesOf cs} := by
    rw [spelled_of_single, List.flatMap_map]
    · rfl
    · intro p hp
      obtain ⟨c, hc, rfl⟩ := List.mem_map.mp hp
      show (if c = '?' then oneByte else if c = '*' then ⊤ else {charBytes c}) = _
      rw [if_neg (h c hc).1, if_neg (h c hc).2]
      rfl
  -- without a star nothing stands for every path
  have honly : ¬((cs.map Piece.plain) ≠ [] ∧ onlyDirectories (cs.map .plain) = true) := by
    rintro ⟨hne, hdirectories⟩
    cases cs with
    | nil => exact hne rfl
    | cons c cs =>
        have hstar : Piece.plain c ≠ .plain '*' := by
          intro heq
          exact (h c List.mem_cons_self).2 (Piece.plain.inj heq)
        rw [List.map_cons, onlyDirectories_piece (absurd · hstar)] at hdirectories
        cases hdirectories
  show (path ∈ spelled true (cs.map .plain) ∨ _) ↔ _
  rw [or_iff_left honly, hspelled]
  rfl

/-- A glob without wildcards is read, and it stands for its own bytes. -/
theorem exists_read_plain {cs : List Char} (h : ∀ c ∈ cs, c ∉ ['*', '?', '[', ']', '\\']) :
    classesClose (cut cs).rest (cut cs).pieces = true ∧
      ∃ ts, Token.read (literalBraces cs) = .ok ts ∧ globWords ts = {bytesOf cs} := by
  have hchars : ∀ c ∈ cs, (c ≠ '\\' ∧ c ≠ '[') ∧ c ≠ '?' ∧ c ≠ '*' := by
    intro c hc
    have hnot := h c hc
    simp only [List.mem_cons, List.not_mem_nil, or_false, not_or] at hnot
    exact ⟨⟨hnot.2.2.2.2, hnot.2.2.1⟩, hnot.2.1, hnot.1⟩
  have hcut : cut cs = ⟨cs.map .plain, []⟩ := cut_plain fun c hc => (hchars c hc).1
  have hclose : classesClose (cut cs).rest (cut cs).pieces = true := by
    rw [hcut]
    exact classesClose_plain [] cs
  obtain ⟨hok, hwords⟩ := read_literalBraces hclose
  rw [hcut, isValid_plain] at hok
  obtain ⟨ts, hts⟩ := except_isOk_iff.mp hok
  refine ⟨hclose, ts, hts, ?_⟩
  ext path
  rw [hwords ts hts, hcut, accepts_plain fun c hc => (hchars c hc).2]
  rfl

end Glob

/-! ## §3. Compiled globs. -/

namespace PathGlobs

/-- **A glob without wildcards accepts itself and nothing else.** -/
theorem accepts_iff_eq {p : String} (hsize : p.utf8ByteSize ≤ 4096)
    (hplain : ∀ c ∈ p.toList, c ∉ ['*', '?', '[', ']', '\\'])
    (hdots : FilePath.lastComponent p.toList.reverse ≠ ['.', '.']) :
    ∃ gs, ofStrings [p] = .ok gs ∧ ∀ path : String, gs.accepts path = true ↔ path = p := by
  obtain ⟨hclose, ts, hread, hwords⟩ := exists_read_plain hplain
  obtain ⟨gs, hgs, haccepts⟩ := exists_of_read hsize hclose hread
  refine ⟨gs, hgs, fun path => ?_⟩
  have hname : lastName (bytesOf p.toList) ≠ [0x2E, 0x2E] := lastName_pathBytes hdots
  rw [haccepts, Strategy.matches_ofTokens_of_single hwords hname]
  show bytesOf path.toList = bytesOf p.toList ↔ _
  rw [bytesOf_injective.eq_iff, String.toList_inj]

/-- Braces that nest and a brace that closes nothing, around a comma, a character of two bytes and a
component `..`; the glob ends in an extension. -/
theorem accepts_iff_eq_braces :
    let p := "\x7ba,\x7bé\x7d/../b\x7d\x7d.x"
    p.utf8ByteSize ≤ 4096 ∧ (∀ c ∈ p.toList, c ∉ ['*', '?', '[', ']', '\\']) ∧
      FilePath.lastComponent p.toList.reverse ≠ ['.', '.'] ∧
      ∃ gs, ofStrings [p] = .ok gs ∧ gs.accepts p = true ∧ gs.accepts "a" = false ∧
        gs.accepts (p ++ "/..") = false := by
  intro p
  have hsize : p.utf8ByteSize ≤ 4096 := by decide
  have hplain : ∀ c ∈ p.toList, c ∉ ['*', '?', '[', ']', '\\'] := by simp [p]
  have hdots : FilePath.lastComponent p.toList.reverse ≠ ['.', '.'] := by
    simp [p, FilePath.lastComponent]
  obtain ⟨gs, hgs, haccepts⟩ := accepts_iff_eq hsize hplain hdots
  refine ⟨hsize, hplain, hdots, gs, hgs, (haccepts p).mpr rfl, ?_, ?_⟩
  · rw [← Bool.not_eq_true, haccepts]
    decide
  · rw [← Bool.not_eq_true, haccepts]
    decide

/-- Where the last component is `..`, a glob with braces asks for an extension that no path has. -/
example : PathGlob.covers "\x7b\x7d/.." "\x7b\x7d/.." = false := by decide +kernel

end PathGlobs
end PullTriage
