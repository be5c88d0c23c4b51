import PullTriage.FilePath
import PullTriage.Proofs.GlobShortcuts
import PullTriage.Proofs.GlobSizes

/-!
  PullTriage.Proofs.LiteralBraces: braces in globs never mean alternation.

  A glob is compiled exactly when it is valid with braces as ordinary characters, and then it matches a
  path exactly as its pieces say.  The rewriting that makes this so leaves the classes of the glob where
  they are and no plain brace behind.  It loses the end of a class that ends in an unpaired backslash,
  so no brace may follow such a class.

  Layers:
    * §1: what compiling reads is the glob with its braces in classes of their own;
    * §2: a compiled glob answers as its pieces say.

  Main statement: `PathGlobs.accepts_iff_pieces`.
-/

namespace PullTriage

open Glob

/-! ## §1. What compiling reads. -/

namespace Glob

/-- A glob with its braces in classes of their own has no plain brace. -/
theorem not_isBrace_of_mem_protect {c : Cut} {p : Piece} (h : p ∈ c.protect.pieces) {d : Char}
    (hd : p = .plain d) : isBrace d = false := by
  obtain ⟨q, -, rfl⟩ := List.mem_map.mp h
  cases q with
  | plain e =>
      by_cases hbrace : isBrace e = true
      · rw [Piece.protect, if_pos hbrace] at hd
        cases hd
      · rw [Piece.protect, if_neg hbrace] at hd
        cases hd
        simpa using hbrace
  | escaped e => cases hd
  | bracket mark members => cases hd

/-- The rewritten glob is read exactly when the glob is valid, and to what its pieces accept. -/
theorem read_literalBraces {glob : List Char}
    (hclose : classesClose (cut glob).rest (cut glob).pieces = true) :
    (Token.read (literalBraces glob)).isOk = (cut glob).isValid ∧
      ∀ ts, Token.read (literalBraces glob) = .ok ts →
        ∀ path, path ∈ globWords ts ↔ (cut glob).Accepts path := by
  have hcut : cut (literalBraces glob) = (cut glob).protect := cut_literalBraces hclose
  obtain ⟨htext, hpieces, hrest⟩ := cut_spec (literalBraces glob)
  rw [hcut] at htext hpieces hrest
  have hread := read_text hrest fun p hp => ⟨hpieces p hp, fun d => not_isBrace_of_mem_protect hp⟩
  rw [htext, isValid_protect] at hread
  obtain ⟨hok, hwords⟩ := hread
  refine ⟨hok, fun ts hts path => ?_⟩
  rw [hwords ts hts path, accepts_protect]

theorem length_text_protect_le (c : Cut) : c.protect.text.length ≤ 3 * c.text.length := by
  have hpiece : ∀ p : Piece, p.protect.text.length ≤ 3 * p.text.length := by
    intro p
    rcases protect_cases p with h | ⟨d, -, rfl, h⟩
    · rw [h]
      omega
    · rw [h]
      exact Nat.le_refl 3
  obtain ⟨ps, rest⟩ := c
  unfold Cut.protect Cut.text
  induction ps with
  | nil => exact Nat.le_mul_of_pos_left _ (by decide)
  | cons p ps ih =>
      have hp := hpiece p
      simp only [List.map_cons, List.flatMap_cons, List.length_append] at ih ⊢
      omega

/-- The rewritten glob is small enough to be used alone. -/
theorem combinationProblem?_literalBraces {glob : List Char}
    (hclose : classesClose (cut glob).rest (cut glob).pieces = true) (hlength : glob.length ≤ 4096)
    {ts : List Token} (hread : Token.read (literalBraces glob) = .ok ts) :
    combinationProblem? [ts] = none := by
  have hcut : cut (literalBraces glob) = (cut glob).protect := cut_literalBraces hclose
  obtain ⟨htext, hpieces, hrest⟩ := cut_spec (literalBraces glob)
  have hlength' := length_text_protect_le (cut glob)
  rw [(cut_spec glob).1] at hlength'
  rw [hcut] at htext hpieces hrest
  rw [← htext] at hread
  refine combinationProblem?_of_read hrest (fun p hp => ⟨hpieces p hp, fun d => ?_⟩) (by omega) hread
  exact not_isBrace_of_mem_protect hp

/-- In a glob without braces no class stands before one. -/
theorem classesClose_of_braceFree {glob : List Char} (h : glob.any isBrace = false) :
    classesClose (cut glob).rest (cut glob).pieces = true := by
  have htext : (cut glob).text.any isBrace = false := by
    rw [(cut_spec glob).1]
    exact h
  generalize cut glob = c at htext
  obtain ⟨ps, rest⟩ := c
  induction ps with
  | nil => rfl
  | cons p ps ih =>
      have hrest : (Cut.text ⟨ps, rest⟩).any isBrace = false := by
        rw [show Cut.text ⟨p :: ps, rest⟩ = p.text ++ Cut.text ⟨ps, rest⟩ from Cut.text_cons p ⟨ps, rest⟩,
          List.any_append, Bool.or_eq_false_iff] at htext
        exact htext.2
      cases p with
      | bracket mark members =>
          show ((isPaired members || !(Cut.text ⟨ps, rest⟩).any isBrace) && classesClose rest ps) = true
          rw [hrest, ih hrest, Bool.not_false, Bool.or_true]
          rfl
      | plain | escaped => exact ih hrest

end Glob

/-! ## §2. Compiled globs. -/

namespace PathGlob

theorem compile_of_size {written : String} (h : written.utf8ByteSize ≤ 4096) :
    compile written = match Token.read (literalBraces written.toList) with
      | .ok tokens => .ok ⟨tokens, .ofTokens tokens⟩
      | .error p => .error (.invalidGlob written p.message) :=
  if_neg (Nat.not_lt.mpr h)

/-- Compiling succeeds exactly for valid globs. -/
theorem isOk_compile {written : String} (hsize : written.utf8ByteSize ≤ 4096)
    (hclose : classesClose (cut written.toList).rest (cut written.toList).pieces = true) :
    (compile written).isOk = (cut written.toList).isValid := by
  rw [compile_of_size hsize, ← (read_literalBraces hclose).1]
  cases Token.read (literalBraces written.toList) <;> rfl

/-- A compiled glob answers as its pieces say. -/
theorem accepts_of_compile {written : String} (hsize : written.utf8ByteSize ≤ 4096)
    (hclose : classesClose (cut written.toList).rest (cut written.toList).pieces = true)
    {g : CompiledGlob} (h : compile written = .ok g) {path : String}
    (hpath : FilePath.lastComponent path.toList.reverse ≠ ['.', '.']) :
    g.accepts path = true ↔ (cut written.toList).Accepts (pathBytes path) := by
  rw [compile_of_size hsize] at h
  cases hread : Token.read (literalBraces written.toList) with
  | error e => rw [hread] at h; cases h
  | ok ts =>
      rw [hread] at h
      obtain rfl := Except.ok.inj h
      rw [← (read_literalBraces hclose).2 ts hread]
      exact Strategy.matches_ofTokens_iff ts (lastName_pathBytes hpath)

end PathGlob

namespace PathGlobs

/-- A glob whose braces stand for themselves is never too large to be used alone. -/
theorem isOk_ofStrings_alone {written : String} (hsize : written.utf8ByteSize ≤ 4096)
    (hclose : classesClose (cut written.toList).rest (cut written.toList).pieces = true) :
    (ofStrings [written]).isOk = (PathGlob.compile written).isOk := by
  rw [isOk_ofStrings, List.all_cons, List.all_nil, Bool.and_true]
  unfold PathGlobs.combinationProblem? PathGlob.tokens?
  rw [List.filterMap_cons, List.filterMap_nil, PathGlob.compile_of_size hsize]
  cases hread : Token.read (literalBraces written.toList) with
  | error e => rfl
  | ok ts =>
      have hlength := Nat.le_trans (length_toList_le_utf8ByteSize written) hsize
      show (true && (Glob.combinationProblem? [ts]).isNone) = true
      rw [combinationProblem?_literalBraces hclose hlength hread]
      rfl

/-- A glob that is read compiles, and answers as the strategy of its tokens does. -/
theorem exists_of_read {written : String} (hsize : written.utf8ByteSize ≤ 4096)
    (hclose : classesClose (cut written.toList).rest (cut written.toList).pieces = true)
    {ts : List Token}
    (hread : Token.read (literalBraces written.toList) = .ok ts) :
    ∃ gs, ofStrings [written] = .ok gs ∧ ∀ path : String,
      gs.accepts path = (Strategy.ofTokens ts).matches ts (pathBytes path) := by
  have hcompile : PathGlob.compile written = .ok ⟨ts, .ofTokens ts⟩ := by
    rw [PathGlob.compile_of_size hsize, hread]
  have hok : (ofStrings [written]).isOk = true := by
    rw [isOk_ofStrings_alone hsize hclose, hcompile]
    rfl
  obtain ⟨gs, hgs⟩ := except_isOk_iff.mp hok
  refine ⟨gs, hgs, fun path => ?_⟩
  rw [accepts_eq_any, written_ofStrings hgs, List.any_cons, List.any_nil, Bool.or_false]
  unfold PathGlob.covers
  rw [hcompile]
  rfl

/-- **Braces never mean alternation.** As long as no class that ends in an unpaired backslash stands
before a brace, the rewriting of a glob replaces its plain braces and keeps all classes where they are;
the glob compiles exactly when it is valid with braces as ordinary characters; and it matches a path
exactly as its pieces say. -/
theorem accepts_iff_pieces (written : String) (hsize : written.utf8ByteSize ≤ 4096)
    (hclose : classesClose (cut written.toList).rest (cut written.toList).pieces = true) :
    cut (literalBraces written.toList) = (cut written.toList).protect ∧
      (∀ p ∈ (cut (literalBraces written.toList)).pieces, ∀ c, p = .plain c → isBrace c = false) ∧
      (ofStrings [written]).isOk = (cut written.toList).isValid ∧
      ∀ gs, ofStrings [written] = .ok gs → ∀ path : String,
        FilePath.lastComponent path.toList.reverse ≠ ['.', '.'] →
          (gs.accepts path = true ↔ (cut written.toList).Accepts (pathBytes path)) := by
  have hcut : cut (literalBraces written.toList) = (cut written.toList).protect :=
    cut_literalBraces hclose
  refine ⟨hcut, ?_, ?_, ?_⟩
  · intro p hp c hpc
    rw [hcut] at hp
    exact not_isBrace_of_mem_protect hp hpc
  · rw [isOk_ofStrings_alone hsize hclose]
    exact PathGlob.isOk_compile hsize hclose
  · intro gs hgs path hpath
    have hwritten : gs.written = [written] := written_ofStrings hgs
    -- the list has one glob, and it compiles because the list did
    have hok : (PathGlob.compile written).isOk = true := by
      rw [← isOk_ofStrings_alone hsize hclose, hgs]
      rfl
    rw [accepts_eq_any, hwritten, List.any_cons, List.any_nil, Bool.or_false]
    unfold PathGlob.covers
    cases hcompile : PathGlob.compile written with
    | error e => rw [hcompile] at hok; cases hok
    | ok g => exact PathGlob.accepts_of_compile hsize hclose hcompile hpath

/-- A glob with a class that holds a backslash, plain braces, `**` and a brace in a class. -/
theorem accepts_iff_pieces_backslashClass :
    "a[\\x]\x7bb\x7d/**/[]\x7b]".utf8ByteSize ≤ 4096 ∧
      classesClose (cut "a[\\x]\x7bb\x7d/**/[]\x7b]".toList).rest
        (cut "a[\\x]\x7bb\x7d/**/[]\x7b]".toList).pieces = true ∧
      FilePath.lastComponent "ax\x7bb\x7d/]".toList.reverse ≠ ['.', '.'] ∧
      ∃ gs, ofStrings ["a[\\x]\x7bb\x7d/**/[]\x7b]"] = .ok gs ∧ gs.accepts "ax\x7bb\x7d/]" = true ∧
        (cut "a[\\x]\x7bb\x7d/**/[]\x7b]".toList).Accepts (pathBytes "ax\x7bb\x7d/]") := by
  have hsize : "a[\\x]\x7bb\x7d/**/[]\x7b]".utf8ByteSize ≤ 4096 := by decide
  have hclose : classesClose (cut "a[\\x]\x7bb\x7d/**/[]\x7b]".toList).rest
      (cut "a[\\x]\x7bb\x7d/**/[]\x7b]".toList).pieces = true := by decide +kernel
  have hpath : FilePath.lastComponent "ax\x7bb\x7d/]".toList.reverse ≠ ['.', '.'] := by decide +kernel
  obtain ⟨-, -, hok, haccepts⟩ := accepts_iff_pieces _ hsize hclose
  have hvalid : (cut "a[\\x]\x7bb\x7d/**/[]\x7b]".toList).isValid = true := by decide +kernel
  rw [hvalid] at hok
  refine ⟨hsize, hclose, hpath, ?_⟩
  cases hgs : ofStrings ["a[\\x]\x7bb\x7d/**/[]\x7b]"] with
  | error e => rw [hgs] at hok; cases hok
  | ok gs =>
      have haccepted : gs.accepts "ax\x7bb\x7d/]" = true := by
        rw [accepts_eq_any, written_ofStrings hgs]
        decide +kernel
      exact ⟨gs, rfl, haccepted, (haccepts gs hgs _ hpath).mp haccepted⟩

/-- Behind a class that ends in an unpaired backslash, braces do mean alternation. -/
theorem braces_alternate_after_unpairedBackslash :
    ∃ gs, ofStrings ["[\\]\x7ba,b\x7d"] = .ok gs ∧
      (cut "[\\]\x7ba,b\x7d".toList).isValid = true ∧
      (gs.accepts "\\a" = true ∧ ¬ (cut "[\\]\x7ba,b\x7d".toList).Accepts (pathBytes "\\a")) ∧
      gs.accepts "\\\x7ba,b\x7d" = false ∧
      (cut "[\\]\x7ba,b\x7d".toList).Accepts (pathBytes "\\\x7ba,b\x7d") := by
  have hok : (ofStrings ["[\\]\x7ba,b\x7d"]).isOk = true := by
    rw [isOk_ofStrings]
    decide +kernel
  have hcut : cut "[\\]\x7ba,b\x7d".toList = ⟨[.bracket none ['\\'], .plain '\x7b', .plain 'a',
      .plain ',', .plain 'b', .plain '\x7d'], []⟩ := by decide +kernel
  have hclass : (Piece.bracket none ['\\']).words = {[0x5C]} := rowWords_single '\\' rfl
  have hspelled : spelled true [.bracket none ['\\'], .plain '\x7b', .plain 'a', .plain ',', .plain 'b',
      .plain '\x7d'] = {[0x5C, 0x7B, 0x61, 0x2C, 0x62, 0x7D]} := by
    rw [spelled_of_single]
    · rfl
    · simp only [List.forall_mem_cons]
      exact ⟨hclass, rfl, rfl, rfl, rfl, rfl, by simp⟩
  cases hgs : ofStrings ["[\\]\x7ba,b\x7d"] with
  | error e => rw [hgs] at hok; cases hok
  | ok gs =>
      have hwritten := written_ofStrings hgs
      rw [hcut]
      unfold Cut.Accepts
      refine ⟨gs, rfl, by decide +kernel, ⟨?_, ?_⟩, ?_, ?_⟩
      · rw [accepts_eq_any, hwritten]
        decide +kernel
      · rintro (hspells | ⟨-, honly⟩)
        · have hmem : pathBytes "\\a" ∈ spelled true _ := hspells
          rw [hspelled] at hmem
          have hbytes : pathBytes "\\a" = [0x5C, 0x61] := by decide +kernel
          rw [hbytes] at hmem
          cases hmem
        · cases honly
      · rw [accepts_eq_any, hwritten]
        decide +kernel
      · left
        show pathBytes "\\\x7ba,b\x7d" ∈ spelled true _
        rw [hspelled]
        rfl

end PathGlobs
end PullTriage
