import Mathlib.Data.List.Forall2
import PullTriage.PathGlob
import PullTriage.TextPattern

/-!
  PullTriage.Proofs.PatternLists: compiling lists of patterns and globs.

  A list of text patterns compiles exactly when each of its members does; globs also have to be small
  enough together.  What a list compiles to keeps the members as they are written, in their order.  So
  whether one of them is found can be told from the written list alone.
-/

namespace PullTriage

/-! ## §1. Lists of results. -/

section Results

variable {ε α β : Type} {f : α → Except ε β}

theorem mapM_cons_eq (a : α) (as : List α) :
    (a :: as).mapM f = (f a).bind fun b => (as.mapM f).map (b :: ·) := by
  rw [List.mapM_cons]
  cases f a with
  | error e => rfl
  | ok b => cases as.mapM f <;> rfl

/-- Results in a row correspond to what they are results of. -/
theorem forall₂_of_mapM {as : List α} : ∀ {bs : List β}, as.mapM f = .ok bs →
    List.Forall₂ (fun a b => f a = .ok b) as bs := by
  induction as with
  | nil =>
      intro bs h
      rw [← Except.ok.inj h]
      exact .nil
  | cons a as ih =>
      intro bs h
      rw [mapM_cons_eq] at h
      cases ha : f a with
      | error e => rw [ha] at h; cases h
      | ok b =>
          rw [ha] at h
          cases has : as.mapM f with
          | error e => rw [has] at h; cases h
          | ok bs' =>
              rw [has] at h
              rw [← Except.ok.inj h]
              exact .cons ha (ih has)

/-- Results that remember what they were made of give it back. -/
theorem map_of_mapM {g : β → α} (hg : ∀ a b, f a = .ok b → g b = a) {as : List α} {bs : List β}
    (h : as.mapM f = .ok bs) : bs.map g = as := by
  have hpairs : List.Forall₂ (fun a b => a = g b) as bs :=
    (forall₂_of_mapM h).imp fun a b hab => (hg a b hab).symm
  have hmap : List.Forall₂ (· = ·) as (bs.map g) := List.forall₂_map_right_iff.mpr hpairs
  rw [List.forall₂_eq_eq_eq] at hmap
  exact hmap.symm

theorem except_isOk_iff {r : Except ε α} : r.isOk = true ↔ ∃ a, r = .ok a := by
  cases r with
  | error e => exact iff_of_false Bool.false_ne_true fun ⟨_, h⟩ => nomatch h
  | ok a => exact iff_of_true rfl ⟨a, rfl⟩

/-- All results are there exactly when each of them is. -/
theorem isOk_mapM (as : List α) : (as.mapM f).isOk = as.all fun a => (f a).isOk := by
  induction as with
  | nil => rfl
  | cons a as ih =>
      rw [mapM_cons_eq, List.all_cons, ← ih]
      cases f a with
      | error e => rfl
      | ok b => cases as.mapM f <;> rfl

end Results

/-! ### Lengths of texts. -/

/-- The first character of a text takes its bytes, and the others take theirs. -/
theorem utf8ByteSize_ofList_cons (c : Char) (cs : List Char) :
    (String.ofList (c :: cs)).utf8ByteSize = c.utf8Size + (String.ofList cs).utf8ByteSize := by
  rw [String.ofList_cons, String.utf8ByteSize_append, String.utf8ByteSize_singleton]

/-- A text has no more characters than bytes. -/
theorem length_toList_le_utf8ByteSize (text : String) : text.toList.length ≤ text.utf8ByteSize := by
  have hlist : ∀ cs : List Char, cs.length ≤ (String.ofList cs).utf8ByteSize := by
    intro cs
    induction cs with
    | nil => exact Nat.zero_le _
    | cons c cs ih =>
        have hpos := c.utf8Size_pos
        rw [utf8ByteSize_ofList_cons, List.length_cons]
        omega
  have htext := hlist text.toList
  rwa [String.ofList_toList] at htext

/-! ## §2. Text patterns. -/

/-- What it takes for a pattern to compile as it is written. -/
theorem Regex.ofString_eq_ok_iff {text : String} {r : Regex} : Regex.ofString text = .ok r ↔
    ∃ a m p m', Ast.parse? text = some a ∧ a.meaning? .initial = some (r.pattern, m) ∧
      a.program? .initial = some (p, m') ∧ Regex.fits p = true := by
  unfold Regex.ofString
  split
  case h_1 ha =>
    rw [ha]
    exact ⟨nofun, fun ⟨_, _, _, _, h, _⟩ => nomatch h⟩
  case h_2 a ha =>
    split
    case h_1 q m p m' hmeaning hprogram =>
      constructor
      case mp =>
        intro h
        split at h
        case isFalse => cases h
        case isTrue hfits =>
          obtain rfl := Except.ok.inj h
          exact ⟨a, m, p, m', ha, hmeaning, hprogram, hfits⟩
      -- the tree, its meaning and its program are all functions of the text
      case mpr =>
        rintro ⟨a', m₁, p', m₁', ha', hmeaning', hprogram', hfits⟩
        obtain rfl := Option.some.inj (ha.symm.trans ha')
        obtain ⟨rfl, -⟩ := Prod.mk.inj (Option.some.inj (hmeaning.symm.trans hmeaning'))
        obtain ⟨rfl, -⟩ := Prod.mk.inj (Option.some.inj (hprogram.symm.trans hprogram'))
        exact if_pos hfits
    case h_2 hnone =>
      refine ⟨nofun, fun ⟨a', m, p, m', ha', hmeaning, hprogram, _⟩ => ?_⟩
      obtain rfl := Option.some.inj (ha.symm.trans ha')
      exact absurd hprogram (hnone _ _ _ _ hmeaning)

namespace TextPattern

/-- Whether a pattern as written compiles and is found in a text. -/
def finds (text written : String) : Bool :=
  match compile written with
  | .ok r => r.foundIn text
  | .error _ => false

/-- A compiled pattern keeps how it was written. -/
theorem ofString_ok {written : String} {p : TextPattern} (h : ofString written = .ok p) :
    p.written = written ∧ compile written = .ok p.regex := by
  unfold ofString at h
  split at h
  case h_1 regex hcompile =>
    rw [← Except.ok.inj h]
    exact ⟨rfl, hcompile⟩
  case h_2 => cases h

/-- Keeping how it was written makes no pattern fail. -/
theorem isOk_ofString (written : String) : (ofString written).isOk = (compile written).isOk := by
  unfold ofString
  split
  case h_1 regex h => exact (congrArg Except.isOk h).symm
  case h_2 e h => exact (congrArg Except.isOk h).symm

/-- A compiled pattern is found where the pattern as written is. -/
theorem foundIn_eq_finds (p : TextPattern) (text : String) :
    p.foundIn text = finds text p.written := by
  unfold finds
  rw [p.compiled]
  rfl

end TextPattern

namespace TextPatterns

/-- Compiling keeps the patterns as they are written, in their order. -/
theorem written_ofStrings {written : List String} {ps : TextPatterns}
    (h : ofStrings written = .ok ps) : ps.written = written := by
  unfold ofStrings at h
  cases hmap : written.mapM TextPattern.ofString with
  | error e => rw [hmap] at h; cases h
  | ok patterns =>
      rw [hmap] at h
      obtain rfl := Except.ok.inj h
      exact map_of_mapM (fun _ _ h => (TextPattern.ofString_ok h).1) hmap

/-- A list compiles exactly when each of its patterns does. -/
theorem isOk_ofStrings (written : List String) :
    (ofStrings written).isOk = written.all fun w => (TextPattern.compile w).isOk := by
  have hmap : (ofStrings written).isOk = (written.mapM TextPattern.ofString).isOk := by
    unfold ofStrings
    cases written.mapM TextPattern.ofString <;> rfl
  rw [hmap, isOk_mapM]
  simp only [TextPattern.isOk_ofString]

/-- Patterns are found where one of them, as written, is. -/
theorem foundIn_eq_any (ps : TextPatterns) (text : String) :
    ps.foundIn text = ps.written.any (TextPattern.finds text) := by
  unfold foundIn written
  rw [List.any_map]
  simp only [TextPattern.foundIn_eq_finds]
  rfl

end TextPatterns

/-! ## §3. Globs. -/

namespace PathGlob

/-- Whether a glob as written compiles and matches a path. -/
def covers (path written : String) : Bool :=
  match compile written with
  | .ok g => g.accepts path
  | .error _ => false

/-- A compiled glob keeps how it was written. -/
theorem ofString_ok {written : String} {g : PathGlob} (h : ofString written = .ok g) :
    g.written = written ∧ compile written = .ok g.glob := by
  unfold ofString at h
  split at h
  case h_1 glob hcompile =>
    rw [← Except.ok.inj h]
    exact ⟨rfl, hcompile⟩
  case h_2 => cases h

/-- Keeping how it was written makes no glob fail. -/
theorem isOk_ofString (written : String) : (ofString written).isOk = (compile written).isOk := by
  unfold ofString
  split
  case h_1 glob h => exact (congrArg Except.isOk h).symm
  case h_2 e h => exact (congrArg Except.isOk h).symm

/-- The pieces of a glob as written, if it compiles. -/
def tokens? (written : String) : Option (List Glob.Token) :=
  (compile written).toOption.map CompiledGlob.tokens

/-- A compiled glob has the pieces of the glob as written. -/
theorem tokens?_written (g : PathGlob) : tokens? g.written = some g.glob.tokens := by
  unfold tokens?
  rw [g.compiled]
  rfl

/-- It accepts the paths that the glob as written covers. -/
theorem accepts_eq_covers (g : PathGlob) (path : String) :
    g.accepts path = covers path g.written := by
  unfold covers
  rw [g.compiled]
  rfl

end PathGlob

namespace PathGlobs

/-- Why globs as written cannot be used together although each of them compiles. -/
def combinationProblem? (written : List String) : Option Glob.CombinationProblem :=
  Glob.combinationProblem? (written.filterMap PathGlob.tokens?)

/-- Globs are put together to what consists of them. -/
theorem ofGlobs_eq_ok_iff {globs : List PathGlob} {gs : PathGlobs} :
    ofGlobs globs = .ok gs ↔ gs.globs = globs := by
  unfold ofGlobs
  split
  case h_1 hnone =>
    constructor
    · intro h
      rw [← Except.ok.inj h]
    · rintro rfl
      rfl
  case h_2 p hp =>
    refine ⟨nofun, fun h => ?_⟩
    have hnone := gs.combined
    rw [h, hp] at hnone
    cases hnone

theorem ofStrings_eq (written : List String) :
    ofStrings written = (written.mapM PathGlob.ofString).bind ofGlobs := rfl

/-- What a list compiles to consists of what its globs compile to. -/
theorem ofStrings_eq_ok_iff {written : List String} {gs : PathGlobs} :
    ofStrings written = .ok gs ↔ written.mapM PathGlob.ofString = .ok gs.globs := by
  rw [ofStrings_eq]
  cases written.mapM PathGlob.ofString with
  | error e => exact ⟨nofun, nofun⟩
  | ok globs =>
      refine ofGlobs_eq_ok_iff.trans ⟨fun h => ?_, fun h => (Except.ok.inj h).symm⟩
      rw [h]

/-- Compiled globs are written as the globs they come from. -/
theorem written_of_mapM {written : List String} {globs : List PathGlob}
    (h : written.mapM PathGlob.ofString = .ok globs) : globs.map PathGlob.written = written :=
  map_of_mapM (fun _ _ h => (PathGlob.ofString_ok h).1) h

/-- Compiling keeps the globs as they are written, in their order. -/
theorem written_ofStrings {written : List String} {gs : PathGlobs}
    (h : ofStrings written = .ok gs) : gs.written = written :=
  written_of_mapM (ofStrings_eq_ok_iff.mp h)

/-- What keeps globs from being put together can be read off how they are written. -/
theorem combinationProblem?_written (globs : List PathGlob) :
    combinationProblem? (globs.map PathGlob.written) =
      Glob.combinationProblem? (globs.map fun g => g.glob.tokens) := by
  unfold combinationProblem?
  rw [List.filterMap_map]
  congr 1
  rw [← List.filterMap_eq_map]
  exact congrFun (congrArg _ (funext PathGlob.tokens?_written)) globs

/-- If something does, the error names all of them. -/
theorem ofGlobs_of_problem {globs : List PathGlob} {p : Glob.CombinationProblem}
    (h : combinationProblem? (globs.map PathGlob.written) = some p) :
    ofGlobs globs =
      .error (.invalidGlob (", ".intercalate (globs.map PathGlob.written)) p.message) := by
  rw [combinationProblem?_written] at h
  unfold ofGlobs
  split
  case h_1 hnone =>
    rw [hnone] at h
    cases h
  case h_2 q hq =>
    rw [hq] at h
    rw [Option.some.inj h]

/-- Globs that compile but cannot be used together are refused with an error that names all of them. -/
theorem ofStrings_of_problem {written : List String} {p : Glob.CombinationProblem}
    (hall : (written.all fun w => (PathGlob.compile w).isOk) = true)
    (hp : combinationProblem? written = some p) :
    ofStrings written = .error (.invalidGlob (", ".intercalate written) p.message) := by
  simp only [← PathGlob.isOk_ofString, ← isOk_mapM] at hall
  obtain ⟨globs, hglobs⟩ := except_isOk_iff.mp hall
  obtain rfl := written_of_mapM hglobs
  rw [ofStrings_eq, hglobs]
  exact ofGlobs_of_problem hp

/-- A list compiles exactly when each of its globs does and they can be used together. -/
theorem isOk_ofStrings (written : List String) :
    (ofStrings written).isOk =
      ((written.all fun w => (PathGlob.compile w).isOk) && (combinationProblem? written).isNone) := by
  simp only [← PathGlob.isOk_ofString, ← isOk_mapM]
  rw [ofStrings_eq]
  cases hglobs : written.mapM PathGlob.ofString with
  | error e => rfl
  | ok globs =>
      show (ofGlobs globs).isOk = (combinationProblem? written).isNone
      rw [← written_of_mapM hglobs]
      cases hp : combinationProblem? (globs.map PathGlob.written) with
      | none =>
          rw [combinationProblem?_written] at hp
          rw [except_isOk_iff.mpr ⟨⟨globs, hp⟩, ofGlobs_eq_ok_iff.mpr rfl⟩]
          rfl
      | some p =>
          rw [ofGlobs_of_problem hp]
          rfl

/-- Globs accept the paths that one of them, as written, covers. -/
theorem accepts_eq_any (gs : PathGlobs) (path : String) :
    gs.accepts path = gs.written.any (PathGlob.covers path) := by
  unfold accepts written
  rw [List.any_map]
  simp only [PathGlob.accepts_eq_covers]
  rfl

end PathGlobs
end PullTriage
