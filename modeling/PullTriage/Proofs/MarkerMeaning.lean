import PullTriage.Proofs.IgnoreCase
import PullTriage.Proofs.StrippedMarkers

/-!
  PullTriage.Proofs.MarkerMeaning: a pattern means without its markers what it means with them.

  Case does not count to begin with, so a marker `(?i)` that the parser reads as a flag group says nothing
  new, and to remove it from the text is to leave its tree out.  The pattern that is compiled then has a
  trimmed tree, does the same and takes the same space; what is left to refuse it is the search for flag groups.

  A marker that begins inside a piece is another matter: in a class it stands for four members, and behind
  a backslash its parenthesis is a literal.  There its removal changes the pattern.
-/

namespace PullTriage

/-! ## §1. Sizes. -/

namespace TextPattern

/-- A text is no shorter than what is left of it. -/
theorem utf8ByteSize_stripMarkers_le (cs : List Char) :
    (String.ofList (stripMarkers cs)).utf8ByteSize ≤ (String.ofList cs).utf8ByteSize := by
  fun_induction stripMarkers cs with
  | case1 rest ih =>
      simp only [utf8ByteSize_ofList_cons]
      omega
  | case2 c rest _ ih =>
      simp only [utf8ByteSize_ofList_cons]
      omega
  | case3 => exact le_rfl

end TextPattern

/-! ## §2. Compiling without markers. -/

namespace TextPattern

open Regex

variable {written : String} {r : Regex} {a : Ast}

/-- **Without its markers a pattern still compiles, to one that does the same.** -/
theorem ofString_stripMarkers (hr : Regex.ofString written = .ok r) (ha : Ast.parse? written = some a)
    (hcase : a.restoresCase = false) (hapart : MarkersApart written) :
    ∃ r', Regex.ofString (String.ofList (stripMarkers written.toList)) = .ok r' ∧
      ∀ text, r'.foundIn text = r.foundIn text := by
  obtain ⟨a', m, p, m', ha', hmeaning, hprogram, hfits⟩ := ofString_eq_ok_iff.mp hr
  obtain rfl := Option.some.inj (ha.symm.trans ha')
  obtain ⟨b, hb, htrims⟩ := parse?_stripMarkers ha hapart
  obtain ⟨q, hq, hlike⟩ := htrims.meaning rfl hcase hmeaning
  have hsame := htrims.program (m := .initial) rfl hcase
  rw [hprogram] at hsame
  exact ⟨⟨q⟩, ofString_eq_ok_iff.mpr ⟨b, m, p, m', hb, hq, hsame, hfits⟩, hlike.foundIn⟩

/-- A pattern in which nothing misleads the search for flag groups is not refused by it. -/
theorem restoresCase_stripMarkers (hr : Regex.ofString written = .ok r)
    (ha : Ast.parse? written = some a) (hcase : a.restoresCase = false) (hapart : MarkersApart written)
    (hbrackets : ∀ x ∈ a.marks, x.misleads = false) :
    restoresCase (stripMarkers written.toList) = false := by
  obtain ⟨a', m, -, -, ha', hmeaning, -⟩ := ofString_eq_ok_iff.mp hr
  obtain rfl := Option.some.inj (ha.symm.trans ha')
  obtain ⟨b, hb, htrims⟩ := parse?_stripMarkers ha hapart
  have hplain : ∀ x ∈ b.marks, x.Plain := by
    intro x hx
    have hx' := htrims.mem_marks hx
    exact Mark.plain_of (Ast.exists_of_meaning a hmeaning x hx') (hbrackets x hx')
  have hagree := restoresCase_of_parse? hb hplain
  rw [String.toList_ofList, htrims.restoresCase hcase] at hagree
  exact hagree

/-- Whether a pattern compiles is then up to the search for flag groups. -/
theorem compile_of_ofString (hsize : written.utf8ByteSize ≤ 4096)
    (hr : Regex.ofString (String.ofList (stripMarkers written.toList)) = .ok r) :
    compile written =
      if restoresCase (stripMarkers written.toList) then
        .error (.invalidPattern (String.ofList (stripMarkers written.toList))
          (.words "inline flags may not disable case-insensitive matching"))
      else .ok r := by
  have hle := utf8ByteSize_stripMarkers_le written.toList
  rw [String.ofList_toList] at hle
  have hlimit : ¬(String.ofList (stripMarkers written.toList)).utf8ByteSize > maxPatternLength :=
    Nat.not_lt.mpr (Nat.le_trans hle hsize)
  unfold compile
  dsimp only
  rw [if_neg hlimit, hr]

end TextPattern

/-! ## §3. Patterns of a rule. -/

namespace TextPatterns

open Regex TextPattern

/-- **A pattern whose markers are read as flag groups is found where it is found as written**, and it
compiles unless the search for flag groups takes something in it for one, which only a pattern that
misleads it can bring about. -/
theorem foundIn_asWritten {written : String} {r : Regex} {a : Ast}
    (hsize : written.utf8ByteSize ≤ 4096) (hr : Regex.ofString written = .ok r)
    (ha : Ast.parse? written = some a) (hcase : a.restoresCase = false) (hapart : MarkersApart written) :
    ((ofStrings [written]).isOk = !restoresCase (stripMarkers written.toList)) ∧
      ((∀ x ∈ a.marks, x.misleads = false) → (ofStrings [written]).isOk = true) ∧
      ∀ ps, ofStrings [written] = .ok ps → ∀ text, ps.foundIn text = r.foundIn text := by
  obtain ⟨r', hr', hfound⟩ := ofString_stripMarkers hr ha hcase hapart
  have hcompile := compile_of_ofString hsize hr'
  have hok : (ofStrings [written]).isOk = !restoresCase (stripMarkers written.toList) := by
    rw [isOk_ofStrings, List.all_cons, List.all_nil, Bool.and_true, hcompile]
    cases restoresCase (stripMarkers written.toList) <;> rfl
  refine ⟨hok, fun hbrackets => ?_, fun ps hps text => ?_⟩
  · rw [hok, restoresCase_stripMarkers hr ha hcase hapart hbrackets]
    rfl
  · have hscan : restoresCase (stripMarkers written.toList) = false := by
      rw [← Bool.not_eq_true', ← hok, hps]
      rfl
    rw [foundIn_eq_any, written_ofStrings hps, List.any_cons, List.any_nil, Bool.or_false, finds,
      hcompile, hscan]
    exact hfound text

/-- Markers in front, in a group, in a comment and behind it. -/
def fourMarkers : String := "(?i)(?x) fix ((?i) es | ed)? \\b # or (?i) so\n (?i) [0-9]+"

/-- The pattern compiles and is found where it is found as written. -/
theorem foundIn_asWritten_fourMarkers :
    fourMarkers = "(?i)(?x) fix ((?i) es | ed)? \\b # or (?i) so\n (?i) [0-9]+" ∧
      ∃ r ps, Regex.ofString fourMarkers = .ok r ∧ ofStrings [fourMarkers] = .ok ps ∧
        ∀ text, ps.foundIn text = r.foundIn text := by
  refine ⟨rfl, ?_⟩
  have hok : (Regex.ofString fourMarkers).isOk = true := by decide +kernel
  have htree : (Ast.parse? fourMarkers).any (fun a => !a.restoresCase) = true := by decide +kernel
  have hapart : MarkersApart fourMarkers := by decide +kernel
  have hscan : restoresCase (stripMarkers fourMarkers.toList) = false := by decide +kernel
  obtain ⟨a, ha, hcase⟩ := (Option.any_eq_true _ _).mp htree
  rw [Bool.not_eq_true'] at hcase
  cases hr : Regex.ofString fourMarkers with
  | error e =>
      rw [hr] at hok
      cases hok
  | ok r =>
      obtain ⟨hcompiles, -, hfound⟩ := foundIn_asWritten (by decide) hr ha hcase hapart
      rw [hscan] at hcompiles
      cases hps : ofStrings [fourMarkers] with
      | error e =>
          rw [hps] at hcompiles
          cases hcompiles
      | ok ps => exact ⟨r, ps, rfl, rfl, hfound ps hps⟩

/-- In a class a marker stands for its four characters: there the pattern finds an `i` as written, and
finds none without its marker. -/
theorem markerInClass_changesMeaning :
    ∃ r ps, Regex.ofString "[a(?i)]" = .ok r ∧ ofStrings ["[a(?i)]"] = .ok ps ∧
      (∃ a, Ast.parse? "[a(?i)]" = some a ∧ a.restoresCase = false) ∧
      r.foundIn "i" = true ∧ ps.foundIn "i" = false := by
  have hok : (ofStrings ["[a(?i)]"]).isOk = true := by
    rw [isOk_ofStrings]
    decide +kernel
  have htree : (Ast.parse? "[a(?i)]").any (fun a => !a.restoresCase) = true := by decide +kernel
  obtain ⟨a, ha, hcase⟩ := (Option.any_eq_true _ _).mp htree
  have hfound : (Regex.ofString "[a(?i)]").toOption.any (fun r => r.foundIn "i") = true := by
    decide +kernel
  cases hr : Regex.ofString "[a(?i)]" with
  | error e =>
      rw [hr] at hfound
      cases hfound
  | ok r =>
      rw [hr] at hfound
      cases hps : ofStrings ["[a(?i)]"] with
      | error e =>
          rw [hps] at hok
          cases hok
      | ok ps =>
          refine ⟨r, ps, rfl, rfl, ⟨a, ha, by simpa using hcase⟩, hfound, ?_⟩
          rw [foundIn_eq_any, written_ofStrings hps]
          decide +kernel

end TextPatterns

end PullTriage
