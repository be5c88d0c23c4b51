import PullTriage.Proofs.CaseClasses
import PullTriage.Proofs.GlobWords
import PullTriage.Proofs.IgnoreCase
import PullTriage.Proofs.MarkerMeaning

/-!
  PullTriage.Proofs.WordSearch: searching for plain words.

  A pattern of ASCII letters and digits has no marker, no flag group and no operator.  Reading it gives
  one literal for each character, in order, and a literal stands for the characters that agree with it
  but for case.  So such a pattern is found in a text exactly when the word occurs there:

        find? text = some w   ↔   w is the first of the words, as they are listed,
                                  that occurs in the text

  where a word occurs when a run of consecutive characters agrees with it one by one.  Agreement is by
  the classes of simple case folding, wherever in Unicode their members lie: for a letter or digit they
  are the two cases, and for `k` and `s` one character more.
-/

namespace PullTriage

open Regex

/-! ## §1. Words in a text. -/

/-- One character agrees with another but for case: it lies in the same class of simple case folding. -/
def SameFold (c d : Char) : Prop := d.toNat ∈ Unicode.foldOrbit c.toNat

/-- A word occurs in a text: some run of consecutive characters agrees with it but for case. -/
def Occurs (word text : String) : Prop :=
  ∃ before run after, text.toList = before ++ run ++ after ∧ List.Forall₂ SameFold run word.toList

/-- A word: ASCII letters and digits only. -/
def IsWord (w : String) : Prop := ∀ c ∈ w.toList, c.isAlphanum = true

instance (w : String) : Decidable (IsWord w) :=
  decidable_of_iff (w.toList.all Char.isAlphanum = true) List.all_eq_true

theorem isAlphanum_iff {c : Char} : c.isAlphanum = true ↔
    (0x30 ≤ c.toNat ∧ c.toNat ≤ 0x39) ∨ (0x41 ≤ c.toNat ∧ c.toNat ≤ 0x5A) ∨
      (0x61 ≤ c.toNat ∧ c.toNat ≤ 0x7A) := by
  have hdigit : c.isDigit = true ↔ 0x30 ≤ c.toNat ∧ c.toNat ≤ 0x39 := by
    unfold Char.isDigit
    simp only [Bool.and_eq_true, decide_eq_true_eq]
    exact Iff.rfl
  have hupper : c.isUpper = true ↔ 0x41 ≤ c.toNat ∧ c.toNat ≤ 0x5A := by
    unfold Char.isUpper
    simp only [decide_eq_true_eq]
    exact Iff.rfl
  have hlower : c.isLower = true ↔ 0x61 ≤ c.toNat ∧ c.toNat ≤ 0x7A := by
    unfold Char.isLower
    simp only [Bool.and_eq_true, decide_eq_true_eq]
    exact Iff.rfl
  unfold Char.isAlphanum Char.isAlpha
  rw [Bool.or_eq_true, Bool.or_eq_true, hdigit, hupper, hlower]
  omega

/-- The characters that agree with a letter or digit. -/
theorem sameFold_iff {c p : Char} (hp : p.isAlphanum = true) :
    SameFold c p ↔ c.toLower = p.toLower ∨ (c = '\u212A' ∧ p.toLower = 'k')
      ∨ (c = '\u017F' ∧ p.toLower = 's') := by
  have hcode : ∀ a b : Char, a = b ↔ a.toNat = b.toNat := fun a b => Char.toNat_inj.symm
  rw [isAlphanum_iff] at hp
  unfold SameFold
  rw [Unicode.mem_foldOrbit_iff (by omega), Unicode.mem_asciiExtras_iff, Unicode.isAsciiLetter_iff]
  simp only [hcode, toNat_toLower]
  show _ ↔ _ ∨ (c.toNat = 0x212A ∧ _ = 0x6B) ∨ (c.toNat = 0x17F ∧ _ = 0x73)
  unfold Unicode.swapAsciiCase
  split_ifs <;> omega

/-! ## §2. Reading a word. -/

namespace Regex

theorem ne_of_isAlphanum {c d : Char} (hc : c.isAlphanum = true) (hd : d.isAlphanum = false) :
    c ≠ d := by
  intro h
  rw [h, hd] at hc
  cases hc

/-- A letter or digit is a piece of its own. -/
theorem primitive?_word {c : Char} (hc : c.isAlphanum = true) (v : Bool) (cs : List Char) :
    primitive? v (c :: cs) = some (.literal ⟨c, false⟩, cs) := by
  have hne : ∀ d : Char, d.isAlphanum = false → c ≠ d := fun d => ne_of_isAlphanum hc
  unfold primitive?
  split
  case h_1 h => cases h
  case h_2 h => exact absurd (List.cons.inj h).1 (hne _ rfl)
  case h_3 h => exact absurd (List.cons.inj h).1 (hne _ rfl)
  case h_4 h => exact absurd (List.cons.inj h).1 (hne _ rfl)
  case h_5 h => exact absurd (List.cons.inj h).1 (hne _ rfl)
  case h_6 h =>
    obtain ⟨rfl, rfl⟩ := List.cons.inj h
    rfl

namespace ParserState

theorem piece?_word {c : Char} (hc : c.isAlphanum = true) (s : ParserState) (cs : List Char) :
    s.piece? c cs = some (s.push (.literal ⟨c, false⟩) cs) := by
  have hne : ∀ d : Char, d.isAlphanum = false → c ≠ d := fun d => ne_of_isAlphanum hc
  rw [piece?.eq_9 s c cs (hne _ rfl) (hne _ rfl) (hne _ rfl) (hne _ rfl) (hne _ rfl) (hne _ rfl)
    (hne _ rfl) (hne _ rfl), primitive?_word hc]
  rfl

/-- Reading a word adds a literal for each of its characters. -/
theorem loop?_word {fuel : Nat} {s : ParserState} (hverbose : s.verbose = false)
    (hword : ∀ c ∈ s.rest, c.isAlphanum = true) (hfuel : s.rest.length < fuel) :
    loop? fuel s = some { s with
      rest := []
      level := { s.level with
        parts := (s.rest.map fun c => Ast.literal ⟨c, false⟩).reverse ++ s.level.parts } } := by
  obtain ⟨rest, verbose, names, level, groups⟩ := s
  subst hverbose
  induction rest generalizing fuel level with
  | nil =>
    obtain ⟨fuel, rfl⟩ := Nat.exists_eq_succ_of_ne_zero (Nat.ne_of_gt hfuel)
    exact loop?_nil rfl fuel
  | cons c cs ih =>
    obtain ⟨fuel, rfl⟩ := Nat.exists_eq_succ_of_ne_zero (Nat.ne_zero_of_lt hfuel)
    obtain ⟨hc, hcs⟩ := List.forall_mem_cons.mp hword
    rw [loop?_cons rfl, piece?_word hc]
    show loop? fuel ⟨cs, false, names, ⟨level.branches, .literal ⟨c, false⟩ :: level.parts⟩, groups⟩ = _
    rw [ih _ hcs (by simpa using hfuel)]
    simp

end ParserState

/-- The tree of a word is the row of its characters. -/
theorem parse?_word {w : String} (hw : IsWord w) {a : Ast} (h : Ast.parse? w = some a) :
    a = .ofParts (w.toList.map fun c => .literal ⟨c, false⟩) := by
  obtain ⟨s, hs, -, rfl, -⟩ := parse?_eq_some_iff.mp h
  have hread := ParserState.loop?_word (s := .start w.toList) rfl hw (Nat.lt_succ_self _)
  obtain rfl := Option.some.inj (hs.symm.trans hread)
  simp [Level.close, Ast.ofBranches, ParserState.start]

/-! ## §3. What a word means. -/

/-- The step for a character: all that agrees with it but for case. -/
def wordStep (c : Char) : CharPattern := .step (.foldCase (.single c.toNat))

theorem meanings?_word (cs : List Char) :
    meanings? .initial (cs.map fun c => .literal ⟨c, false⟩) = some (cs.map wordStep, .initial) := by
  induction cs with
  | nil => rfl
  | cons c cs ih =>
    have hliteral : Ast.meaning? .initial (.literal ⟨c, false⟩) = some (wordStep c, .initial) := rfl
    rw [List.map_cons, meanings?, hliteral]
    show (meanings? .initial (cs.map fun c => .literal ⟨c, false⟩)).bind _ = _
    rw [ih]
    rfl

end Regex

theorem SameFold.contains_iff {c p : Char} :
    (Unicode.CharSet.foldCase (.single p.toNat)).contains c.toNat = true ↔ SameFold c p := by
  have hsingle : ∀ d, (Unicode.CharSet.single p.toNat).contains d = true ↔ d = p.toNat := by
    intro d
    show (p.toNat ≤ d && d ≤ p.toNat) = true ↔ _
    simp
    omega
  show (Unicode.foldOrbit c.toNat).any (Unicode.CharSet.single p.toNat).contains = true ↔ _
  simp only [List.any_eq_true, hsingle, exists_eq_right]
  rfl

/-! ## §4. Where a row of steps matches. -/

namespace Pattern

variable {σ γ α : Type} {symbol : σ → α → Bool} {guards : γ → Nat → Bool} {text : List α}

/-- A row matches by its first pattern and then by the rest. -/
theorem matches_ofList_cons {p : Pattern σ γ} {ps : List (Pattern σ γ)} {i k : Nat} :
    Matches symbol guards text (ofList (p :: ps)) i k ↔
      ∃ j, Matches symbol guards text p i j ∧ Matches symbol guards text (ofList ps) j k := by
  cases ps with
  | nil =>
    constructor
    · intro h
      exact ⟨k, h, .empty h.le_length⟩
    · rintro ⟨j, h, ⟨⟩⟩
      exact h
  | cons q ps =>
    constructor
    · rintro ⟨⟩
      case seq first second => exact ⟨_, first, second⟩
    · rintro ⟨j, first, second⟩
      exact .seq first second

/-- A row of steps matches a run of symbols that pass the steps one by one. -/
theorem matches_steps {ts : List σ} {i j : Nat} :
    Matches symbol guards text (ofList (ts.map .step)) i j ↔
      ∃ before run after, text = before ++ run ++ after ∧ before.length = i ∧
        before.length + run.length = j ∧ List.Forall₂ (fun a t => symbol t a = true) run ts := by
  induction ts generalizing i with
  | nil =>
    constructor
    · rintro ⟨hle⟩
      exact ⟨text.take j, [], text.drop j, by simp, by simp [hle], by simp [hle], .nil⟩
    · rintro ⟨before, run, after, rfl, rfl, rfl, hrun⟩
      cases hrun
      refine .empty ?_
      simp
  | cons t ts ih =>
    rw [List.map_cons, matches_ofList_cons]
    simp only [ih]
    constructor
    · rintro ⟨_, hfirst, before, run, after, rfl, hlength, rfl, hrun⟩
      cases hfirst
      case step a hpass ha =>
      -- the symbol that passes the first step is the last one before the run of the others
      obtain rfl | ⟨before, b, rfl⟩ := List.eq_nil_or_concat before
      · simp at hlength
      obtain rfl : before.length = i := by simpa using hlength
      have hab : b = a := by simpa using ha
      refine ⟨before, b :: run, after, by simp, rfl, by simp; omega, .cons ?_ hrun⟩
      rw [hab]
      exact hpass
    · rintro ⟨before, run, after, rfl, rfl, rfl, hrun⟩
      cases hrun
      case cons a run hpass hrun =>
        refine ⟨before.length + 1, .step (a := a) (by simp) hpass, before ++ [a], run, after, ?_, ?_, ?_,
          hrun⟩
        · simp
        · simp
        · simp
          omega

end Pattern

/-! ## §5. Searching. -/

/-- Whether a word occurs can be told from the codes of the characters. -/
theorem occurs_iff_codes {w text : String} :
    Occurs w text ↔ ∃ before run after, Regex.codes text = before ++ run ++ after ∧
      List.Forall₂ (fun c (a : Unicode.CharSet) => a.contains c = true) run
        (w.toList.map fun c => .foldCase (.single c.toNat)) := by
  have hrun : ∀ run : List Char, List.Forall₂ SameFold run w.toList ↔
      List.Forall₂ (fun c (a : Unicode.CharSet) => a.contains c = true) (run.map Char.toNat)
        (w.toList.map fun c => .foldCase (.single c.toNat)) := by
    intro run
    rw [List.forall₂_map_left_iff, List.forall₂_map_right_iff]
    simp only [SameFold.contains_iff]
  constructor
  · rintro ⟨before, run, after, htext, hsame⟩
    refine ⟨before.map Char.toNat, run.map Char.toNat, after.map Char.toNat, ?_, (hrun run).mp hsame⟩
    rw [Regex.codes, htext, List.map_append, List.map_append]
  · rintro ⟨before, run, after, htext, hsame⟩
    -- a row of codes that is cut into parts comes from a row of characters that is
    obtain ⟨front, after, hfront, hbefore, rfl⟩ := List.map_eq_append_iff.mp htext
    obtain ⟨before, run, rfl, rfl, rfl⟩ := List.map_eq_append_iff.mp hbefore
    exact ⟨before, run, after, hfront, (hrun run).mpr hsame⟩

/-- A compiled word is found where it occurs. -/
theorem TextPattern.finds_word_iff {w : String} (hw : IsWord w) {r : Regex}
    (hr : TextPattern.compile w = .ok r) (text : String) :
    TextPattern.finds text w = true ↔ Occurs w text := by
  obtain ⟨-, a, m, ha, hmeaning⟩ := TextPattern.compile_ok hr
  -- a word has no marker, so its tree is the row of its characters
  have hstrip : TextPattern.stripMarkers w.toList = w.toList := by
    apply stripMarkers_eq_self
    intro hmarker
    have hparen : '(' ∈ w.toList := hmarker.subset (by decide)
    exact absurd (hw _ hparen) (by decide)
  unfold TextPattern.tree? at ha
  rw [hstrip, String.ofList_toList] at ha
  obtain rfl := parse?_word hw ha
  rw [Ast.meaning_ofParts, meanings?_word] at hmeaning
  have hpattern : r.pattern = .ofList (w.toList.map wordStep) :=
    (congrArg Prod.fst (Option.some.inj hmeaning)).symm
  have hordered : r.pattern.Ordered := by
    rw [hpattern]
    apply Pattern.ordered_ofList
    intro p hp
    obtain ⟨c, -, rfl⟩ := List.mem_map.mp hp
    trivial
  have hfinds : TextPattern.finds text w = r.foundIn text := by
    unfold TextPattern.finds
    rw [hr]
  rw [hfinds]
  unfold Regex.foundIn
  rw [Pattern.found_iff _ _ _ hordered, hpattern, occurs_iff_codes]
  have hsteps : w.toList.map wordStep
      = (w.toList.map fun c => Unicode.CharSet.foldCase (.single c.toNat)).map .step := by
    rw [List.map_map]
    rfl
  rw [hsteps]
  simp only [Pattern.matches_steps]
  constructor
  · rintro ⟨_, _, before, run, after, htext, -, -, hrun⟩
    exact ⟨before, run, after, htext, hrun⟩
  · rintro ⟨before, run, after, htext, hrun⟩
    exact ⟨_, _, before, run, after, htext, rfl, rfl, hrun⟩

namespace TextPatterns

/-- **Searching for words.** Of a list of words that compiles, one is found in a text exactly when one
occurs there; the pattern that is found is the first of the list that occurs, as it is written; and what
agrees with a letter or digit is the same in either case, the Kelvin sign for `k` and the long s for
`s`. -/
theorem search_words {written : List String} {ps : TextPatterns} (hwords : ∀ w ∈ written, IsWord w)
    (h : ofStrings written = .ok ps) (text : String) :
    (ps.foundIn text = true ↔ ∃ w ∈ written, Occurs w text) ∧
    (∀ w, ps.find? text = some w ↔ ∃ before after, written = before ++ w :: after ∧
      (∀ v ∈ before, ¬Occurs v text) ∧ Occurs w text) ∧
    ∀ w ∈ written, ∀ p ∈ w.toList, ∀ c, SameFold c p ↔ c.toLower = p.toLower ∨
      (c = '\u212A' ∧ p.toLower = 'k') ∨ (c = '\u017F' ∧ p.toLower = 's') := by
  -- every word compiles, so it is found where it occurs
  have hfinds : ∀ w ∈ written, TextPattern.finds text w = true ↔ Occurs w text := by
    intro w hw
    have hall : (written.all fun w => (TextPattern.compile w).isOk) = true := by
      rw [← isOk_ofStrings, h]
      rfl
    have hok := List.all_eq_true.mp hall w hw
    cases hr : TextPattern.compile w with
    | error e =>
      rw [hr] at hok
      cases hok
    | ok r => exact TextPattern.finds_word_iff (hwords w hw) hr text
  have hfind : ps.find? text = written.find? (TextPattern.finds text) := by
    rw [← written_ofStrings h]
    unfold find? TextPatterns.written
    rw [List.find?_map]
    have hfound : (fun p : TextPattern => p.foundIn text)
        = TextPattern.finds text ∘ TextPattern.written :=
      funext fun p => p.foundIn_eq_finds text
    rw [hfound]
  refine ⟨?_, ?_, fun w hw p hp c => sameFold_iff (hwords w hw p hp)⟩
  · rw [foundIn_eq_any, written_ofStrings h, List.any_eq_true]
    exact exists_congr fun w => and_congr_right (hfinds w)
  · intro w
    rw [hfind, List.find?_eq_some_iff_append]
    constructor
    · rintro ⟨hw, before, after, rfl, hbefore⟩
      refine ⟨before, after, rfl, ?_, (hfinds w (by simp)).mp hw⟩
      intro v hv hoccurs
      have hno := hbefore v hv
      rw [(hfinds v (by simp [hv])).mpr hoccurs] at hno
      cases hno
    · rintro ⟨before, after, rfl, hbefore, hoccurs⟩
      refine ⟨(hfinds w (by simp)).mpr hoccurs, before, after, rfl, ?_⟩
      intro v hv
      have hno := mt (hfinds v (by simp [hv])).mp (hbefore v hv)
      simpa using hno

/-- Both words occur in a text that spells them with Kelvin signs and a long s.  The one that is listed
first is found, although the other begins before it. -/
theorem search_words_kelvin :
    ∃ ps, ofStrings ["osk", "KIOS"] = .ok ps ∧ ps.find? "\u212AIO\u017F\u212A" = some "osk" ∧
      ps.foundIn "\u212AIO\u017F\u212A" = true := by
  have hok : (ofStrings ["osk", "KIOS"]).isOk = true := by
    rw [isOk_ofStrings]
    decide +kernel
  have hwords : ∀ w ∈ ["osk", "KIOS"], IsWord w := by decide
  have hoccurs : Occurs "osk" "\u212AIO\u017F\u212A" := by
    have ho : SameFold 'O' 'o' := (sameFold_iff (by decide)).mpr (by decide)
    have hs : SameFold '\u017F' 's' := (sameFold_iff (by decide)).mpr (by decide)
    have hk : SameFold '\u212A' 'k' := (sameFold_iff (by decide)).mpr (by decide)
    exact ⟨['\u212A', 'I'], ['O', '\u017F', '\u212A'], [], by decide,
      .cons ho (.cons hs (.cons hk .nil))⟩
  cases hps : ofStrings ["osk", "KIOS"] with
  | error e =>
    rw [hps] at hok
    cases hok
  | ok ps =>
    obtain ⟨hfound, hfind, -⟩ := search_words hwords hps "\u212AIO\u017F\u212A"
    refine ⟨ps, rfl, (hfind "osk").mpr ⟨[], ["KIOS"], rfl, ?_, hoccurs⟩, ?_⟩
    · simp
    · exact hfound.mpr ⟨"osk", by decide, hoccurs⟩

end TextPatterns

end PullTriage
