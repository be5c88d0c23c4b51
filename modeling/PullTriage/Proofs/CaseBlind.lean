import Mathlib.Data.List.Forall2
import PullTriage.Regex.Search

/-!
  PullTriage.Proofs.CaseBlind: sets and patterns that cannot tell the cases of a letter apart.

  A set of characters is *case-blind* when it holds either both or none of `a` and `A`, `b` and `B` and
  so on through the letters below U+0080.  Closing a set under case makes it case-blind, and complements,
  unions and intersections of case-blind sets stay so.  A pattern that is built from such sets and from
  conditions on positions gives the same answer on any two texts that are the same but for case:

      (∀ a ∈ p.steps, a.CaseBlind)  →  SameButCase s t  →  p.found … s = p.found … t

  The search reads a text only through the positions where each set and each condition holds
  (`Pattern.locate`), and these are the same for both texts.
-/

namespace PullTriage
namespace Unicode

/-! ## §1. Characters that are the same but for case. -/

/-- The same code point, or the two cases of a letter below U+0080. -/
def SameButAsciiCase (c d : Nat) : Prop := c = d ∨ (isAsciiLetter c = true ∧ d = swapAsciiCase c)

theorem isAsciiLetter_iff {c : Nat} :
    isAsciiLetter c = true ↔ (0x41 ≤ c ∧ c ≤ 0x5A) ∨ (0x61 ≤ c ∧ c ≤ 0x7A) := by
  simp only [isAsciiLetter, Bool.or_eq_true, Bool.and_eq_true, decide_eq_true_eq]

/-- A letter in the other case is a letter. -/
theorem isAsciiLetter_swap {c : Nat} (h : isAsciiLetter c = true) :
    isAsciiLetter (swapAsciiCase c) = true := by
  rw [isAsciiLetter_iff] at h ⊢
  unfold swapAsciiCase
  split <;> omega

/-- The other case of the other case is the letter itself. -/
theorem swapAsciiCase_swap {c : Nat} (h : isAsciiLetter c = true) :
    swapAsciiCase (swapAsciiCase c) = c := by
  rw [isAsciiLetter_iff] at h
  unfold swapAsciiCase
  split <;> split <;> omega

/-- The two cases of a letter have the same partners from U+0080 on. -/
theorem asciiExtras_swap {c : Nat} (h : isAsciiLetter c = true) :
    asciiExtras (swapAsciiCase c) = asciiExtras c := by
  rw [isAsciiLetter_iff] at h
  have hk : swapAsciiCase c = 0x4B ∨ swapAsciiCase c = 0x6B ↔ c = 0x4B ∨ c = 0x6B := by
    unfold swapAsciiCase
    split <;> omega
  have hs : swapAsciiCase c = 0x53 ∨ swapAsciiCase c = 0x73 ↔ c = 0x53 ∨ c = 0x73 := by
    unfold swapAsciiCase
    split <;> omega
  unfold asciiExtras
  simp only [hk, hs]

/-- A test finds something among the partners of a letter exactly when it does for the other case. -/
theorem any_foldOrbit_swap (test : Nat → Bool) {c : Nat} (h : isAsciiLetter c = true) :
    (foldOrbit (swapAsciiCase c)).any test = (foldOrbit c).any test := by
  unfold foldOrbit
  rw [if_pos (isAsciiLetter_swap h), if_pos h, swapAsciiCase_swap h, asciiExtras_swap h]
  simp only [List.any_cons]
  rw [← Bool.or_assoc, ← Bool.or_assoc, Bool.or_comm (test (swapAsciiCase c))]

namespace CharSet

/-! ## §2. Case-blind sets. -/

/-- The set holds both cases of a letter below U+0080 or neither. -/
def CaseBlind (a : CharSet) : Prop :=
  ∀ c, isAsciiLetter c = true → a.contains (swapAsciiCase c) = a.contains c

/-- A case-blind set does not tell two characters apart that differ in ASCII case only. -/
theorem CaseBlind.contains_eq {a : CharSet} (h : a.CaseBlind) {c d : Nat}
    (hcd : SameButAsciiCase c d) : a.contains c = a.contains d := by
  rcases hcd with rfl | ⟨hc, rfl⟩
  · rfl
  · exact (h c hc).symm

/-- A folded set is case-blind, whatever it was before. -/
theorem CaseBlind.foldCase (a : CharSet) : (CharSet.foldCase a).CaseBlind := by
  intro c hc
  show (foldOrbit (swapAsciiCase c)).any a.contains = (foldOrbit c).any a.contains
  exact any_foldOrbit_swap a.contains hc

/-- So is a set that is folded in ASCII only. -/
theorem CaseBlind.foldAsciiCase (a : CharSet) : (CharSet.foldAsciiCase a).CaseBlind := by
  intro c hc
  simp only [contains, isAsciiLetter_swap hc, hc, swapAsciiCase_swap hc, Bool.true_and]
  exact Bool.or_comm _ _

/-- The complement of a case-blind set is case-blind. -/
theorem CaseBlind.compl {a : CharSet} (h : a.CaseBlind) : (CharSet.compl a).CaseBlind := by
  intro c hc
  simp only [contains, h c hc]

/-- What two case-blind sets have in common is case-blind. -/
theorem CaseBlind.inter {a b : CharSet} (ha : a.CaseBlind) (hb : b.CaseBlind) :
    (CharSet.inter a b).CaseBlind := by
  intro c hc
  simp only [contains, ha c hc, hb c hc]

/-- Two case-blind sets together are case-blind. -/
theorem CaseBlind.union {a b : CharSet} (ha : a.CaseBlind) (hb : b.CaseBlind) :
    (CharSet.union a b).CaseBlind := by
  intro c hc
  simp only [contains, ha c hc, hb c hc]

/-- A range that holds all letters below U+0080 or none of them. -/
theorem CaseBlind.range {low high : Nat}
    (h : (low ≤ 0x41 ∧ 0x7A ≤ high) ∨ high < 0x41 ∨ 0x7A < low) :
    (CharSet.range low high).CaseBlind := by
  intro c hc
  rw [isAsciiLetter_iff] at hc
  simp only [contains]
  rw [Bool.eq_iff_iff]
  simp only [Bool.and_eq_true, decide_eq_true_eq]
  unfold swapAsciiCase
  split <;> omega

theorem CaseBlind.ascii : CharSet.ascii.CaseBlind := .range (by omega)

theorem CaseBlind.full : CharSet.full.CaseBlind := .range (by omega)

/-- The shorthands `\d`, `\s` and `\w` hold a letter of ASCII in both cases or in none. -/
theorem CaseBlind.asciiShorthand (s : Shorthand) : (CharSet.asciiShorthand s).CaseBlind := by
  intro c hc
  rw [isAsciiLetter_iff] at hc
  simp only [contains]
  rw [Bool.eq_iff_iff]
  unfold swapAsciiCase
  cases s <;>
    simp only [Shorthand.containsAscii, Bool.or_eq_true, Bool.and_eq_true, decide_eq_true_eq,
      beq_iff_eq] <;>
    split <;>
    omega

/-- The same for the shorthands over all of Unicode. -/
theorem CaseBlind.shorthand (s : Shorthand) : (CharSet.shorthand s).CaseBlind := by
  intro c hc
  have ha := CaseBlind.asciiShorthand s c hc
  rw [isAsciiLetter_iff] at hc
  have hlt : c < 0x80 := by omega
  have hlt' : swapAsciiCase c < 0x80 := by
    unfold swapAsciiCase
    split <;> omega
  show s.contains (swapAsciiCase c) = s.contains c
  unfold Shorthand.contains
  rw [if_pos hlt', if_pos hlt]
  exact ha

end CharSet
end Unicode

/-! ## §3. Patterns over case-blind sets. -/

namespace Pattern

variable {σ γ σ' γ' : Type}

/-- The step tests of a pattern. -/
def steps : Pattern σ γ → List σ
  | empty => []
  | step t => [t]
  | guard _ => []
  | seq p q => p.steps ++ q.steps
  | alt p q => p.steps ++ q.steps
  | repeated p _ _ => p.steps

/-- The steps of a row are those of its patterns. -/
theorem mem_steps_ofList {ps : List (Pattern σ γ)} {t : σ} :
    t ∈ (ofList ps).steps ↔ ∃ p ∈ ps, t ∈ p.steps := by
  induction ps with
  | nil => simp [ofList, steps]
  | cons p rest ih =>
      cases rest with
      | nil => simp [ofList]
      | cons q rest =>
          show t ∈ p.steps ++ (ofList (q :: rest)).steps ↔ _
          simp only [List.mem_append, ih, List.exists_mem_cons_iff]

/-- A repetition has the steps of its body, however often it repeats. -/
theorem steps_repeatedTimes (p : Pattern σ γ) (least : Nat) (most : Option Nat) :
    (p.repeatedTimes least most).steps = p.steps := by
  unfold repeatedTimes
  split <;> rfl

/-- Changing tests only depends on what becomes of the tests that occur. -/
theorem map_congr_steps {f f' : σ → σ'} {g g' : γ → γ'} (hg : ∀ t, g t = g' t) :
    ∀ {p : Pattern σ γ}, (∀ t ∈ p.steps, f t = f' t) → p.map f g = p.map f' g' := by
  intro p
  induction p with
  | empty => intro _; rfl
  | step t =>
      intro h
      show step (f t) = step (f' t)
      rw [h t List.mem_cons_self]
  | guard t =>
      intro _
      show guard (g t) = guard (g' t)
      rw [hg t]
  | seq p q ihp ihq =>
      intro h
      show seq (p.map f g) (q.map f g) = seq (p.map f' g') (q.map f' g')
      rw [ihp fun t ht => h t (List.mem_append_left _ ht),
        ihq fun t ht => h t (List.mem_append_right _ ht)]
  | alt p q ihp ihq =>
      intro h
      show alt (p.map f g) (q.map f g) = alt (p.map f' g') (q.map f' g')
      rw [ihp fun t ht => h t (List.mem_append_left _ ht),
        ihq fun t ht => h t (List.mem_append_right _ ht)]
  | repeated p least most ih =>
      intro h
      show repeated (p.map f g) least most = repeated (p.map f' g') least most
      rw [ih h]

/-! ### The positions of two related texts. -/

variable {α : Type} {R : α → α → Prop}

/-- Texts whose symbols correspond have the same places where a test succeeds that does not tell
corresponding symbols apart. -/
theorem symbolsThat_congr {test : α → Bool} (htest : ∀ a b, R a b → test a = test b)
    {s t : List α} (h : List.Forall₂ R s t) : symbolsThat test s = symbolsThat test t := by
  induction h with
  | nil => rfl
  | cons hab _ ih =>
      unfold symbolsThat
      rw [htest _ _ hab, ih]

/-- The same for the gaps between symbols. -/
theorem gapsThat_congr {test : Option α → Option α → Bool}
    (htest : ∀ a a' b b', Option.Rel R a a' → Option.Rel R b b' → test a b = test a' b')
    {s t : List α} (h : List.Forall₂ R s t) :
    ∀ {a a' : Option α}, Option.Rel R a a' → gapsThat test a s = gapsThat test a' t := by
  induction h with
  | nil =>
      intro a a' ha
      unfold gapsThat
      rw [htest a a' none none ha .none]
  | cons hbc _ ih =>
      intro a a' ha
      unfold gapsThat
      rw [htest a a' _ _ ha (.some hbc), ih (.some hbc)]

/-- Texts that no test of a pattern tells apart are the same to the search. -/
theorem found_congr {symbol : σ → α → Bool} {gap : γ → Option α → Option α → Bool}
    {p : Pattern σ γ} {s t : List α} (h : List.Forall₂ R s t)
    (hsymbol : ∀ u ∈ p.steps, ∀ a b, R a b → symbol u a = symbol u b)
    (hgap : ∀ u a a' b b', Option.Rel R a a' → Option.Rel R b b' → gap u a b = gap u a' b') :
    p.found symbol gap s = p.found symbol gap t := by
  have hlocate : p.locate symbol gap s = p.locate symbol gap t :=
    map_congr_steps (fun u => gapsThat_congr (hgap u) h .none)
      (fun u hu => symbolsThat_congr (hsymbol u hu) h)
  unfold found
  rw [hlocate, h.length_eq]

end Pattern

/-! ## §4. Conditions on positions. -/

namespace Regex

open Unicode (SameButAsciiCase CharSet isAsciiLetter isAsciiLetter_iff swapAsciiCase)

/-- Whether a character belongs to a word does not depend on its case. -/
theorem isWord_congr (ascii : Bool) {c d : Nat} (h : SameButAsciiCase c d) :
    isWord ascii c = isWord ascii d := by
  cases ascii with
  | false => exact (CharSet.CaseBlind.shorthand .word).contains_eq h
  | true => exact (CharSet.CaseBlind.asciiShorthand .word).contains_eq h

/-- A character that is no letter is the same as any other but for case only if the two are equal. -/
theorem beq_congr {n : Nat} (hn : isAsciiLetter n = false) {c d : Nat} (h : SameButAsciiCase c d) :
    (c == n) = (d == n) := by
  rcases h with rfl | ⟨hc, rfl⟩
  · rfl
  · have hc' : c ≠ n := by
      rintro rfl
      rw [hc] at hn
      cases hn
    have hd : swapAsciiCase c ≠ n := by
      rintro rfl
      rw [Unicode.isAsciiLetter_swap hc] at hn
      cases hn
    rw [beq_false_of_ne hc', beq_false_of_ne hd]

/-- The steps of alternatives are those of the patterns. -/
theorem mem_steps_alternatives {ps : List CharPattern} {t : CharSet} :
    t ∈ (alternatives ps).steps ↔ ∃ p ∈ ps, t ∈ p.steps := by
  induction ps with
  | nil => simp [alternatives, Pattern.steps]
  | cons p rest ih =>
      cases rest with
      | nil => simp [alternatives]
      | cons q rest =>
          show t ∈ p.steps ++ (alternatives (q :: rest)).steps ↔ _
          simp only [List.mem_append, ih, List.exists_mem_cons_iff]

/-- The neighbours of a position, which are missing at the ends of a text, but for case. -/
abbrev SameNeighbour : Option Nat → Option Nat → Prop := Option.Rel SameButAsciiCase

/-- A test of a neighbour that is blind to case agrees on neighbours that are the same up to case. -/
theorem all_congr {test : Nat → Bool} (h : ∀ c d, SameButAsciiCase c d → test c = test d)
    {a b : Option Nat} (hab : SameNeighbour a b) : a.all test = b.all test := by
  cases hab with
  | none => rfl
  | some hcd => exact h _ _ hcd

/-- The same where there has to be a neighbour. -/
theorem any_congr {test : Nat → Bool} (h : ∀ c d, SameButAsciiCase c d → test c = test d)
    {a b : Option Nat} (hab : SameNeighbour a b) : a.any test = b.any test := by
  cases hab with
  | none => rfl
  | some hcd => exact h _ _ hcd

/-- Neighbours that are the same up to case differ alike from a character that is no letter. -/
theorem bne_some_congr {n : Nat} (hn : isAsciiLetter n = false) {a b : Option Nat}
    (hab : SameNeighbour a b) : (a != some n) = (b != some n) := by
  cases hab with
  | none => rfl
  | @some c d hcd =>
      have h := beq_congr hn hcd
      show (!(c == n)) = !(d == n)
      rw [h]

/-- Conditions on positions only ask for line ends and word characters, so case does not count. -/
theorem Look.holds_congr (look : Look) {a a' b b' : Option Nat} (ha : SameNeighbour a a')
    (hb : SameNeighbour b b') : look.holds a b = look.holds a' b' := by
  -- the ends of lines are no letters
  have hLF : isAsciiLetter 0x0A = false := by decide
  have hCR : isAsciiLetter 0x0D = false := by decide
  cases look with
  | textStart => cases ha <;> rfl
  | textEnd => cases hb <;> rfl
  | lineStart carriageReturn =>
      cases carriageReturn with
      | false => exact all_congr (fun _ _ h => beq_congr hLF h) ha
      | true =>
          cases ha with
          | none => rfl
          | @some c d h =>
              show (c == 0x0A || (c == 0x0D && b != some 0x0A))
                = (d == 0x0A || (d == 0x0D && b' != some 0x0A))
              rw [beq_congr hLF h, beq_congr hCR h, bne_some_congr hLF hb]
  | lineEnd carriageReturn =>
      cases carriageReturn with
      | false => exact all_congr (fun _ _ h => beq_congr hLF h) hb
      | true =>
          cases hb with
          | none => rfl
          | @some c d h =>
              show (c == 0x0D || (c == 0x0A && a != some 0x0D))
                = (d == 0x0D || (d == 0x0A && a' != some 0x0D))
              rw [beq_congr hLF h, beq_congr hCR h, bne_some_congr hCR ha]
  | word kind ascii =>
      show kind.holds _ _ = kind.holds _ _
      rw [any_congr (fun _ _ h => isWord_congr ascii h) ha,
        any_congr (fun _ _ h => isWord_congr ascii h) hb]

end Regex
end PullTriage
