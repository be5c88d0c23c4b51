import Mathlib.Data.List.TakeWhile
import PullTriage.Proofs.QuietText
import PullTriage.TextPattern

/-!
  PullTriage.Proofs.ScanText: text that the scan passes over.

  `TextPattern.restoresCase` looks for flag groups that turn `i` off by counting brackets alone.  It
  passes over ordinary characters wherever it stands:

      Passes cs rest   →   (plain d).rejects cs = (plain d).rejects rest

  The readers of blanks, numbers and names take only such characters, as long as no comment holds any
  others.

  Layers:
    * §1: the scan;
    * §2: blanks, digits and names.
-/

namespace PullTriage

namespace TextPattern.Scan

/-! ## §1. The scan. -/

/-- Whether an `i` after a minus sign is met when `cs` is read in state `s`. -/
def rejects (s : Scan) (cs : List Char) : Bool := (cs.foldlM step? s).isNone

@[simp] theorem rejects_nil (s : Scan) : s.rejects [] = false := rfl

/-- A step that does not stop the scan leaves the rest to the next state. -/
theorem rejects_cons {s s' : Scan} {c : Char} (h : s.step? c = some s') (cs : List Char) :
    s.rejects (c :: cs) = s'.rejects cs := by
  unfold rejects
  rw [List.foldlM_cons, h]
  rfl

/-- A step that stops the scan rejects the text. -/
theorem rejects_cons_none {s : Scan} {c : Char} (h : s.step? c = none) (cs : List Char) :
    s.rejects (c :: cs) = true := by
  unfold rejects
  rw [List.foldlM_cons, h]
  rfl

theorem rejects_plain_cons (d : Nat) (c : Char) (cs : List Char) :
    (plain d).rejects (c :: cs) = (next d c).rejects cs := rejects_cons rfl cs

/-- The character behind a backslash is skipped. -/
theorem rejects_escaped_cons (d : Nat) (c : Char) (cs : List Char) :
    (escaped d).rejects (c :: cs) = (plain d).rejects cs := rejects_cons rfl cs

/-- A character that the scan passes over at depth `d`. -/
theorem next_eq_plain {d : Nat} {c : Char} (h₁ : c ≠ '\\') (h₂ : c ≠ '[') (h₃ : c ≠ ']' ∨ d = 0)
    (h₄ : c ≠ '(' ∨ d ≠ 0) : next d c = plain d := by
  unfold next
  rw [if_neg h₁, if_neg h₂]
  split
  case isTrue hc =>
    rcases h₃ with h | rfl
    · exact absurd hc h
    · rfl
  case isFalse =>
    rw [if_neg]
    rintro ⟨hc, hd⟩
    rcases h₄ with h | h
    · exact h hc
    · exact h hd

/-- At depth zero a closing bracket is passed over too. -/
theorem rejects_flat {pre : List Char}
    (h : ∀ c ∈ pre, c ≠ '\\' ∧ c ≠ '[' ∧ c ≠ '(') (cs : List Char) :
    (plain 0).rejects (pre ++ cs) = (plain 0).rejects cs := by
  induction pre with
  | nil => rfl
  | cons c pre ih =>
      obtain ⟨⟨h₁, h₂, h₄⟩, hpre⟩ := List.forall_mem_cons.mp h
      rw [List.cons_append, rejects_plain_cons, next_eq_plain h₁ h₂ (.inr rfl) (.inl h₄), ih hpre]

/-- The part of `cs` that is left after ordinary characters is `rest`. -/
def Passes (cs rest : List Char) : Prop := ∃ pre, cs = pre ++ rest ∧ ∀ c ∈ pre, isOrdinary c = true

theorem Passes.refl (cs : List Char) : Passes cs cs := ⟨[], rfl, fun _ h => nomatch h⟩

/-- Ordinary text after ordinary text is ordinary. -/
theorem Passes.trans {as bs cs : List Char} (h₁ : Passes as bs) (h₂ : Passes bs cs) :
    Passes as cs := by
  obtain ⟨pre₁, rfl, hpre₁⟩ := h₁
  obtain ⟨pre₂, rfl, hpre₂⟩ := h₂
  exact ⟨pre₁ ++ pre₂, (List.append_assoc _ _ _).symm, List.forall_mem_append.mpr ⟨hpre₁, hpre₂⟩⟩

/-- An ordinary character may stand before it. -/
theorem Passes.cons {c : Char} {cs rest : List Char} (hc : isOrdinary c = true)
    (h : Passes cs rest) : Passes (c :: cs) rest := by
  obtain ⟨pre, rfl, hpre⟩ := h
  exact ⟨c :: pre, rfl, List.forall_mem_cons.mpr ⟨hc, hpre⟩⟩

/-- What a test of ordinary characters drops is ordinary. -/
theorem Passes.dropWhile {test : Char → Bool} (h : ∀ c, test c = true → isOrdinary c = true)
    (cs : List Char) : Passes cs (cs.dropWhile test) :=
  ⟨cs.takeWhile test, List.takeWhile_append_dropWhile.symm, fun c hc => h c (List.mem_takeWhile_imp hc)⟩

/-- The scan passes over an ordinary character. -/
theorem rejects_ordinary {c : Char} (hc : isOrdinary c = true) (d : Nat) (cs : List Char) :
    (plain d).rejects (c :: cs) = (plain d).rejects cs := by
  have hne : ¬ (c = '\\' ∨ c = '[' ∨ c = ']' ∨ c = '(') := by
    rw [← isOrdinary_eq_false_iff, hc]
    exact Bool.noConfusion
  simp only [not_or] at hne
  rw [rejects_plain_cons, next_eq_plain hne.1 hne.2.1 (.inl hne.2.2.1) (.inl hne.2.2.2)]

/-- **The scan passes over ordinary text** at any depth. -/
theorem Passes.rejects {cs rest : List Char} (h : Passes cs rest) (d : Nat) :
    (plain d).rejects cs = (plain d).rejects rest := by
  obtain ⟨pre, rfl, hpre⟩ := h
  induction pre with
  | nil => rfl
  | cons c pre ih =>
      obtain ⟨hc, hpre⟩ := List.forall_mem_cons.mp hpre
      rw [List.cons_append, rejects_ordinary hc, ih hpre]

end TextPattern.Scan

namespace Regex

open TextPattern (Scan)
open TextPattern.Scan (Passes rejects_plain_cons rejects_ordinary)

/-! ## §2. Blanks, digits and names. -/

/-- Text that is not of the form `c :: tail` does not begin with `c`. -/
theorem head?_ne_some {c : Char} {cs : List Char} (h : ∀ tail, cs = c :: tail → False) :
    cs.head? ≠ some c := by
  intro hhead
  obtain ⟨tail, rfl⟩ := List.head?_eq_some_iff.mp hhead
  exact h tail rfl

theorem skip_false (cs : List Char) : skip false cs = cs := rfl

/-- Blanks are ordinary, and so are the digits below. -/
theorem isOrdinary_of_isBlank {c : Char} (h : isBlank c = true) : isOrdinary c = true :=
  isOrdinary_of_test isBlank (by decide) h

theorem isOrdinary_of_isDigit {c : Char} (h : c.isDigit = true) : isOrdinary c = true :=
  isOrdinary_of_test Char.isDigit (by decide) h

theorem isOrdinary_of_hexDigit {c : Char} {n : Nat} (h : hexDigit? c = some n) :
    isOrdinary c = true :=
  isOrdinary_of_test (fun c => (hexDigit? c).isSome) (by decide)
    (Option.isSome_iff_exists.mpr ⟨n, h⟩)

/-- A backslash is not ordinary. -/
theorem ne_backslash_of_isOrdinary {c : Char} (h : isOrdinary c = true) : c ≠ '\\' := by
  rintro rfl
  revert h
  decide

/-- What ordinary characters are taken from stays quiet. -/
theorem quiet_of_passes {cs rest : List Char} (h : Passes cs rest) (hq : quiet cs = true) :
    quiet rest = true := by
  obtain ⟨pre, rfl, hpre⟩ := h
  exact quiet_of_append (fun c hc => ne_backslash_of_isOrdinary (hpre c hc)) hq

variable {v : Bool}

/-- Behind ordinary text a pattern stays quiet. -/
theorem QuietIf.passes {cs rest : List Char} (hq : QuietIf v cs) (h : Passes cs rest) :
    QuietIf v rest := fun hv => quiet_of_passes h (hq hv)

/-- So it does behind any character but a backslash. -/
theorem QuietIf.tail {c : Char} {cs : List Char} (hq : QuietIf v (c :: cs)) (hc : c ≠ '\\') :
    QuietIf v cs := fun hv => quiet_tail (hq hv) hc

/-- Dropping blanks and comments takes ordinary text only, in a pattern that is quiet. -/
theorem dropBlank_passes {comment : Bool} {cs : List Char} (hq : quiet cs = true)
    (hcomment : PlainIf comment cs) : Passes cs (dropBlank comment cs) := by
  induction cs generalizing comment with
  | nil => exact .refl _
  | cons c cs ih =>
      have hstep : ∀ {comment}, isOrdinary c = true → PlainIf comment cs →
          Passes (c :: cs) (dropBlank comment cs) := fun hord hplain =>
        (ih (quiet_tail hq (ne_backslash_of_isOrdinary hord)) hplain).cons hord
      rw [dropBlank]
      split
      case isTrue hc =>
        obtain ⟨hord, hplain⟩ := PlainIf.tail (hc ▸ hcomment)
        exact hstep hord hplain
      split
      case isTrue hblank => exact hstep (isOrdinary_of_isBlank hblank) (.of_false _)
      split
      case isTrue hmark =>
        subst hmark
        exact hstep (by decide) (plainIf_of_quiet hq)
      case isFalse => exact .refl _

/-- So does skipping what verbose patterns ignore. -/
theorem skip_passes {cs : List Char} (hq : QuietIf v cs) : Passes cs (skip v cs) := by
  cases v with
  | false => exact .refl cs
  | true => exact dropBlank_passes (hq rfl) (.of_false _)

/-- Digits are ordinary text, with what is skipped between them. -/
theorem spanDecimal_passes {comment : Bool} {acc ds : List Nat} {cs rest : List Char}
    (hq : QuietIf v cs) (hcomment : PlainIf comment cs)
    (h : spanDecimal v comment acc cs = (ds, rest)) : Passes cs rest := by
  induction cs generalizing comment acc with
  | nil =>
      simp only [spanDecimal, Prod.mk.injEq] at h
      rw [← h.2]
      exact .refl _
  | cons c cs ih =>
      -- a character that is passed over is ordinary, and leaves the rest as quiet as before
      have hstep : ∀ {comment acc}, isOrdinary c = true → PlainIf comment cs →
          spanDecimal v comment acc cs = (ds, rest) → Passes (c :: cs) rest := fun hord hplain h =>
        (ih (hq.tail (ne_backslash_of_isOrdinary hord)) hplain h).cons hord
      simp only [spanDecimal] at h
      split at h
      case isTrue hc =>
        obtain ⟨hord, hplain⟩ := PlainIf.tail (hc ▸ hcomment)
        exact hstep hord hplain h
      split at h
      case isTrue hdigit => exact hstep (isOrdinary_of_isDigit hdigit) (.of_false _) h
      split at h
      case isTrue hblank =>
        exact hstep (isOrdinary_of_isBlank (Bool.and_eq_true_iff.mp hblank).2) (.of_false _) h
      split at h
      case isTrue hmark =>
        simp only [Bool.and_eq_true, decide_eq_true_eq] at hmark
        obtain ⟨hverbose, rfl⟩ := hmark
        exact hstep (by decide) (plainIf_of_quiet (hq hverbose)) h
      case isFalse =>
        simp only [Prod.mk.injEq] at h
        rw [← h.2]
        exact .refl _

/-- A number is ordinary text. -/
theorem decimal?_passes {cs rest : List Char} {n : Nat} (hq : QuietIf v cs)
    (h : decimal? v cs = some (n, rest)) : Passes cs rest := by
  unfold decimal? at h
  split at h
  case h_1 digits after hspan =>
    dsimp only at h
    split at h
    · cases h
    · simp only [Option.some.injEq, Prod.mk.injEq] at h
      rw [← h.2]
      have hblank : ∀ c, isBlank c = true → isOrdinary c = true := fun _ => isOrdinary_of_isBlank
      have hfront := Passes.dropWhile hblank cs
      exact (hfront.trans (spanDecimal_passes (hq.passes hfront) (.of_false _) hspan)).trans
        (Passes.dropWhile hblank after)

/-- So are hexadecimal digits. -/
theorem hexDigits?_passes {count value n : Nat} {cs rest : List Char} (hq : QuietIf v cs)
    (h : hexDigits? v count value cs = some (n, rest)) : Passes cs rest := by
  induction count generalizing value cs with
  | zero =>
      simp only [hexDigits?, Option.some.injEq, Prod.mk.injEq] at h
      rw [← h.2]
      exact .refl _
  | succ count ih =>
      cases cs with
      | nil => cases h
      | cons c cs =>
          obtain ⟨d, hd, hrest⟩ := Option.bind_eq_some_iff.mp h
          have hord := isOrdinary_of_hexDigit hd
          have hq' := hq.tail (ne_backslash_of_isOrdinary hord)
          have hskip := skip_passes hq'
          exact (hskip.trans (ih (hq'.passes hskip) hrest)).cons hord

/-- What has been collected stays collected. -/
theorem collectUntil_go_mem {stop : Char} {comment : Bool} {cs acc text rest : List Char}
    (h : collectUntil.go v stop comment acc cs = some (text, rest)) : ∀ c ∈ acc, c ∈ text := by
  induction cs generalizing comment acc with
  | nil => cases h
  | cons c cs ih =>
      unfold collectUntil.go at h
      split at h
      case isTrue => exact ih h
      split at h
      case isTrue => exact ih h
      split at h
      case isTrue => exact ih h
      split at h
      case isTrue =>
        obtain ⟨rfl, -⟩ := Prod.mk.inj (Option.some.inj h)
        exact fun c hc => List.mem_reverse.mpr hc
      case isFalse => exact fun d hd => ih h d (List.mem_cons_of_mem c hd)

/-- What is collected up to an ordinary character is ordinary, if the text that it makes is. -/
theorem collectUntil_go_passes {stop : Char} (hstop : isOrdinary stop = true) {comment : Bool}
    {cs acc text rest : List Char} (hq : QuietIf v cs) (hcomment : PlainIf comment cs)
    (h : collectUntil.go v stop comment acc cs = some (text, rest))
    (htext : ∀ c ∈ text, isOrdinary c = true) : Passes cs rest := by
  induction cs generalizing comment acc with
  | nil => cases h
  | cons c cs ih =>
      have hstep : ∀ {comment acc}, isOrdinary c = true → PlainIf comment cs →
          collectUntil.go v stop comment acc cs = some (text, rest) → Passes (c :: cs) rest :=
        fun hord hplain h => (ih (hq.tail (ne_backslash_of_isOrdinary hord)) hplain h).cons hord
      simp only [collectUntil.go] at h
      split at h
      case isTrue hc =>
        obtain ⟨hord, hplain⟩ := PlainIf.tail (hc ▸ hcomment)
        exact hstep hord hplain h
      split at h
      case isTrue hblank =>
        exact hstep (isOrdinary_of_isBlank (Bool.and_eq_true_iff.mp hblank).2) (.of_false _) h
      split at h
      case isTrue hmark =>
        simp only [Bool.and_eq_true, decide_eq_true_eq] at hmark
        obtain ⟨hverbose, rfl⟩ := hmark
        exact hstep (by decide) (plainIf_of_quiet (hq hverbose)) h
      split at h
      case isTrue hc =>
        obtain ⟨-, rfl⟩ := Prod.mk.inj (Option.some.inj h)
        rw [hc]
        exact (Passes.refl cs).cons hstop
      -- the character is collected, so it is one of the text
      case isFalse => exact hstep (htext c (collectUntil_go_mem h c List.mem_cons_self)) (.of_false _) h

/-- What is collected between braces passes, if the text between them does. -/
theorem collectUntil_passes {cs text rest : List Char} (hq : QuietIf v cs)
    (h : collectUntil v '\x7d' cs = some (text, rest)) (htext : ∀ c ∈ text, isOrdinary c = true) :
    Passes cs rest := collectUntil_go_passes (by decide) hq (.of_false _) h htext

end Regex
end PullTriage
