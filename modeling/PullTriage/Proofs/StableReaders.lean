import PullTriage.Proofs.FlagScan

/-!
  PullTriage.Proofs.StableReaders: what a reader reads does not depend on what follows.

  Every reader of the parser takes some characters off the front and leaves the rest.  `Stable` says that
  it would take off the same characters whatever the rest was:

      read cs = some (a, rest)  →  ∃ text, cs = text ++ rest ∧
        ∀ rest', ok rest' → ∃ rest'', read (text ++ rest') = some (a, rest'') ∧ skip v rest'' = skip v rest'

  Some readers skip the blanks and comments behind what they read, if the pattern is verbose, so the other
  rest is only left up to what is skipped.  A few look past their end, and then the other rest has to be
  `ok`: there has to be something of it if there was something of the first (or a comment would go on), and
  behind `\b` no name may follow in braces if none did.

  Classes are in `Proofs.StableClasses`, groups and counts in `Proofs.StablePieces`.

  Main statement: `primitive?_stable`.
-/

namespace PullTriage.Regex

/-! ## §1. Blanks and comments. -/

/-- A character is skipped, or it is the first that is not. -/
theorem dropBlank_cases (comment : Bool) (c : Char) :
    (∃ comment', ∀ cs, dropBlank comment (c :: cs) = dropBlank comment' cs) ∨
      comment = false ∧ ∀ cs, dropBlank false (c :: cs) = c :: cs := by
  cases comment with
  | true => exact .inl ⟨c != '\n', fun _ => rfl⟩
  | false =>
      by_cases hblank : isBlank c = true
      · exact .inl ⟨false, fun cs => by rw [dropBlank, if_neg Bool.false_ne_true, if_pos hblank]⟩
      by_cases hmark : c = '#'
      · refine .inl ⟨true, fun cs => ?_⟩
        rw [dropBlank, if_neg Bool.false_ne_true, if_neg hblank, if_pos hmark]
      · refine .inr ⟨rfl, fun cs => ?_⟩
        rw [dropBlank, if_neg Bool.false_ne_true, if_neg hblank, if_neg hmark]

/-- What is left after dropping has no blanks to drop. -/
theorem dropBlank_dropBlank (comment : Bool) (cs : List Char) :
    dropBlank false (dropBlank comment cs) = dropBlank comment cs := by
  induction cs generalizing comment with
  | nil => rfl
  | cons c cs ih =>
      rcases dropBlank_cases comment c with ⟨comment', hdrop⟩ | ⟨rfl, hkept⟩
      · rw [hdrop]
        exact ih comment'
      · rw [hkept, hkept]

/-- What is skipped is skipped before any other rest, too, unless it is a comment without an end. -/
theorem dropBlank_eq (comment : Bool) (cs : List Char) : ∃ pre, cs = pre ++ dropBlank comment cs ∧
    ∀ rest, (dropBlank comment cs = [] → rest = []) →
      dropBlank comment (pre ++ rest) = dropBlank false rest := by
  induction cs generalizing comment with
  | nil =>
      refine ⟨[], rfl, fun rest hrest => ?_⟩
      rw [hrest rfl]
      rfl
  | cons c cs ih =>
      rcases dropBlank_cases comment c with ⟨comment', hdrop⟩ | ⟨rfl, hkept⟩
      · obtain ⟨pre, hcs, hskip⟩ := ih comment'
        rw [hdrop]
        refine ⟨c :: pre, congrArg (c :: ·) hcs, fun rest hrest => ?_⟩
        rw [List.cons_append, hdrop]
        exact hskip rest hrest
      · rw [hkept]
        exact ⟨[], rfl, fun _ _ => rfl⟩

section Skip

variable {v : Bool} {cs rest : List Char}

/-- Skipping twice skips no more. -/
theorem skip_skip (v : Bool) (cs : List Char) : skip v (skip v cs) = skip v cs := by
  cases v with
  | false => rfl
  | true => exact dropBlank_dropBlank false cs

theorem skip_nil (v : Bool) : skip v [] = [] := by
  cases v <;> rfl

/-- What is skipped is skipped before any rest, unless nothing was left and something comes. -/
theorem skip_eq (v : Bool) (cs : List Char) : ∃ pre, cs = pre ++ skip v cs ∧
    ∀ rest, (skip v cs = [] → rest = []) → skip v (pre ++ rest) = skip v rest := by
  cases v with
  | false => exact ⟨[], rfl, fun _ _ => rfl⟩
  | true => exact dropBlank_eq false cs

/-- Skipping makes no text longer. -/
theorem length_skip_le (v : Bool) (cs : List Char) : (skip v cs).length ≤ cs.length := by
  obtain ⟨pre, hcs, -⟩ := skip_eq v cs
  have hlength := congrArg List.length hcs
  rw [List.length_append] at hlength
  omega

/-- A character that is not skipped is not skipped before any other rest. -/
theorem skip_cons {c : Char} {tail : List Char} (h : skip v (c :: tail) = c :: tail)
    (rest : List Char) : skip v (c :: rest) = c :: rest := by
  cases v with
  | false => rfl
  | true =>
      have hshorter : ∀ comment, dropBlank comment tail ≠ c :: tail := by
        intro comment heq
        obtain ⟨pre, hpre, -⟩ := dropBlank_eq comment tail
        have hlength := congrArg List.length (hpre.trans (congrArg (pre ++ ·) heq))
        simp only [List.length_append, List.length_cons] at hlength
        omega
      rcases dropBlank_cases false c with ⟨comment', hdrop⟩ | ⟨-, hkept⟩
      · exact absurd ((hdrop tail).symm.trans h) (hshorter comment')
      · exact hkept rest

/-- What is skipped, and what stands behind it. -/
theorem skip_eq_cons {c : Char} {tail : List Char} (h : skip v cs = c :: tail) :
    (∃ pre, cs = pre ++ c :: tail ∧ ∀ rest, skip v (pre ++ c :: rest) = c :: rest) ∧
      ∀ rest, skip v (c :: rest) = c :: rest := by
  have hstays : skip v (c :: tail) = c :: tail := by
    rw [← h, skip_skip]
  have hkept : ∀ rest, skip v (c :: rest) = c :: rest := skip_cons hstays
  obtain ⟨pre, hcs, hskip⟩ := skip_eq v cs
  rw [h] at hcs hskip
  exact ⟨⟨pre, hcs, fun rest => (hskip _ nofun).trans (hkept rest)⟩, hkept⟩

/-- As long as the first character stays that is not skipped, the same is skipped. -/
theorem skip_front {c : Char} {text tail : List Char} (h : skip v cs = text ++ c :: tail) :
    ∃ pre, cs = pre ++ (text ++ c :: tail) ∧
      ∀ tail', skip v (pre ++ (text ++ c :: tail')) = text ++ c :: tail' := by
  cases text with
  | nil => exact (skip_eq_cons h).1
  | cons d text =>
      obtain ⟨⟨pre, hcs, hskip⟩, -⟩ := skip_eq_cons h
      exact ⟨pre, hcs, fun tail' => hskip (text ++ c :: tail')⟩

end Skip

/-! ## §2. Stable readers. -/

/-- A reader takes the front of `cs` off and leaves `rest`, and with any other rest that is `ok` it would
take off the same and leave that rest, up to what is skipped. -/
def Stable {α : Type} (v : Bool) (read : List Char → Option (α × List Char)) (ok : List Char → Prop)
    (cs : List Char) (a : α) (rest : List Char) : Prop :=
  ∃ text, cs = text ++ rest ∧ ∀ rest', ok rest' →
    ∃ rest'', read (text ++ rest') = some (a, rest'') ∧ skip v rest'' = skip v rest'

/-- Any rest will do. -/
abbrev Anything : List Char → Prop := fun _ => True

/-- Where nothing was left there must be nothing, since a comment may have no end. -/
def Ended (rest : List Char) : List Char → Prop := fun rest' => rest = [] → rest' = []

/-- Only the first character is looked at. -/
def BeginsWith (c : Char) (rest : List Char) : Prop := ∃ tail, rest = c :: tail

/-- A rest with a character in it has not ended. -/
theorem Ended.of_append_cons (pre : List Char) (c : Char) (tail rest' : List Char) :
    Ended (pre ++ c :: tail) rest' :=
  fun hnil => absurd (List.append_eq_nil_iff.mp hnil).2 (List.cons_ne_nil c tail)

/-- A rest that ends with another does so behind blanks, too. -/
theorem Ended.skip {v : Bool} {rest rest' : List Char} (h : Ended rest rest') :
    Ended rest (Regex.skip v rest') := by
  intro hrest
  rw [h hrest, skip_nil]

namespace Stable

variable {α β : Type} {v : Bool} {read : List Char → Option (α × List Char)} {ok : List Char → Prop}
  {cs rest : List Char} {c : Char} {a : α}

/-- A reader that leaves any rest as it is. -/
theorem of_exact (text : List Char) (hcs : cs = text ++ rest)
    (h : ∀ rest', ok rest' → read (text ++ rest') = some (a, rest')) : Stable v read ok cs a rest :=
  ⟨text, hcs, fun rest' hok => ⟨rest', h rest' hok, rfl⟩⟩

/-- A reader that is stable without skipping reads the same text before any good rest. -/
theorem exact (h : Stable false read ok cs a rest) :
    ∃ text, cs = text ++ rest ∧ ∀ rest', ok rest' → read (text ++ rest') = some (a, rest') := by
  obtain ⟨text, hcs, hread⟩ := h
  refine ⟨text, hcs, fun rest' hok => ?_⟩
  obtain ⟨rest'', h, heq⟩ := hread rest' hok
  rw [h]
  exact congrArg (fun r => some (a, r)) heq

/-- A reader that is stable without skipping is stable. -/
theorem up_to (h : Stable false read ok cs a rest) : Stable v read ok cs a rest := by
  obtain ⟨text, hcs, hread⟩ := h.exact
  exact .of_exact text hcs hread

/-- A reader that is stable before some rests is stable before fewer. -/
theorem weaken {ok' : List Char → Prop} (h : Stable v read ok cs a rest)
    (hok : ∀ rest', ok' rest' → ok rest') : Stable v read ok' cs a rest := by
  obtain ⟨text, hcs, hread⟩ := h
  exact ⟨text, hcs, fun rest' h => hread rest' (hok rest' h)⟩

/-- One character more. -/
theorem cons {read' : List Char → Option (α × List Char)} (h : Stable v read ok cs a rest)
    (hread' : ∀ cs, read' (c :: cs) = read cs) : Stable v read' ok (c :: cs) a rest := by
  obtain ⟨text, rfl, hread⟩ := h
  refine ⟨c :: text, rfl, fun rest' h => ?_⟩
  rw [List.cons_append, hread']
  exact hread rest' h

/-- One character only. -/
theorem one (h : ∀ rest', read (c :: rest') = some (a, rest')) : Stable v read ok (c :: cs) a cs :=
  .of_exact [c] rfl fun rest' _ => h rest'

/-- Nothing is read. -/
theorem nothing (h : ∀ rest', read rest' = some (a, rest')) : Stable v read ok cs a cs :=
  .of_exact [] rfl fun rest' _ => h rest'

/-- A reader that reads nothing from nothing reads the first character. -/
theorem uncons (h : Stable v read ok (c :: cs) a rest) (hok : ok []) (hnil : read [] = none) :
    Stable v (fun cs => read (c :: cs)) ok cs a rest := by
  obtain ⟨text, hcs, hread⟩ := h
  cases text with
  | nil =>
      -- nothing is read, so nothing would be read from nothing
      obtain ⟨rest'', hempty, -⟩ := hread [] hok
      rw [List.nil_append, hnil] at hempty
      cases hempty
  | cons d text =>
      obtain ⟨rfl, rfl⟩ := List.cons.inj hcs
      exact ⟨text, rfl, hread⟩

/-- What is read is made into something else. -/
theorem map {b : β} (h : Stable v read ok cs a rest) (f : α → Option β) (hf : f a = some b) :
    Stable v (fun cs => (read cs).bind fun x => (f x.1).map fun b => (b, x.2)) ok cs b rest := by
  obtain ⟨text, hcs, hread⟩ := h
  refine ⟨text, hcs, fun rest' h => ?_⟩
  obtain ⟨rest'', hread, hskip⟩ := hread rest' h
  refine ⟨rest'', ?_, hskip⟩
  show (read (text ++ rest')).bind _ = _
  rw [hread]
  show (f a).map _ = _
  rw [hf]
  rfl

/-- Something is skipped first. -/
theorem after_skip (h : Stable v read ok (skip v cs) a rest) (hok : ∀ rest', ok rest' → ok (skip v rest'))
    (hended : ∀ rest', ok rest' → Ended rest rest') :
    Stable v (fun cs => read (skip v cs)) ok cs a rest := by
  obtain ⟨pre, hcs, hskip⟩ := skip_eq v cs
  obtain ⟨text, htext, hread⟩ := h
  refine ⟨pre ++ text, by rw [List.append_assoc, ← htext, ← hcs], fun rest' h => ?_⟩
  have hfront : skip v (pre ++ text ++ rest') = skip v (text ++ rest') := by
    rw [List.append_assoc]
    refine hskip _ fun hnil => ?_
    obtain ⟨rfl, hrest⟩ := List.append_eq_nil_iff.mp (htext.symm.trans hnil)
    exact hended rest' h hrest
  show ∃ rest'', read (skip v (pre ++ text ++ rest')) = _ ∧ _
  rw [hfront]
  cases text with
  | nil =>
      -- with nothing read, the skipping goes on into the other rest
      obtain ⟨rest'', hread, heq⟩ := hread _ (hok rest' h)
      exact ⟨rest'', hread, heq.trans (skip_skip v rest')⟩
  | cons d text =>
      rw [List.cons_append, (skip_eq_cons htext).2]
      exact hread rest' h

/-- Something is skipped afterwards. -/
theorem skip_after (h : Stable false read Anything cs a rest) :
    Stable v (fun cs => (read cs).map fun x => (x.1, skip v x.2)) (Ended (skip v rest)) cs a
      (skip v rest) := by
  obtain ⟨text, hcs, hread⟩ := h.exact
  obtain ⟨pre, hrest, hskip⟩ := skip_eq v rest
  refine ⟨text ++ pre, by rw [List.append_assoc, ← hrest, ← hcs], fun rest' hended => ?_⟩
  refine ⟨skip v rest', ?_, skip_skip v rest'⟩
  rw [List.append_assoc]
  show (read (text ++ (pre ++ rest'))).map _ = _
  rw [hread _ trivial, ← hskip rest' hended]
  rfl

/-- Something is skipped first, and the character behind what is read stays. -/
theorem after_skip_exact {tail : List Char}
    (h : Stable false read (BeginsWith c) (skip v cs) a (c :: tail)) :
    Stable false (fun cs => read (skip v cs)) (BeginsWith c) cs a (c :: tail) := by
  obtain ⟨text, htext, hread⟩ := h.exact
  obtain ⟨pre, hcs, hskip⟩ := skip_front htext
  refine .of_exact (pre ++ text) (by rw [hcs, List.append_assoc]) ?_
  rintro _ ⟨tail', rfl⟩
  rw [List.append_assoc, hskip]
  exact hread _ ⟨tail', rfl⟩

/-- Something is skipped first, and the character behind it is read. -/
theorem after_skip_cons {tail : List Char} (hcs : skip v cs = c :: tail)
    (h : Stable false (fun cs => read (c :: cs)) ok tail a rest) :
    Stable false (fun cs => read (skip v cs)) ok cs a rest := by
  obtain ⟨⟨pre, rfl, hpre⟩, -⟩ := skip_eq_cons hcs
  obtain ⟨text, rfl, hread⟩ := h.exact
  refine .of_exact (pre ++ c :: text) (by simp) fun rest' hok => ?_
  rw [List.append_assoc, List.cons_append, hpre]
  exact hread rest' hok

/-- Two readers, one behind the other. -/
theorem bind {b : β} {read' : α → List Char → Option (β × List Char)} {ok' : List Char → Prop}
    {mid : List Char} (h : Stable false read (BeginsWith c) cs a (c :: mid))
    (h' : Stable v (read' a) ok' (c :: mid) b rest)
    (hok : rest = c :: mid → ∀ rest', ok' rest' → BeginsWith c rest') :
    Stable v (fun cs => (read cs).bind fun x => read' x.1 x.2) ok' cs b rest := by
  obtain ⟨text, rfl, hread⟩ := h.exact
  obtain ⟨text', hmid, hread'⟩ := h'
  refine ⟨text ++ text', by rw [List.append_assoc, ← hmid], fun rest' h => ?_⟩
  have hbegins : BeginsWith c (text' ++ rest') := by
    cases text' with
    | nil => exact hok hmid.symm rest' h
    | cons d text' => exact ⟨text' ++ rest', by rw [(List.cons.inj hmid).1]; rfl⟩
  obtain ⟨rest'', hrest'', hskip⟩ := hread' rest' h
  refine ⟨rest'', ?_, hskip⟩
  show (read (text ++ text' ++ rest')).bind _ = _
  rw [List.append_assoc, hread _ hbegins]
  exact hrest''

end Stable

/-! ## §3. Digits, names and escapes. -/

variable {v : Bool}

/-- Hexadecimal digits are read alike, as long as the rest does not end. -/
theorem hexDigits?_stable {count value n : Nat} {cs rest : List Char}
    (h : hexDigits? v count value cs = some (n, rest)) :
    Stable v (hexDigits? v count value) (Ended rest) cs n rest := by
  induction count generalizing value cs with
  | zero =>
      obtain ⟨rfl, rfl⟩ := Prod.mk.inj (Option.some.inj h)
      exact .nothing fun _ => rfl
  | succ count ih =>
      cases cs with
      | nil => cases h
      | cons c cs =>
          obtain ⟨d, hd, h⟩ := Option.bind_eq_some_iff.mp h
          refine ((ih h).after_skip (fun _ => Ended.skip) fun _ => id).cons fun cs => ?_
          show (hexDigit? c).bind _ = _
          rw [hd]
          rfl

/-- A name is what stands before its end. -/
theorem takeWhile_name {stop : Char} {name : List Char} (h : stop ∉ name) (rest : List Char) :
    (name ++ stop :: rest).takeWhile (· != stop) = name ∧
      (name ++ stop :: rest).dropWhile (· != stop) = stop :: rest := by
  have hname : ∀ c ∈ name, (c != stop) = true := by
    intro c hc
    rw [bne_iff_ne]
    rintro rfl
    exact h hc
  rw [List.takeWhile_append_of_pos hname, List.dropWhile_append_of_pos hname]
  simp

/-- A character is passed over or collected, or it is the one that ends the text. -/
theorem collectUntil_go_cases (v : Bool) (stop : Char) (comment : Bool) (acc : List Char) (c : Char) :
    (∃ comment' acc', ∀ cs,
        collectUntil.go v stop comment acc (c :: cs) = collectUntil.go v stop comment' acc' cs) ∨
      ∀ cs, collectUntil.go v stop comment acc (c :: cs) = some (acc.reverse, cs) := by
  simp only [collectUntil.go]
  by_cases hcomment : comment = true
  · exact .inl ⟨c != '\n', acc, fun _ => if_pos hcomment⟩
  by_cases hblank : (v && isBlank c) = true
  · exact .inl ⟨false, acc, fun _ => by rw [if_neg hcomment, if_pos hblank]⟩
  by_cases hmark : (v && decide (c = '#')) = true
  · exact .inl ⟨true, acc, fun _ => by rw [if_neg hcomment, if_neg hblank, if_pos hmark]⟩
  by_cases hstop : c = stop
  · exact .inr fun _ => by rw [if_neg hcomment, if_neg hblank, if_neg hmark, if_pos hstop]
  · refine .inl ⟨false, c :: acc, fun _ => ?_⟩
    rw [if_neg hcomment, if_neg hblank, if_neg hmark, if_neg hstop]

/-- What is collected up to a character is collected alike before anything. -/
theorem collectUntil_go_stable {stop : Char} {comment : Bool} {acc cs name rest : List Char}
    (h : collectUntil.go v stop comment acc cs = some (name, rest)) :
    Stable false (collectUntil.go v stop comment acc) Anything cs name rest := by
  induction cs generalizing comment acc with
  | nil => cases h
  | cons c cs ih =>
      rcases collectUntil_go_cases v stop comment acc c with ⟨comment', acc', hstep⟩ | hstop
      · rw [hstep] at h
        exact (ih h).cons hstep
      · rw [hstop] at h
        obtain ⟨rfl, rfl⟩ := Prod.mk.inj (Option.some.inj h)
        exact .one hstop

/-- A text up to a sign. -/
theorem collectUntil_stable {stop : Char} {cs name rest : List Char}
    (h : collectUntil v stop cs = some (name, rest)) :
    Stable false (collectUntil v stop) Anything cs name rest := collectUntil_go_stable h

/-- What is skipped in front is not collected. -/
theorem collectUntil_skip (v : Bool) (stop : Char) (cs : List Char) :
    collectUntil v stop (skip v cs) = collectUntil v stop cs := by
  cases v with
  | false => rfl
  | true =>
      -- both pass over the same characters, in and outside comments
      have hgo : ∀ comment, collectUntil.go true stop false [] (dropBlank comment cs) =
          collectUntil.go true stop comment [] cs := by
        induction cs with
        | nil => exact fun comment => rfl
        | cons c cs ih =>
            intro comment
            cases comment with
            | true => exact ih (c != '\n')
            | false =>
                by_cases hblank : isBlank c = true
                · simp only [dropBlank, collectUntil.go, hblank, Bool.and_self, if_true,
                    Bool.false_eq_true, if_false, ih false]
                by_cases hmark : c = '#'
                · subst hmark
                  exact ih true
                · simp only [dropBlank, hblank, hmark, Bool.false_eq_true, if_false]
      exact hgo false

theorem skip_brace (v : Bool) (cs : List Char) : skip v ('\x7b' :: cs) = '\x7b' :: cs := by
  cases v <;> rfl

/-- A reader that skips something first is stable if it is where there is nothing to skip. -/
theorem Stable.of_skipped {α : Type} {read : List Char → Option (α × List Char)}
    (hread : ∀ cs, read (skip v cs) = read cs) {ok : List Char → Prop} {cs rest : List Char} {a : α}
    (hok : ∀ rest', ok rest' → ok (skip v rest')) (hended : ∀ rest', ok rest' → Ended rest rest')
    (h : Stable v read ok (skip v cs) a rest) : Stable v read ok cs a rest := by
  have hsame : (fun cs => read (skip v cs)) = read := funext hread
  exact hsame ▸ h.after_skip hok hended

/-- The character whose code hexadecimal digits in braces write. -/
def bracedCode? (digits : List Char) : Option Primitive :=
  if digits.isEmpty then none
  else (digits.foldlM (fun n c => (hexDigit? c).map (n * 16 + ·)) 0).bind fun value =>
    (charOfCode? value).map fun c => .literal ⟨c, false⟩

/-- Blanks before a code point do not count. -/
theorem hexEscape?_skip (v : Bool) (width : Nat) (cs : List Char) :
    hexEscape? v width (skip v cs) = hexEscape? v width cs := by
  unfold hexEscape?
  rw [skip_skip]

/-- A code point in braces. -/
theorem hexEscape?_braced (width : Nat) (cs : List Char) :
    hexEscape? v width ('\x7b' :: cs) =
      ((collectUntil v '\x7d' cs).bind fun x => (bracedCode? x.1).map fun p => (p, x.2)).map
        fun x => (x.1, skip v x.2) := by
  unfold hexEscape? bracedCode?
  rw [skip_brace]
  simp only [Option.bind_eq_bind, Option.pure_def]
  cases collectUntil v '\x7d' cs with
  | none => rfl
  | some x =>
      obtain ⟨digits, rest⟩ := x
      simp only [Option.bind_some]
      split
      · rfl
      · cases digits.foldlM (fun n c => (hexDigit? c).map (n * 16 + ·)) 0 with
        | none => rfl
        | some value => cases hcode : charOfCode? value <;> simp [hcode]

/-- A code point of a fixed number of digits. -/
theorem hexEscape?_digits (width : Nat) {c : Char} (hbrace : c ≠ '\x7b') {cs : List Char}
    (hskip : skip v (c :: cs) = c :: cs) : hexEscape? v width (c :: cs) =
      (hexDigits? v width 0 (c :: cs)).bind fun x =>
        ((charOfCode? x.1).map fun c => Primitive.literal ⟨c, width == 2⟩).map fun p => (p, x.2) := by
  unfold hexEscape?
  rw [hskip]
  simp only [Option.bind_eq_bind, Option.pure_def]
  split
  case h_1 heq => cases heq
  case h_2 heq => exact absurd (List.cons.inj heq).1 hbrace
  case h_3 =>
    congr 1
    funext ⟨value, rest⟩
    dsimp only
    cases charOfCode? value <;> rfl

/-- **A code point is read alike, as long as the rest does not end.** -/
theorem hexEscape?_stable {width : Nat} (hwidth : width ≠ 0) {p : Primitive} {cs rest : List Char}
    (h : hexEscape? v width cs = some (p, rest)) :
    Stable v (hexEscape? v width) (Ended rest) cs p rest := by
  rw [← hexEscape?_skip] at h
  refine .of_skipped (hexEscape?_skip v width) (fun _ => Ended.skip) (fun _ => id) ?_
  cases hcs : skip v cs with
  | nil =>
      rw [hcs, ← hexEscape?_skip, skip_nil] at h
      unfold hexEscape? at h
      rw [skip_nil] at h
      cases h
  | cons c tail =>
      rw [hcs] at h
      have hkept := (skip_eq_cons hcs).2
      -- a code in braces ends at the brace, one without them after a fixed number of digits
      by_cases hbrace : c = '\x7b'
      · subst hbrace
        rw [hexEscape?_braced] at h
        obtain ⟨⟨p', after⟩, hp, heq⟩ := Option.map_eq_some_iff.mp h
        obtain ⟨rfl, rfl⟩ := Prod.mk.inj heq
        obtain ⟨⟨digits, after'⟩, hcollect, hp⟩ := Option.bind_eq_some_iff.mp hp
        obtain ⟨p', hcode, heq⟩ := Option.map_eq_some_iff.mp hp
        obtain ⟨rfl, rfl⟩ := Prod.mk.inj heq
        exact (((collectUntil_stable hcollect).map bracedCode? hcode).skip_after).cons
          (hexEscape?_braced width)
      · rw [hexEscape?_digits width hbrace (hkept _)] at h
        obtain ⟨⟨value, after⟩, hdigits, h⟩ := Option.bind_eq_some_iff.mp h
        obtain ⟨p', hp, heq⟩ := Option.map_eq_some_iff.mp h
        obtain ⟨rfl, rfl⟩ := Prod.mk.inj heq
        have hnil : hexDigits? v width 0 [] = none := by
          cases width with
          | zero => exact absurd rfl hwidth
          | succ width => rfl
        exact (((hexDigits?_stable hdigits).uncons (fun _ => rfl) hnil).map
          (fun n => (charOfCode? n).map fun c => .literal ⟨c, width == 2⟩) hp).cons
            fun cs => hexEscape?_digits width hbrace (hkept cs)

/-- Blanks before a property do not count. -/
theorem propertyEscape?_skip (v : Bool) (negated : Bool) (cs : List Char) :
    propertyEscape? v negated (skip v cs) = propertyEscape? v negated cs := by
  unfold propertyEscape?
  rw [skip_skip]

/-- A property in braces. -/
theorem propertyEscape?_braced (negated : Bool) (cs : List Char) :
    propertyEscape? v negated ('\x7b' :: cs) =
      (collectUntil v '\x7d' cs).bind fun x =>
        (some (Primitive.property negated (.ofText x.1))).map fun p => (p, x.2) := by
  unfold propertyEscape?
  rw [skip_brace]
  show (collectUntil v '\x7d' cs).map _ = _
  cases collectUntil v '\x7d' cs <;> rfl

/-- A property of one letter. -/
theorem propertyEscape?_letter (negated : Bool) {c : Char} (hbrace : c ≠ '\x7b')
    (hbackslash : c ≠ '\\') {cs : List Char} (hskip : skip v (c :: cs) = c :: cs) :
    propertyEscape? v negated (c :: cs) =
      some (.property negated (.name (String.singleton c)), skip v cs) := by
  unfold propertyEscape?
  rw [hskip]
  simp only [if_neg hbackslash]

/-- **A property is read alike, as long as the rest does not end.** -/
theorem propertyEscape?_stable {negated : Bool} {p : Primitive} {cs rest : List Char}
    (h : propertyEscape? v negated cs = some (p, rest)) :
    Stable v (propertyEscape? v negated) (Ended rest) cs p rest := by
  rw [← propertyEscape?_skip] at h
  refine .of_skipped (propertyEscape?_skip v negated) (fun _ => Ended.skip) (fun _ => id) ?_
  cases hcs : skip v cs with
  | nil =>
      rw [hcs] at h
      unfold propertyEscape? at h
      rw [skip_nil] at h
      cases h
  | cons c tail =>
      rw [hcs] at h
      have hkept := (skip_eq_cons hcs).2
      -- a name in braces, or one letter; a backslash is no name
      by_cases hbrace : c = '\x7b'
      · subst hbrace
        rw [propertyEscape?_braced] at h
        obtain ⟨⟨name, rest'⟩, hcollect, h⟩ := Option.bind_eq_some_iff.mp h
        obtain ⟨rfl, rfl⟩ := Prod.mk.inj (Option.some.inj h)
        have hname := (collectUntil_stable hcollect).map
          (fun name => some (Primitive.property negated (.ofText name))) rfl
        exact ((hname.cons (propertyEscape?_braced negated)).weaken fun _ _ => trivial).up_to
      by_cases hbackslash : c = '\\'
      · subst hbackslash
        unfold propertyEscape? at h
        rw [hkept] at h
        cases h
      · rw [propertyEscape?_letter negated hbrace hbackslash (hkept _)] at h
        obtain ⟨rfl, rfl⟩ := Prod.mk.inj (Option.some.inj h)
        have hname : Stable false (fun cs => some (Primitive.property negated
            (.name (String.singleton c)), cs)) Anything tail _ tail := .nothing fun _ => rfl
        exact hname.skip_after.cons fun cs =>
          propertyEscape?_letter negated hbrace hbackslash (hkept cs)

/-- Behind `\b` a text that is read as a word boundary and no name. -/
def NoBoundaryName (v : Bool) (rest : List Char) : Prop :=
  wordBoundary? v rest = some (.assertion .wordBoundary, rest)

/-- A piece looks past its end for a comment without an end, and behind a word boundary for the brace of a
name: where there is none, there must be none in the other rest. -/
structure Primitive.Ends (v : Bool) (p : Primitive) (rest rest' : List Char) : Prop where
  ended : Ended rest rest'
  boundary : p = .assertion .wordBoundary → NoBoundaryName v rest → NoBoundaryName v rest'

/-- The first character of the name of a boundary. -/
def beginsName (c : Char) : Bool := c.isAlpha || c == '-'

/-- The boundary that is named up to a brace. -/
def boundaryName? (v : Bool) (cs : List Char) : Option (Primitive × List Char) :=
  (collectUntil v '\x7d' cs).bind fun x =>
    ((boundaryOfName? (String.ofList x.1)).map Primitive.assertion).map fun p => (p, x.2)

/-- The name of a boundary is collected and looked up. -/
theorem boundaryName?_eq (v : Bool) (cs : List Char) : boundaryName? v cs = (do
    let (name, rest) ← collectUntil v '\x7d' cs
    return (.assertion (← boundaryOfName? (String.ofList name)), rest)) := by
  unfold boundaryName?
  simp only [Option.bind_eq_bind, Option.pure_def]
  congr 1
  funext ⟨name, rest⟩
  dsimp only
  cases boundaryOfName? (String.ofList name) <;> rfl

section Boundary

variable {c : Char} {cs tail : List Char}

/-- Behind a brace one character is looked at. -/
theorem wordBoundary?_brace (hskip : skip v cs = c :: tail) : wordBoundary? v ('\x7b' :: cs) =
    if beginsName c then boundaryName? v cs else some (.assertion .wordBoundary, '\x7b' :: cs) := by
  rw [boundaryName?_eq, wordBoundary?.eq_1, hskip]
  rfl

/-- A brace with nothing behind it is neither a boundary nor a count. -/
theorem wordBoundary?_unfinished (hskip : skip v cs = []) : wordBoundary? v ('\x7b' :: cs) = none := by
  rw [wordBoundary?.eq_1, hskip]

/-- A brace and a letter begin the name of a boundary. -/
theorem wordBoundary?_named (hskip : skip v cs = c :: tail) (hc : beginsName c = true) :
    wordBoundary? v ('\x7b' :: cs) = boundaryName? v (c :: tail) := by
  rw [wordBoundary?_brace hskip, if_pos hc, ← hskip]
  unfold boundaryName?
  rw [collectUntil_skip]

/-- A brace and anything else begin none. -/
theorem noBoundaryName_braced (hskip : skip v cs = c :: tail) (hc : beginsName c = false) :
    NoBoundaryName v ('\x7b' :: cs) := by
  unfold NoBoundaryName
  rw [wordBoundary?_brace hskip]
  exact if_neg (by rw [hc]; exact Bool.false_ne_true)

/-- Without a brace there is no name. -/
theorem noBoundaryName_of_head (h : cs.head? ≠ some '\x7b') : NoBoundaryName v cs := by
  unfold NoBoundaryName wordBoundary?
  split
  case h_1 => exact absurd rfl h
  case h_2 => rfl

end Boundary

/-- The name of a boundary is read alike before anything. -/
theorem boundaryName?_stable {p : Primitive} {cs rest : List Char}
    (h : boundaryName? v cs = some (p, rest)) :
    Stable false (boundaryName? v) Anything cs p rest := by
  obtain ⟨⟨name, rest'⟩, hcollect, h⟩ := Option.bind_eq_some_iff.mp h
  obtain ⟨p', hp, heq⟩ := Option.map_eq_some_iff.mp h
  obtain ⟨rfl, rfl⟩ := Prod.mk.inj heq
  exact (collectUntil_stable hcollect).map
    (fun name => (boundaryOfName? (String.ofList name)).map Primitive.assertion) hp

/-- Behind the brace, what keeps a name from beginning. -/
theorem NoBoundaryName.braced {cs : List Char} (h : NoBoundaryName v ('\x7b' :: cs)) :
    ∃ c tail, skip v cs = c :: tail ∧ beginsName c = false := by
  unfold NoBoundaryName at h
  cases hskip : skip v cs with
  | nil =>
      rw [wordBoundary?_unfinished hskip] at h
      cases h
  | cons c tail =>
      refine ⟨c, tail, rfl, ?_⟩
      cases hc : beginsName c with
      | false => rfl
      | true =>
          -- a name leaves what follows it, and not the brace before it
          rw [wordBoundary?_named hskip hc] at h
          obtain ⟨text, htext, -⟩ := boundaryName?_stable h
          have hlength := congrArg List.length htext
          have hle := length_skip_le v cs
          rw [hskip] at hle
          simp only [List.length_append, List.length_cons] at hlength hle
          omega

/-- **A boundary is read alike**, if no name of one comes after it. -/
theorem wordBoundary?_stable {p : Primitive} {cs rest : List Char}
    (h : wordBoundary? v cs = some (p, rest)) :
    Stable v (wordBoundary? v) (p.Ends v rest) cs p rest := by
  have hbare : NoBoundaryName v cs → Stable v (wordBoundary? v) (p.Ends v rest) cs p rest := by
    intro hbare
    obtain ⟨rfl, rfl⟩ := Prod.mk.inj (Option.some.inj (hbare.symm.trans h))
    exact .of_exact [] rfl fun rest' hends => hends.boundary rfl hbare
  by_cases hbrace : cs.head? = some '\x7b'
  case neg => exact hbare (noBoundaryName_of_head hbrace)
  case pos =>
    obtain ⟨after, rfl⟩ := List.head?_eq_some_iff.mp hbrace
    cases hskip : skip v after with
    | nil =>
        rw [wordBoundary?_unfinished hskip] at h
        cases h
    | cons c tail =>
        cases hc : beginsName c with
        | false => exact hbare (noBoundaryName_braced hskip hc)
        | true =>
            -- the first letter of the name is read, so it still stands behind what is skipped
            rw [wordBoundary?_named hskip hc] at h
            obtain ⟨text, rfl, hread⟩ := ((boundaryName?_stable h).uncons trivial rfl).exact
            obtain ⟨⟨pre, rfl, hpre⟩, -⟩ := skip_eq_cons hskip
            refine .of_exact ('\x7b' :: (pre ++ c :: text)) (by simp) fun rest' _ => ?_
            have htext : '\x7b' :: (pre ++ c :: text) ++ rest' =
                '\x7b' :: (pre ++ c :: (text ++ rest')) := by simp
            rw [htext, wordBoundary?_named (hpre _) hc]
            exact hread rest' trivial

/-- The piece that a backslash and one character write. -/
def letterEscape? (c : Char) : Option Primitive :=
  if isEscapable c then some (.literal ⟨c, false⟩)
  else
    ((shorthandEscape? c).map fun x => .shorthand x.1 x.2).or <|
    ((controlEscape? c).map fun d => .literal ⟨d, false⟩).or <|
    (assertionEscape? c).map .assertion

/-- Most letters behind a backslash stand for something by themselves. -/
theorem escape?_letter {c : Char} (hc : c ∉ ['x', 'u', 'U', 'p', 'P', 'b']) (cs : List Char) :
    escape? v (c :: cs) = (letterEscape? c).map fun p => (p, cs) := by
  simp only [List.mem_cons, List.not_mem_nil, or_false, not_or] at hc
  obtain ⟨hx, hu, hU, hp, hP, hb⟩ := hc
  rw [escape?, if_neg hx, if_neg hu, if_neg hU, if_neg (not_or.mpr ⟨hp, hP⟩), if_neg hb]
  unfold letterEscape?
  split
  · rfl
  · cases shorthandEscape? c with
    | some x => rfl
    | none =>
      cases controlEscape? c with
      | some d => rfl
      | none => cases assertionEscape? c <;> rfl

/-- **An escape is read alike before a rest that does not continue it.** -/
theorem escape?_stable {p : Primitive} {cs rest : List Char}
    (h : escape? v cs = some (p, rest)) : Stable v (escape? v) (p.Ends v rest) cs p rest := by
  cases cs with
  | nil => cases h
  | cons c cs =>
      -- these letters read on, any other one is the whole escape
      by_cases hc : c ∈ ['x', 'u', 'U', 'p', 'P', 'b']
      · simp only [List.mem_cons, List.not_mem_nil, or_false] at hc
        have hended : ∀ {read : List Char → Option (Primitive × List Char)},
            Stable v read (Ended rest) cs p rest → (∀ cs, escape? v (c :: cs) = read cs) →
            Stable v (escape? v) (p.Ends v rest) (c :: cs) p rest :=
          fun hread heq => (hread.cons heq).weaken fun _ hends => hends.ended
        rcases hc with rfl | rfl | rfl | rfl | rfl | rfl
        · exact hended (hexEscape?_stable (by decide) h) fun _ => rfl
        · exact hended (hexEscape?_stable (by decide) h) fun _ => rfl
        · exact hended (hexEscape?_stable (by decide) h) fun _ => rfl
        · exact hended (propertyEscape?_stable h) fun _ => rfl
        · exact hended (propertyEscape?_stable h) fun _ => rfl
        · exact (wordBoundary?_stable h).cons fun _ => rfl
      · rw [escape?_letter hc] at h
        obtain ⟨p', hp, heq⟩ := Option.map_eq_some_iff.mp h
        obtain ⟨rfl, rfl⟩ := Prod.mk.inj heq
        refine .one fun rest' => ?_
        rw [escape?_letter hc, hp]
        rfl

/-- **A piece outside classes.** -/
theorem primitive?_stable {p : Primitive} {cs rest : List Char}
    (h : primitive? v cs = some (p, rest)) : Stable v (primitive? v) (p.Ends v rest) cs p rest := by
  unfold primitive? at h
  split at h
  case h_1 => cases h
  case h_2 => exact (escape?_stable h).cons fun _ => rfl
  case h_6 c cs hbackslash hpoint hcaret hdollar =>
    obtain ⟨rfl, rfl⟩ := Prod.mk.inj (Option.some.inj h)
    exact .one fun _ => primitive?.eq_6 v c _ hbackslash hpoint hcaret hdollar
  all_goals
    obtain ⟨rfl, rfl⟩ := Prod.mk.inj (Option.some.inj h)
    exact .one fun _ => rfl

end PullTriage.Regex
