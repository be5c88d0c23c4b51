import PullTriage.Proofs.ScanText

/-!
  PullTriage.Proofs.ScanEscapes: the scan and the escapes of a pattern.

  The scan skips one character behind a backslash.  The parser may read more than that: digits in braces,
  the name of a property or of a boundary.  All of it is ordinary text if the property exists, so the
  scan is at the same depth behind the escape as before it (`escape?_scan`).
-/

namespace PullTriage.Regex

open TextPattern (Scan)
open TextPattern.Scan (Passes)

variable {v : Bool}

/-- If the piece is a property, it exists. -/
def Primitive.Exists : Primitive → Prop
  | .property _ q => q.set?.isSome = true
  | _ => True

/-- A text is split at a mark into what stands before it and behind it. -/
theorem splitAt?_eq {mark cs before after : List Char} (h : splitAt? mark cs = some (before, after)) :
    cs = before ++ mark ++ after := by
  induction cs generalizing before with
  | nil => cases h
  | cons c cs ih =>
      unfold splitAt? at h
      split at h
      case isTrue hprefix =>
        simp only [Option.some.injEq, Prod.mk.injEq] at h
        obtain ⟨rfl, rfl⟩ := h
        exact List.append_cancel_left_eq mark _ _ ▸ (List.prefix_iff_eq_append.mp
          (List.isPrefixOf_iff_prefix.mp hprefix)).symm
      case isFalse =>
        obtain ⟨⟨b, a⟩, hsplit, heq⟩ := Option.map_eq_some_iff.mp h
        simp only [Prod.mk.injEq] at heq
        obtain ⟨rfl, rfl⟩ := heq
        rw [ih hsplit]
        rfl

/-- A property that exists is written without brackets and backslashes. -/
theorem isOrdinary_of_propertyText {text : List Char}
    (h : (PropertyQuery.ofText text).set?.isSome = true) : ∀ c ∈ text, isOrdinary c = true := by
  obtain ⟨a, ha⟩ := Option.isSome_iff_exists.mp h
  unfold PropertyQuery.ofText at ha
  split at ha
  case h_1 before after hsplit =>
    obtain ⟨mark, hmark, htext⟩ := List.exists_of_findSome?_eq_some hsplit
    obtain ⟨hbefore, hafter⟩ := Unicode.isOrdinary_of_setOfValue ha
    rw [String.toList_ofList] at hbefore hafter
    have hmarks : [['!', '='], [':'], ['=']].all (·.all isOrdinary) = true := by decide
    have hordinary := List.all_eq_true.mp (List.all_eq_true.mp hmarks mark hmark)
    rw [splitAt?_eq htext, List.forall_mem_append, List.forall_mem_append]
    exact ⟨⟨hbefore, hordinary⟩, hafter⟩
  case h_2 =>
    have hname := Unicode.isOrdinary_of_setOfName ha
    rwa [String.toList_ofList] at hname

/-- A property is ordinary text if it exists. -/
theorem propertyEscape?_passes {negated : Bool} {p : Primitive} {cs rest : List Char}
    (hq : QuietIf v cs) (h : propertyEscape? v negated cs = some (p, rest)) (hp : p.Exists) :
    Passes cs rest := by
  have hskip := skip_passes hq
  have hq' := hq.passes hskip
  refine hskip.trans ?_
  unfold propertyEscape? at h
  revert h hq'
  generalize skip v cs = cs
  intro h hq'
  split at h
  · cases h
  · obtain ⟨⟨text, after⟩, hcollect, heq⟩ := Option.map_eq_some_iff.mp h
    simp only [Prod.mk.injEq] at heq
    obtain ⟨rfl, rfl⟩ := heq
    exact (collectUntil_passes (hq'.tail (by decide)) hcollect
      (isOrdinary_of_propertyText hp)).cons (by decide)
  -- a name of one letter: the property exists, so the letter is ordinary
  case h_3 c after _ =>
    split at h
    · cases h
    case isFalse hc =>
      simp only [Option.some.injEq, Prod.mk.injEq] at h
      obtain ⟨rfl, rfl⟩ := h
      obtain ⟨a, ha⟩ := Option.isSome_iff_exists.mp hp
      have hord := Unicode.isOrdinary_of_setOfName ha
      rw [String.toList_singleton] at hord
      exact (skip_passes (hq'.tail hc)).cons (hord c List.mem_cons_self)

theorem isOrdinary_of_hexDigits {digits : List Char} {n value : Nat}
    (h : digits.foldlM (fun n c => (hexDigit? c).map (n * 16 + ·)) n = some value) :
    ∀ c ∈ digits, isOrdinary c = true := by
  induction digits generalizing n with
  | nil => exact fun c hc => nomatch hc
  | cons c digits ih =>
      obtain ⟨m, hm, hrest⟩ := Option.bind_eq_some_iff.mp h
      obtain ⟨d, hd, -⟩ := Option.map_eq_some_iff.mp hm
      exact List.forall_mem_cons.mpr ⟨isOrdinary_of_hexDigit hd, ih hrest⟩

/-- A code point in digits is ordinary text. -/
theorem hexEscape?_passes {width : Nat} {p : Primitive} {cs rest : List Char} (hq : QuietIf v cs)
    (h : hexEscape? v width cs = some (p, rest)) : Passes cs rest := by
  have hskip := skip_passes hq
  -- blanks first, then digits in braces or a fixed number of them
  have hq' := hq.passes hskip
  refine hskip.trans ?_
  unfold hexEscape? at h
  revert h hq'
  generalize skip v cs = cs
  intro h hq'
  split at h
  · cases h
  case h_2 after =>
    simp only [Option.bind_eq_bind, Option.bind_eq_some_iff, Option.pure_def] at h
    obtain ⟨⟨digits, rest'⟩, hcollect, h⟩ := h
    split at h
    · cases h
    · simp only [Option.bind_eq_some_iff, Option.some.injEq, Prod.mk.injEq] at h
      obtain ⟨value, hvalue, c, -, -, rfl⟩ := h
      have hbraced := (collectUntil_passes (hq'.tail (by decide)) hcollect
        (isOrdinary_of_hexDigits hvalue)).cons (by decide : isOrdinary '\x7b' = true)
      exact hbraced.trans (skip_passes (hq'.passes hbraced))
  case h_3 =>
    simp only [Option.bind_eq_bind, Option.bind_eq_some_iff, Option.pure_def, Option.some.injEq,
      Prod.mk.injEq] at h
    obtain ⟨⟨value, after⟩, hdigits, c, -, -, rfl⟩ := h
    exact hexDigits?_passes hq' hdigits

theorem isOrdinary_of_boundaryName {name : List Char} {a : Assertion}
    (h : boundaryOfName? (String.ofList name) = some a) : ∀ c ∈ name, isOrdinary c = true := by
  have hnames : (["start", "end", "start-half", "end-half"].all fun n => n.toList.all isOrdinary)
      = true := by decide +kernel
  have hmem : String.ofList name ∈ ["start", "end", "start-half", "end-half"] := by
    unfold boundaryOfName? at h
    split at h
    case isTrue hn => simp [hn]
    split at h
    case isTrue hn => simp [hn]
    split at h
    case isTrue hn => simp [hn]
    split at h
    case isTrue hn => simp [hn]
    case isFalse => cases h
  have hname := List.all_eq_true.mp (List.all_eq_true.mp hnames _ hmem)
  rwa [String.toList_ofList] at hname

/-- So is a boundary with its name. -/
theorem wordBoundary?_passes {p : Primitive} {cs rest : List Char} (hq : QuietIf v cs)
    (h : wordBoundary? v cs = some (p, rest)) : Passes cs rest := by
  unfold wordBoundary? at h
  split at h
  case h_1 after =>
    split at h
    · cases h
    · split at h
      · simp only [Option.bind_eq_bind, Option.bind_eq_some_iff, Option.pure_def, Option.some.injEq,
          Prod.mk.injEq] at h
        obtain ⟨⟨name, after'⟩, hcollect, a, ha, -, rfl⟩ := h
        exact (collectUntil_passes (hq.tail (by decide)) hcollect
          (isOrdinary_of_boundaryName ha)).cons (by decide)
      · simp only [Option.some.injEq, Prod.mk.injEq] at h
        rw [h.2]
        exact .refl _
  · simp only [Option.some.injEq, Prod.mk.injEq] at h
    rw [h.2]
    exact .refl _

/-- After the character behind the backslash, an escape only reads ordinary characters. -/
theorem escape?_passes {c : Char} {p : Primitive} {cs rest : List Char} (hq : QuietIf v cs)
    (h : escape? v (c :: cs) = some (p, rest)) (hp : p.Exists) : Passes cs rest := by
  rw [escape?] at h
  split at h
  case isTrue => exact hexEscape?_passes hq h
  split at h
  case isTrue => exact hexEscape?_passes hq h
  split at h
  case isTrue => exact hexEscape?_passes hq h
  split at h
  case isTrue => exact propertyEscape?_passes hq h hp
  split at h
  case isTrue => exact wordBoundary?_passes hq h
  -- every other escape is the one character
  have hrest : rest = cs := by
    split at h
    case isTrue =>
      simp only [Option.some.injEq, Prod.mk.injEq] at h
      exact h.2.symm
    case isFalse =>
      rcases Option.or_eq_some_iff.mp h with h | ⟨-, h⟩
      · obtain ⟨_, -, heq⟩ := Option.map_eq_some_iff.mp h
        exact (Prod.mk.inj heq).2.symm
      rcases Option.or_eq_some_iff.mp h with h | ⟨-, h⟩
      · obtain ⟨_, -, heq⟩ := Option.map_eq_some_iff.mp h
        exact (Prod.mk.inj heq).2.symm
      · obtain ⟨_, -, heq⟩ := Option.map_eq_some_iff.mp h
        exact (Prod.mk.inj heq).2.symm
  rw [hrest]
  exact .refl cs

/-- An escape begins with two characters and only reads ordinary ones behind them. -/
theorem escape?_front {p : Primitive} {cs rest : List Char} (hq : QuietIf v ('\\' :: cs))
    (h : escape? v cs = some (p, rest)) (hp : p.Exists) :
    ∃ c tail, cs = c :: tail ∧ Passes tail rest := by
  cases cs with
  | nil => cases h
  | cons c cs => exact ⟨c, cs, rfl, escape?_passes (fun hv => quiet_escaped (hq hv)) h hp⟩

/-- **An escape leaves the scan at the depth where it found it.** -/
theorem escape?_scan {p : Primitive} {cs rest : List Char} (hq : QuietIf v ('\\' :: cs))
    (h : escape? v cs = some (p, rest)) (hp : p.Exists) (d : Nat) :
    (Scan.plain d).rejects ('\\' :: cs) = (Scan.plain d).rejects rest := by
  obtain ⟨c, cs, rfl, hpasses⟩ := escape?_front hq h hp
  show (Scan.escaped d).rejects (c :: cs) = _
  rw [TextPattern.Scan.rejects_escaped_cons]
  exact hpasses.rejects d

end PullTriage.Regex
