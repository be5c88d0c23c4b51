import PullTriage.Proofs.ScanText

/-!
  PullTriage.Proofs.ScanDepth: a scan that stands deeper finds no more.

  The search for flag groups counts brackets, and looks for a group only where it stands outside of all
  of them.  So the more brackets it believes to be open, the less it finds:

        Deeper s t   →   t rejects cs   →   s rejects cs

  Where a bracket is no bracket for the parser, at the end of a range or in the name of a group, the
  scan goes deeper than it should.  It may then miss a flag group, but it takes no text for one that is
  none.
-/

namespace PullTriage.TextPattern.Scan

/-! ## §1. Deeper states. -/

/-- In state `t` the scan stands at least as deep as in state `s`, and has not begun a flag group that
it has not begun in `s`. -/
inductive Deeper : Scan → Scan → Prop where
  | refl (s : Scan) : Deeper s s
  | plain {d e : Nat} (h : d ≤ e) : Deeper (.plain d) (.plain e)
  | escaped {d e : Nat} (h : d ≤ e) : Deeper (.escaped d) (.escaped e)
  | opened {d e : Nat} (h : d ≤ e) : Deeper (.opened d) (.opened e)
  | negated {d e : Nat} (h : d ≤ e) : Deeper (.negated d) (.negated e)
  | plain_opened {d e : Nat} (h : d ≤ e) : Deeper (.plain d) (.opened e)
  | plain_negated {d e : Nat} (h : d ≤ e) : Deeper (.plain d) (.negated e)
  | parenthesis (e : Nat) : Deeper .parenthesis (.plain e)
  | flags (minus : Bool) (e : Nat) : Deeper (.flags minus) (.plain e)

/-- A character that belongs to nothing begun before it keeps the order. -/
theorem Deeper.next {d e : Nat} (h : d ≤ e) (c : Char) : Deeper (.next d c) (.next e c) := by
  unfold Scan.next
  by_cases hbackslash : c = '\\'
  case pos =>
    rw [if_pos hbackslash, if_pos hbackslash]
    exact .escaped h
  by_cases hopen : c = '['
  case pos =>
    rw [if_neg hbackslash, if_neg hbackslash, if_pos hopen, if_pos hopen]
    exact .opened (by omega)
  by_cases hclose : c = ']'
  case pos =>
    rw [if_neg hbackslash, if_neg hbackslash, if_neg hopen, if_neg hopen, if_pos hclose, if_pos hclose]
    exact .plain (by omega)
  rw [if_neg hbackslash, if_neg hbackslash, if_neg hopen, if_neg hopen, if_neg hclose, if_neg hclose]
  -- a parenthesis counts at depth zero only, and there both stand if the deeper one does
  by_cases he : c = '(' ∧ e = 0
  case pos =>
    rw [if_pos he, if_pos ⟨he.1, by omega⟩]
    exact .refl _
  case neg =>
    rw [if_neg he]
    split
    · exact .parenthesis e
    · exact .plain h

/-- In a flag group a scan fails or stays above one that has passed over the opening. -/
theorem Deeper.step?_flags (minus : Bool) (e : Nat) (c : Char) :
    (Scan.flags minus).step? c = none ∨
      ∃ s', (Scan.flags minus).step? c = some s' ∧ Deeper s' (.next e c) := by
  -- the characters of a flag group mean nothing to the other scan
  have hplain : ∀ x ∈ ['-', 'i', 'm', 's', 'R', 'U', 'u', 'x'], Scan.next e x = .plain e := by
    intro x hx
    simp only [List.mem_cons, List.not_mem_nil, or_false] at hx
    rcases hx with rfl | rfl | rfl | rfl | rfl | rfl | rfl | rfl <;> rfl
  by_cases hminus : c = '-'
  case pos =>
    rw [hplain c (by simp [hminus])]
    exact .inr ⟨.flags true, by rw [Scan.step?, if_pos hminus], .flags true e⟩
  by_cases hi : c = 'i'
  case pos =>
    rw [hplain c (by simp [hi]), Scan.step?, if_neg hminus, if_pos hi]
    cases minus with
    | true => exact .inl rfl
    | false => exact .inr ⟨.flags false, rfl, .flags false e⟩
  by_cases hflag : c ∈ ['m', 's', 'R', 'U', 'u', 'x']
  case pos =>
    rw [hplain c (List.mem_cons_of_mem _ (List.mem_cons_of_mem _ hflag))]
    exact .inr ⟨.flags minus, by rw [Scan.step?, if_neg hminus, if_neg hi, if_pos hflag],
      .flags minus e⟩
  refine .inr ⟨.next 0 c, by rw [Scan.step?, if_neg hminus, if_neg hi, if_neg hflag], ?_⟩
  exact .next (Nat.zero_le e) c

/-- One character: where the deeper scan goes on, the other one fails or stays above it. -/
theorem Deeper.step? {s t t' : Scan} (h : Deeper s t) {c : Char} (ht : t.step? c = some t') :
    s.step? c = none ∨ ∃ s', s.step? c = some s' ∧ Deeper s' t' := by
  cases h with
  | refl => exact .inr ⟨t', ht, .refl t'⟩
  | plain h =>
    obtain rfl := Option.some.inj ht
    exact .inr ⟨_, rfl, .next h c⟩
  | escaped h =>
    obtain rfl := Option.some.inj ht
    exact .inr ⟨_, rfl, .plain h⟩
  | opened h =>
    obtain rfl := Option.some.inj ht
    refine .inr ⟨_, rfl, ?_⟩
    split
    · exact .negated h
    split
    · exact .plain h
    · exact .next h c
  | negated h =>
    obtain rfl := Option.some.inj ht
    refine .inr ⟨_, rfl, ?_⟩
    split
    · exact .plain h
    · exact .next h c
  | plain_opened h =>
    obtain rfl := Option.some.inj ht
    refine .inr ⟨_, rfl, ?_⟩
    split
    case isTrue hc =>
      subst hc
      exact .plain_negated h
    split
    case isTrue hc =>
      subst hc
      exact .plain (by omega)
    case isFalse => exact .next h c
  | plain_negated h =>
    obtain rfl := Option.some.inj ht
    refine .inr ⟨_, rfl, ?_⟩
    split
    case isTrue hc =>
      subst hc
      exact .plain (by omega)
    case isFalse => exact .next h c
  | parenthesis e =>
    obtain rfl := Option.some.inj ht
    refine .inr ⟨_, rfl, ?_⟩
    split
    case isTrue hc =>
      subst hc
      exact .flags false e
    case isFalse => exact .next (Nat.zero_le e) c
  | flags minus e =>
    obtain rfl := Option.some.inj ht
    exact Deeper.step?_flags minus e c

/-- **A scan that stands deeper rejects no text that the other one accepts.** -/
theorem Deeper.rejects {s t : Scan} (h : Deeper s t) {cs : List Char} (ht : t.rejects cs = true) :
    s.rejects cs = true := by
  induction cs generalizing s t with
  | nil => cases ht
  | cons c cs ih =>
    cases hs : s.step? c with
    | none => exact rejects_cons_none hs cs
    | some s' =>
      cases ht' : t.step? c with
      | none =>
        -- only a flag group fails, and nothing else stands above one
        cases h with
        | refl =>
          rw [ht'] at hs
          cases hs
        | _ => cases ht'
      | some t' =>
        rw [rejects_cons ht'] at ht
        rw [rejects_cons hs]
        rcases h.step? ht' with hnone | ⟨s'', hs'', hdeeper⟩
        · rw [hnone] at hs
          cases hs
        · obtain rfl := Option.some.inj (hs.symm.trans hs'')
          exact ih hdeeper ht

/-! ## §2. Text that opens no group. -/

/-- The states in which no flag group has been begun. -/
inductive Groupless : Scan → Prop where
  | plain (d : Nat) : Groupless (.plain d)
  | opened (d : Nat) : Groupless (.opened d)
  | negated (d : Nat) : Groupless (.negated d)

/-- A character that is neither a backslash nor an opening parenthesis begins no flag group. -/
theorem Groupless.next (d : Nat) {c : Char} (h₁ : c ≠ '\\') (h₂ : c ≠ '(') :
    Groupless (.next d c) := by
  unfold Scan.next
  rw [if_neg h₁]
  split
  · exact .opened _
  split
  · exact .plain _
  rw [if_neg fun h => h₂ h.1]
  exact .plain d

theorem Groupless.step? {s : Scan} (h : Groupless s) {c : Char} (h₁ : c ≠ '\\') (h₂ : c ≠ '(') :
    ∃ s', s.step? c = some s' ∧ Groupless s' := by
  cases h with
  | plain d => exact ⟨_, rfl, .next d h₁ h₂⟩
  | opened d =>
    refine ⟨_, rfl, ?_⟩
    split
    · exact .negated d
    split
    · exact .plain d
    · exact .next d h₁ h₂
  | negated d =>
    refine ⟨_, rfl, ?_⟩
    split
    · exact .plain d
    · exact .next d h₁ h₂

theorem Groupless.deeper {s : Scan} (h : Groupless s) : Deeper (.plain 0) s := by
  cases h with
  | plain d => exact .plain (Nat.zero_le d)
  | opened d => exact .plain_opened (Nat.zero_le d)
  | negated d => exact .plain_negated (Nat.zero_le d)

/-- Behind text without backslashes and parentheses the scan fails only if it did from the outside. -/
theorem Groupless.rejects {s : Scan} (h : Groupless s) {pre : List Char}
    (hpre : ∀ c ∈ pre, c ≠ '\\' ∧ c ≠ '(') {cs : List Char} (hr : s.rejects (pre ++ cs) = true) :
    (Scan.plain 0).rejects cs = true := by
  induction pre generalizing s with
  | nil => exact h.deeper.rejects hr
  | cons c pre ih =>
    obtain ⟨hc, hpre⟩ := List.forall_mem_cons.mp hpre
    obtain ⟨s', hs', h'⟩ := h.step? hc.1 hc.2
    rw [List.cons_append, rejects_cons hs'] at hr
    exact ih h' hpre hr

end PullTriage.TextPattern.Scan
