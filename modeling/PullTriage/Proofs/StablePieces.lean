import PullTriage.Proofs.StableClasses

/-!
  PullTriage.Proofs.StablePieces: what a piece of a pattern is does not depend on what follows it.

  A piece is what the parser reads in one round: an opening or a closing parenthesis, a bar, an operator
  with its question mark, a class, or a primitive.  Read before another rest it is the same piece:

      s.piece? c cs = some s'  →  ∃ text, cs = text ++ s'.rest ∧
        ∀ rest', Continues s'.verbose s'.rest rest' → ∃ rest'',
          s.piece? c (text ++ rest') = some { s' with rest := rest'' } ∧
            skip s'.verbose rest'' = skip s'.verbose rest'

  `Continues` asks for little.  Where no question mark follows there must be none in the other rest, as it
  would begin a flag group behind a parenthesis and make an operator lazy; and where no name follows that
  `\b` would take, there must be none either.

  Main statement: `ParserState.piece?_stable`.
-/

namespace PullTriage.Regex

variable {v : Bool}

/-! ## §1. Groups. -/

/-- Flags are read alike before the same next character. -/
theorem flagItems?_stable {items out : List FlagItem} {cs rest : List Char}
    (h : flagItems? items cs = some (out, rest)) :
    ∃ c tail, rest = c :: tail ∧ Stable false (flagItems? items) (BeginsWith c) cs out rest := by
  -- one item a character, up to the colon or the parenthesis that ends the flags
  induction cs generalizing items with
  | nil => cases h
  | cons c cs ih =>
      unfold flagItems? at h
      split at h
      case isTrue hend =>
        split at h
        case isTrue => cases h
        case isFalse hminus =>
          obtain ⟨rfl, rfl⟩ := Prod.mk.inj (Option.some.inj h)
          refine ⟨c, cs, rfl, .of_exact [] rfl ?_⟩
          rintro _ ⟨tail, rfl⟩
          show flagItems? items (c :: tail) = _
          rw [flagItems?, if_pos hend, if_neg hminus]
      case isFalse hend =>
        obtain ⟨item, hitem, h⟩ := Option.bind_eq_some_iff.mp h
        split at h
        case isTrue => cases h
        case isFalse hnew =>
          obtain ⟨d, tail, rfl, hstable⟩ := ih h
          refine ⟨d, tail, rfl, hstable.cons fun cs => ?_⟩
          rw [flagItems?, if_neg hend]
          show Option.bind _ _ = _
          rw [hitem]
          exact if_neg hnew

/-- The name of a group is read alike before anything. -/
theorem groupName?_stable {name : String} {cs rest : List Char}
    (h : groupName? cs = some (name, rest)) : Stable false groupName? Anything cs name rest := by
  unfold groupName? at h
  dsimp only at h
  split at h
  case h_2 => cases h
  case h_1 first others after htake hdrop =>
    split at h
    case isFalse => cases h
    case isTrue hchars =>
      obtain ⟨rfl, rfl⟩ := Prod.mk.inj (Option.some.inj h)
      refine .of_exact (first :: others ++ ['>']) ?_ fun rest' _ => ?_
      · -- the name goes up to the first angle bracket, which it does not hold
        conv => lhs; rw [← List.takeWhile_append_dropWhile (p := (· != '>')) (l := cs), hdrop, htake]
        simp
      · have hfree : '>' ∉ first :: others := by
          rw [← htake]
          intro hmem
          simpa using List.mem_takeWhile_imp hmem
        obtain ⟨htake', hdrop'⟩ := takeWhile_name hfree rest'
        rw [List.append_assoc, List.singleton_append]
        unfold groupName?
        dsimp only
        rw [htake', hdrop', htake]
        exact if_pos hchars

/-- What the flags behind a parenthesis and a question mark begin, from the character that ends them. -/
def flagOpening? : List FlagItem × List Char → Option (Opening × List Char)
  | ([], ')' :: _) => none
  | (items, ')' :: rest) => some (.setFlags items, rest)
  | (items, _ :: rest) => some (.group (.flags items), rest)
  | _ => none

/-- Behind a question mark these begin no flags. -/
def noFlags : List Char := ['P', '<', '=', '!']

/-- A parenthesis without a question mark opens a group that records. -/
theorem opening?_capture {cs : List Char} (h : cs.head? ≠ some '?') :
    opening? false cs = some (.group .capture, cs) := by
  unfold opening?
  rw [skip_false]
  split
  case h_1 => exact absurd rfl h
  case h_2 => exact absurd rfl h
  case h_3 => exact absurd rfl h
  case h_4 => rfl

/-- An angle bracket is followed by a name, unless it begins a look-behind. -/
theorem opening?_angle {c : Char} (hc : c ≠ '=' ∧ c ≠ '!') (cs : List Char) :
    opening? false ('?' :: '<' :: c :: cs) =
      (groupName? (c :: cs)).map fun x => (.group (.named x.1), x.2) := by
  show (if _ then _ else _) = _
  rw [if_neg (by simpa using hc)]

/-- Anything else behind the question mark is flags. -/
theorem opening?_flags {c : Char} (hc : c ∉ noFlags) (cs : List Char) :
    opening? false ('?' :: c :: cs) = (flagItems? [] (c :: cs)).bind flagOpening? := by
  simp only [noFlags, List.mem_cons, List.not_mem_nil, or_false, not_or] at hc
  obtain ⟨hP, hangle, hlook⟩ := hc
  unfold opening?
  rw [skip_false]
  split
  case h_1 heq => exact absurd (List.cons.inj (List.cons.inj heq).2).1 hP
  case h_2 heq => exact absurd (List.cons.inj (List.cons.inj heq).2).1 hangle
  case h_4 hquestion => exact absurd rfl (hquestion _)
  case h_3 heq =>
    obtain rfl := (List.cons.inj heq).2
    rw [if_neg (by simpa using hlook)]
    cases flagItems? [] (c :: cs) with
    | none => rfl
    | some x =>
        show _ = flagOpening? x
        unfold flagOpening?
        split <;> simp_all

/-- What flags begin with. -/
theorem flagItems?_head {x : List FlagItem × List Char} {c : Char} {cs : List Char}
    (h : flagItems? [] (c :: cs) = some x) : c ∉ noFlags := by
  intro hc
  simp only [noFlags, List.mem_cons, List.not_mem_nil, or_false] at hc
  rcases hc with rfl | rfl | rfl | rfl <;> cases h

/-- The ways to open a group. -/
theorem opening?_cases {o : Opening} {cs rest : List Char} (h : opening? false cs = some (o, rest)) :
    (cs.head? ≠ some '?' ∧ o = .group .capture ∧ rest = cs) ∨
      (∃ name after, cs = '?' :: 'P' :: '<' :: after ∧ groupName? after = some (name, rest) ∧
        o = .group (.named name)) ∨
      (∃ name c after, cs = '?' :: '<' :: c :: after ∧ (c ≠ '=' ∧ c ≠ '!') ∧
        groupName? (c :: after) = some (name, rest) ∧ o = .group (.named name)) ∨
      ∃ c after items tail, cs = '?' :: c :: after ∧ flagItems? [] (c :: after) = some (items, tail) ∧
        flagOpening? (items, tail) = some (o, rest) := by
  -- the first two branches read a name, the third one flags, and the last one nothing
  have hread := h
  unfold opening? at h
  rw [skip_false] at h
  split at h
  case h_1 after =>
    obtain ⟨⟨name, rest'⟩, hname, heq⟩ := Option.map_eq_some_iff.mp h
    obtain ⟨rfl, rfl⟩ := Prod.mk.inj heq
    exact .inr (.inl ⟨name, after, rfl, hname, rfl⟩)
  case h_2 after =>
    split at h
    case isTrue => cases h
    case isFalse hlook =>
      obtain ⟨⟨name, rest'⟩, hname, heq⟩ := Option.map_eq_some_iff.mp h
      obtain ⟨rfl, rfl⟩ := Prod.mk.inj heq
      cases after with
      | nil => cases hname
      | cons c after =>
          exact .inr (.inr (.inl ⟨name, c, after, rfl, by simpa using hlook, hname, rfl⟩))
  case h_3 after hname hangle =>
    split at h
    case isTrue => cases h
    case isFalse hlook =>
      cases hflags : flagItems? [] after with
      | none => rw [hflags] at h; cases h
      | some x =>
          cases after with
          | nil => cases hflags
          | cons c after =>
              rw [opening?_flags (flagItems?_head hflags)] at hread
              obtain ⟨⟨items, tail⟩, hitems, hopening⟩ := Option.bind_eq_some_iff.mp hread
              exact .inr (.inr (.inr ⟨c, after, items, tail, rfl, hitems, hopening⟩))
  case h_4 hquestion =>
    obtain ⟨rfl, rfl⟩ := Prod.mk.inj (Option.some.inj h)
    exact .inl ⟨head?_ne_some hquestion, rfl, rfl⟩

/-- The flags end in one character, and no more of what follows is looked at. -/
theorem flagOpening?_stable {items : List FlagItem} {o : Opening} {tail rest : List Char}
    (h : flagOpening? (items, tail) = some (o, rest)) :
    ∃ c, tail = c :: rest ∧ ∀ rest', flagOpening? (items, c :: rest') = some (o, rest') := by
  cases tail with
  | nil => cases items <;> cases h
  | cons c tail =>
      refine ⟨c, ?_⟩
      by_cases hc : c = ')'
      · subst hc
        cases items with
        | nil => cases h
        | cons item items =>
            obtain ⟨rfl, rfl⟩ := Prod.mk.inj (Option.some.inj h)
            exact ⟨rfl, fun _ => rfl⟩
      · have hgroup : ∀ tail, flagOpening? (items, c :: tail) = some (.group (.flags items), tail) := by
          intro tail
          unfold flagOpening?
          split <;> simp_all
        rw [hgroup] at h
        obtain ⟨rfl, rfl⟩ := Prod.mk.inj (Option.some.inj h)
        exact ⟨rfl, hgroup⟩

/-- **The opening of a group is read alike before anything.** -/
theorem opening?_question_stable {o : Opening} {cs rest : List Char}
    (h : opening? false ('?' :: cs) = some (o, rest)) :
    Stable false (fun cs => opening? false ('?' :: cs)) Anything cs o rest := by
  rcases opening?_cases h with ⟨hquestion, -, -⟩ | ⟨name, after, hcs, hname, rfl⟩ |
    ⟨name, c, after, hcs, hc, hname, rfl⟩ | ⟨c, after, items, tail, hcs, hitems, hopening⟩
  · exact absurd rfl hquestion
  all_goals obtain rfl := (List.cons.inj hcs).2
  · obtain ⟨text, rfl, hread⟩ := (groupName?_stable hname).exact
    refine .of_exact ('P' :: '<' :: text) rfl fun rest' _ => ?_
    show (groupName? (text ++ rest')).map _ = _
    rw [hread rest' trivial]
    rfl
  · obtain ⟨text, rfl, hread⟩ := ((groupName?_stable hname).uncons trivial rfl).exact
    refine .of_exact ('<' :: c :: text) rfl fun rest' _ => ?_
    show opening? false ('?' :: '<' :: c :: (text ++ rest')) = _
    rw [opening?_angle hc, hread rest' trivial]
    rfl
  · obtain ⟨d, rfl, hend⟩ := flagOpening?_stable hopening
    obtain ⟨_, _, heq, hstable⟩ := flagItems?_stable hitems
    obtain ⟨rfl, rfl⟩ := List.cons.inj heq
    obtain ⟨text, hafter, hread⟩ := hstable.exact
    refine .of_exact (text ++ [d]) (by simp [hafter]) fun rest' _ => ?_
    -- the first flag, or what ends them if there is none, stays in front
    have hfront : ∃ after', text ++ d :: rest' = c :: after' := by
      cases text with
      | nil => exact ⟨rest', by rw [(List.cons.inj hafter).1]; rfl⟩
      | cons e text => exact ⟨text ++ d :: rest', by rw [(List.cons.inj hafter).1]; rfl⟩
    obtain ⟨after', hfront⟩ := hfront
    have htext : text ++ [d] ++ rest' = c :: after' := by simp [hfront]
    rw [htext, opening?_flags (flagItems?_head hitems), ← hfront, hread (d :: rest') ⟨rest', rfl⟩]
    exact hend rest'

/-- Where no question mark follows, past what is skipped, none follows in the other rest. -/
structure NoNewQuestion (v : Bool) (rest rest' : List Char) : Prop where
  ended : Ended rest rest'
  question : (skip v rest).head? ≠ some '?' → (skip v rest').head? ≠ some '?'

/-- **What an opening parenthesis begins.** -/
theorem opening?_stable {o : Opening} {cs rest : List Char}
    (h : opening? v cs = some (o, rest)) : Stable false (opening? v) Anything cs o rest ∨
      o = .group .capture ∧ Stable v (opening? v) (NoNewQuestion v rest) cs o rest := by
  have hskipped : ∀ cs, opening? v cs = opening? false (skip v cs) := fun _ => rfl
  by_cases hquestion : (skip v cs).head? = some '?'
  case pos =>
    obtain ⟨tail, hcs⟩ := List.head?_eq_some_iff.mp hquestion
    rw [hskipped, hcs] at h
    exact .inl (Stable.after_skip_cons hcs (opening?_question_stable h))
  case neg =>
    rw [hskipped, opening?_capture hquestion] at h
    obtain ⟨rfl, rfl⟩ := Prod.mk.inj (Option.some.inj h)
    obtain ⟨pre, hcs, hskip⟩ := skip_eq v cs
    refine .inr ⟨rfl, pre, hcs, fun rest' hnew => ⟨skip v rest', ?_, skip_skip v rest'⟩⟩
    rw [hskipped, hskip rest' hnew.ended]
    refine opening?_capture (hnew.question ?_)
    rw [skip_skip]
    exact hquestion

/-! ## §2. Operators. -/

theorem dropLazy_of_head {cs : List Char} (h : cs.head? ≠ some '?') : ParserState.dropLazy cs = cs := by
  unfold ParserState.dropLazy
  split
  case h_1 => exact absurd rfl h
  case h_2 => rfl

/-- A question mark behind an operator is taken off, whatever follows it.  Behind a count something may be
skipped first. -/
theorem dropLazy_stable {cs rest : List Char} (h : ParserState.dropLazy (skip v cs) = rest) :
    Stable v (fun cs => some ((), ParserState.dropLazy (skip v cs))) (NoNewQuestion v rest) cs ()
      rest := by
  by_cases hlazy : (skip v cs).head? = some '?'
  case pos =>
    obtain ⟨tail, hcs⟩ := List.head?_eq_some_iff.mp hlazy
    rw [hcs] at h
    obtain rfl : tail = rest := h
    obtain ⟨⟨pre, rfl, hpre⟩, -⟩ := skip_eq_cons hcs
    refine .of_exact (pre ++ ['?']) (by simp) fun rest' _ => ?_
    rw [List.append_assoc, List.singleton_append, hpre]
    rfl
  case neg =>
    rw [dropLazy_of_head hlazy] at h
    subst h
    obtain ⟨pre, hcs, hskip⟩ := skip_eq v cs
    refine ⟨pre, hcs, fun rest' hnew => ⟨skip v rest', ?_, skip_skip v rest'⟩⟩
    show some ((), ParserState.dropLazy (skip v (pre ++ rest'))) = _
    rw [hskip rest' hnew.ended, dropLazy_of_head]
    refine hnew.question ?_
    rw [skip_skip]
    exact hlazy

/-! ## §3. Counts. -/

/-- A digit is collected, and a blank or a comment is passed over; anything else ends the number. -/
theorem spanDecimal_cases (v : Bool) (comment : Bool) (acc : List Nat) (c : Char) :
    (∃ comment' acc', ∀ cs, spanDecimal v comment acc (c :: cs) = spanDecimal v comment' acc' cs) ∨
      ∀ cs, spanDecimal v comment acc (c :: cs) = (acc.reverse, c :: cs) := by
  simp only [spanDecimal]
  by_cases hcomment : comment = true
  · exact .inl ⟨c != '\n', acc, fun _ => if_pos hcomment⟩
  by_cases hdigit : c.isDigit = true
  · exact .inl ⟨false, (c.toNat - '0'.toNat) :: acc, fun _ => by rw [if_neg hcomment, if_pos hdigit]⟩
  by_cases hblank : (v && isBlank c) = true
  · exact .inl ⟨false, acc, fun _ => by rw [if_neg hcomment, if_neg hdigit, if_pos hblank]⟩
  by_cases hmark : (v && decide (c = '#')) = true
  · refine .inl ⟨true, acc, fun _ => ?_⟩
    rw [if_neg hcomment, if_neg hdigit, if_neg hblank, if_pos hmark]
  · refine .inr fun _ => ?_
    rw [if_neg hcomment, if_neg hdigit, if_neg hblank, if_neg hmark]

/-- Digits are read alike before the same next character. -/
theorem spanDecimal_stable {comment : Bool} {acc ds : List Nat} {cs tail : List Char} {c : Char}
    (h : spanDecimal v comment acc cs = (ds, c :: tail)) : ∃ text, cs = text ++ c :: tail ∧
      ∀ tail', spanDecimal v comment acc (text ++ c :: tail') = (ds, c :: tail') := by
  induction cs generalizing comment acc with
  | nil => cases h
  | cons d cs ih =>
      rcases spanDecimal_cases v comment acc d with ⟨comment', acc', hstep⟩ | hend
      · rw [hstep] at h
        obtain ⟨text, rfl, hread⟩ := ih h
        exact ⟨d :: text, rfl, fun tail' => (hstep _).trans (hread tail')⟩
      · rw [hend] at h
        obtain ⟨rfl, heq⟩ := Prod.mk.inj h
        obtain ⟨rfl, rfl⟩ := List.cons.inj heq
        exact ⟨[], rfl, hend⟩

/-- As long as the first character stays that is not dropped, the same is dropped. -/
theorem dropWhile_front {p : Char → Bool} {cs text tail : List Char} {c : Char}
    (h : cs.dropWhile p = text ++ c :: tail) : ∃ pre, cs = pre ++ (text ++ c :: tail) ∧
      ∀ tail', (pre ++ (text ++ c :: tail')).dropWhile p = text ++ c :: tail' := by
  refine ⟨cs.takeWhile p, ?_, fun tail' => ?_⟩
  · rw [← h, List.takeWhile_append_dropWhile]
  have hhead := List.head?_dropWhile_not p cs
  rw [h] at hhead
  rw [List.dropWhile_append_of_pos fun c hc => List.mem_takeWhile_imp hc]
  cases text with
  | nil => exact List.dropWhile_cons_of_neg (by simpa using hhead)
  | cons d text => exact List.dropWhile_cons_of_neg (by simpa using hhead)

/-- The number that digits write, if it is no greater than a count may be. -/
def countOf? (digits : List Nat) : Option Nat :=
  let n := digits.foldl (fun n d => n * 10 + d) 0
  if digits.isEmpty ∨ n > maxCount then none else some n

/-- A number is made of the digits between blanks. -/
theorem decimal?_eq (cs : List Char) : decimal? v cs =
    (countOf? (spanDecimal v false [] (cs.dropWhile isBlank)).1).map fun n =>
      (n, (spanDecimal v false [] (cs.dropWhile isBlank)).2.dropWhile isBlank) := by
  unfold decimal? countOf?
  dsimp only
  split <;> rfl

/-- **A number, with blanks around it.** -/
theorem decimal?_stable {n : Nat} {cs tail : List Char} {c : Char}
    (h : decimal? v cs = some (n, c :: tail)) :
    Stable false (decimal? v) (BeginsWith c) cs n (c :: tail) := by
  rw [decimal?_eq] at h
  obtain ⟨n', hn, heq⟩ := Option.map_eq_some_iff.mp h
  obtain ⟨rfl, hrest⟩ := Prod.mk.inj heq
  cases hspan : spanDecimal v false [] (cs.dropWhile isBlank) with
  | mk ds after =>
  rw [hspan] at hn hrest
  -- behind the digits there may be blanks, and their first character stays, too
  have hdrop : after.dropWhile isBlank = [] ++ c :: tail := hrest
  obtain ⟨blanks, rfl, hblanks⟩ := dropWhile_front hdrop
  have hfirst : ∃ d, ∀ tail, ∃ mid, blanks ++ ([] ++ c :: tail) = d :: mid := by
    cases blanks with
    | nil => exact ⟨c, fun tail => ⟨tail, rfl⟩⟩
    | cons d blanks => exact ⟨d, fun tail => ⟨blanks ++ c :: tail, rfl⟩⟩
  obtain ⟨d, hfirst⟩ := hfirst
  obtain ⟨mid, hmid⟩ := hfirst tail
  rw [hmid] at hspan
  obtain ⟨text, htext, hread⟩ := spanDecimal_stable hspan
  have hcs : cs.dropWhile isBlank = text ++ blanks ++ c :: tail := by
    rw [htext, ← hmid, List.append_assoc]
    rfl
  obtain ⟨pre, rfl, hpre⟩ := dropWhile_front hcs
  refine .of_exact (pre ++ (text ++ blanks)) (List.append_assoc _ _ _).symm ?_
  rintro _ ⟨tail', rfl⟩
  obtain ⟨mid', hmid'⟩ := hfirst tail'
  have hspan' : spanDecimal v false [] (text ++ blanks ++ c :: tail') =
      (ds, blanks ++ ([] ++ c :: tail')) := by
    rw [List.append_assoc, hmid', ← hread mid', ← hmid']
    rfl
  rw [decimal?_eq, List.append_assoc pre, hpre, hspan', hn, hblanks]
  rfl

/-- The upper bound of a count is read alike before its closing brace. -/
theorem limit?_stable {most : Option Nat} {cs tail : List Char}
    (h : limit? v cs = some (most, '\x7d' :: tail)) :
    Stable false (limit? v) (BeginsWith '\x7d') cs most ('\x7d' :: tail) := by
  by_cases hbrace : cs.head? = some '\x7d'
  case pos =>
    obtain ⟨after, rfl⟩ := List.head?_eq_some_iff.mp hbrace
    obtain ⟨rfl, heq⟩ := Prod.mk.inj (Option.some.inj h)
    obtain ⟨-, rfl⟩ := List.cons.inj heq
    refine .of_exact [] rfl ?_
    rintro _ ⟨tail', rfl⟩
    rfl
  case neg =>
    rw [limit?_number hbrace] at h
    obtain ⟨⟨n, rest⟩, hn, heq⟩ := Option.map_eq_some_iff.mp h
    obtain ⟨rfl, rfl⟩ := Prod.mk.inj heq
    obtain ⟨text, rfl, hread⟩ := (decimal?_stable hn).exact
    refine .of_exact text rfl ?_
    rintro _ ⟨tail', rfl⟩
    have hbrace' : (text ++ '\x7d' :: tail').head? ≠ some '\x7d' := by
      cases text <;> exact hbrace
    rw [limit?_number hbrace', hread _ ⟨tail', rfl⟩]
    rfl

/-- So is what stands behind the lower bound. -/
theorem countMost?_stable {least : Nat} {most : Option Nat} {cs tail : List Char}
    (h : countMost? v least cs = some (most, '\x7d' :: tail)) :
    Stable false (countMost? v least) (BeginsWith '\x7d') cs most ('\x7d' :: tail) := by
  by_cases hcomma : cs.head? = some ','
  case pos =>
    obtain ⟨after, rfl⟩ := List.head?_eq_some_iff.mp hcomma
    have hlimit : limit? v (skip v after) = some (most, '\x7d' :: tail) := h
    exact (limit?_stable hlimit).after_skip_exact.cons fun _ => rfl
  case neg =>
    rw [countMost?_exact least hcomma] at h
    obtain ⟨rfl, rfl⟩ := Prod.mk.inj (Option.some.inj h)
    refine .of_exact [] rfl ?_
    rintro _ ⟨tail', rfl⟩
    exact countMost?_exact least fun hhead => absurd (Option.some.inj hhead) (by decide)

/-- The closing brace and what is checked there do not depend on what follows. -/
theorem bounds?_stable {least : Nat} {most : Option Nat} {x : Nat × Option Nat} {cs rest : List Char}
    (h : bounds? least most cs = some (x, rest)) :
    cs = '\x7d' :: rest ∧ Stable false (bounds? least most) Anything cs x rest := by
  unfold bounds? at h
  split at h
  case h_2 => cases h
  case h_1 tail =>
    split at h
    case isFalse => cases h
    case isTrue hle =>
      obtain ⟨rfl, rfl⟩ := Prod.mk.inj (Option.some.inj h)
      exact ⟨rfl, .one fun _ => if_pos hle⟩

/-- **The bounds of a repetition.** -/
theorem count?_stable {x : Nat × Option Nat} {cs rest : List Char} (h : count? v cs = some (x, rest)) :
    Stable false (count? v) Anything cs x rest := by
  obtain ⟨⟨least, after⟩, hleast, h⟩ := Option.bind_eq_some_iff.mp h
  obtain ⟨⟨most, after'⟩, hmost, h⟩ := Option.bind_eq_some_iff.mp h
  obtain ⟨rfl, hbounds⟩ := bounds?_stable h
  have hfrom : Stable false (countFrom? v least) Anything after x rest :=
    (countMost?_stable hmost).bind hbounds fun hrest => absurd hrest.symm (List.cons_ne_self _ _)
  obtain ⟨text, hafter, -⟩ := countMost?_stable hmost
  have hlength : after.length = (text ++ '\x7d' :: rest).length := congrArg List.length hafter
  rw [List.length_append, List.length_cons] at hlength
  cases after with
  | nil => cases hlength
  | cons c mid =>
      refine (decimal?_stable hleast).bind hfrom fun hrest => ?_
      rw [hrest] at hlength
      omega

/-! ## §4. Pieces. -/

/-- A rest that a piece before it can do with in place of another. -/
structure Continues (v : Bool) (rest rest' : List Char) : Prop where
  lazy : NoNewQuestion false rest rest'
  question : NoNewQuestion v rest rest'
  boundary : NoBoundaryName v rest → NoBoundaryName v rest'

/-- A rest that continues another ends with it. -/
theorem Continues.ended {rest rest' : List Char} (h : Continues v rest rest') : Ended rest rest' :=
  h.lazy.ended

namespace ParserState

/-- What an opening parenthesis begins is done to the state. -/
def enter? (s : ParserState) (o : Opening) (rest : List Char) : Option ParserState :=
  match o with
  | .setFlags items =>
    some { s.push (.flags items) rest with
      verbose := (FlagItem.state items .verbose).getD s.verbose }
  | .group (.named name) =>
    if name ∈ s.names then none
    else some ⟨rest, s.verbose, name :: s.names, ⟨[], []⟩, ⟨s.level, .named name, s.verbose⟩ :: s.groups⟩
  | .group .capture =>
    some ⟨rest, s.verbose, s.names, ⟨[], []⟩, ⟨s.level, .capture, s.verbose⟩ :: s.groups⟩
  | .group (.flags items) =>
    some ⟨rest, (FlagItem.state items .verbose).getD s.verbose, s.names, ⟨[], []⟩,
      ⟨s.level, .flags items, s.verbose⟩ :: s.groups⟩

/-- A group is opened by reading its opening and entering it. -/
theorem openGroup?_eq (s : ParserState) (cs : List Char) :
    s.openGroup? cs = (opening? s.verbose cs).bind fun x => s.enter? x.1 x.2 := by
  unfold openGroup?
  congr 1
  funext ⟨o, rest⟩
  cases o with
  | setFlags items => rfl
  | group kind =>
      cases kind with
      | capture => rfl
      | flags items => rfl
      | named name =>
          unfold enter?
          dsimp only
          split <;> rfl

/-- A function that only puts the rest into the state it makes. -/
def Places (f : List Char → Option ParserState) : Prop :=
  ∀ rest s', f rest = some s' → s'.rest = rest ∧ ∀ rest', f rest' = some { s' with rest := rest' }

/-- Entering a group only puts the rest in its place. -/
theorem enter?_places (s : ParserState) (o : Opening) : Places (s.enter? o) := by
  intro rest s' h
  match o with
  | .setFlags items =>
    obtain rfl := Option.some.inj h
    exact ⟨rfl, fun _ => rfl⟩
  | .group .capture =>
    obtain rfl := Option.some.inj h
    exact ⟨rfl, fun _ => rfl⟩
  | .group (.flags items) =>
    obtain rfl := Option.some.inj h
    exact ⟨rfl, fun _ => rfl⟩
  | .group (.named name) =>
    unfold enter? at h ⊢
    dsimp only at h ⊢
    split at h
    case isTrue => cases h
    case isFalse hnew =>
      obtain rfl := Option.some.inj h
      exact ⟨rfl, fun _ => if_neg hnew⟩

/-- The last piece is repeated if it can be. -/
theorem repeatLast?_of_parts {s : ParserState} {a : Ast} {parts : List Ast}
    (hparts : s.level.parts = a :: parts) (ha : isRepeatable a = true) (least : Nat) (most : Option Nat)
    (rest : List Char) : s.repeatLast? least most rest =
      some { s with rest, level := { s.level with parts := .repetition a least most :: parts } } := by
  unfold repeatLast?
  rw [hparts]
  exact if_pos ha

/-- What is repeated is the last part, and nothing else of the state is changed. -/
theorem repeatLast?_eq_some {s s' : ParserState} {least : Nat} {most : Option Nat} {rest : List Char}
    (h : s.repeatLast? least most rest = some s') :
    ∃ a parts, s.level.parts = a :: parts ∧ isRepeatable a = true ∧
      s' = { s with rest, level := { s.level with parts := .repetition a least most :: parts } } := by
  cases hparts : s.level.parts with
  | nil =>
      unfold repeatLast? at h
      rw [hparts] at h
      cases h
  | cons a parts =>
      cases ha : isRepeatable a with
      | true =>
          rw [repeatLast?_of_parts hparts ha] at h
          exact ⟨a, parts, rfl, ha, (Option.some.inj h).symm⟩
      | false =>
          unfold repeatLast? at h
          rw [hparts] at h
          dsimp only at h
          rw [ha] at h
          cases h

/-- Repeating only puts the rest in its place. -/
theorem repeatLast?_places (s : ParserState) (least : Nat) (most : Option Nat) :
    Places (s.repeatLast? least most) := by
  intro rest s' h
  obtain ⟨a, parts, hparts, ha, rfl⟩ := repeatLast?_eq_some h
  exact ⟨rfl, repeatLast?_of_parts hparts ha least most⟩

/-- So does closing a group. -/
theorem closeGroup?_places (s : ParserState) : Places s.closeGroup? := by
  intro rest s' h
  unfold closeGroup? at h ⊢
  split at h
  case h_1 => cases h
  case h_2 g groups hgroups =>
    obtain rfl := Option.some.inj h
    exact ⟨rfl, fun _ => rfl⟩

/-- A function that reads one piece and is stable in this: with another rest it makes the same state, and
leaves that rest up to what is skipped. -/
def StablePiece (f : List Char → Option ParserState) (cs : List Char) (s' : ParserState) : Prop :=
  ∃ text, cs = text ++ s'.rest ∧ ∀ rest', Continues s'.verbose s'.rest rest' →
    ∃ rest'', f (text ++ rest') = some { s' with rest := rest'' } ∧
      skip s'.verbose rest'' = skip s'.verbose rest'

/-- What has been read is put into the state. -/
theorem StablePiece.of_stable {α : Type} {read : List Char → Option (α × List Char)}
    {ok : List Char → Prop} {cs rest : List Char} {a : α} {f : α → List Char → Option ParserState}
    {s' : ParserState} (hplaces : Places (f a)) (h : f a rest = some s')
    (hread : Stable s'.verbose read ok cs a rest)
    (hok : ∀ rest', Continues s'.verbose s'.rest rest' → ok rest') :
    StablePiece (fun cs => (read cs).bind fun x => f x.1 x.2) cs s' := by
  obtain ⟨hrest, hplace⟩ := hplaces rest s' h
  obtain ⟨text, rfl, hread⟩ := hread
  refine ⟨text, by rw [hrest], fun rest' hcontinues => ?_⟩
  obtain ⟨rest'', hread, hskip⟩ := hread rest' (hok rest' hcontinues)
  refine ⟨rest'', ?_, hskip⟩
  show (read (text ++ rest')).bind _ = _
  rw [hread]
  exact hplace rest''

/-- Nothing is read but what has been read already. -/
theorem StablePiece.of_places {f : List Char → Option ParserState} {cs : List Char} {s' : ParserState}
    (hplaces : Places f) (h : f cs = some s') : StablePiece f cs s' := by
  obtain ⟨hrest, hplace⟩ := hplaces cs s' h
  exact ⟨[], hrest.symm, fun rest' _ => ⟨rest', hplace rest', rfl⟩⟩

/-- An operator is read alike, up to the question mark that may follow it. -/
theorem operator_stable {s s' : ParserState} {least : Nat} {most : Option Nat} {cs : List Char}
    (h : s.repeatLast? least most (dropLazy cs) = some s') :
    StablePiece (fun cs => s.repeatLast? least most (dropLazy cs)) cs s' := by
  have hrest := (s.repeatLast?_places least most _ s' h).1
  have hread : Stable false (fun cs => some ((), dropLazy (skip false cs)))
      (NoNewQuestion false s'.rest) cs () s'.rest := dropLazy_stable hrest.symm
  rw [← hrest] at h
  exact .of_stable (f := fun _ => s.repeatLast? least most) (s.repeatLast?_places least most) h
    hread.up_to fun _ hcontinues => hcontinues.lazy

/-- So is a count. -/
theorem counted_stable {s s' : ParserState} {cs : List Char} (h : s.counted? cs = some s') :
    StablePiece s.counted? cs s' := by
  rw [counted?_eq] at h
  obtain ⟨⟨bounds, rest⟩, hcount, hrepeat⟩ := Option.bind_eq_some_iff.mp h
  have hverbose : s'.verbose = s.verbose := by
    obtain ⟨a, parts, -, -, rfl⟩ := repeatLast?_eq_some hrepeat
    rfl
  obtain ⟨hrest, hplace⟩ := s.repeatLast?_places bounds.1 bounds.2 _ s' hrepeat
  -- first the bounds, which end in a brace, and then a question mark or none
  have hcount' :
      Stable false (fun cs => count? s.verbose (skip s.verbose cs)) Anything cs bounds rest := by
    cases hcs : skip s.verbose cs with
    | nil =>
        rw [hcs] at hcount
        cases hcount
    | cons c tail =>
        rw [hcs] at hcount
        exact .after_skip_cons hcs ((count?_stable hcount).uncons trivial rfl)
  obtain ⟨text, rfl, hread⟩ := hcount'.exact
  obtain ⟨text', rfl, hread'⟩ := dropLazy_stable hrest.symm
  refine ⟨text ++ text', (List.append_assoc _ _ _).symm, fun rest' hcontinues => ?_⟩
  rw [hverbose] at hcontinues
  obtain ⟨rest'', hlazy, hskip⟩ := hread' rest' hcontinues.question
  refine ⟨rest'', ?_, hverbose ▸ hskip⟩
  rw [counted?_eq, List.append_assoc, hread _ trivial]
  show s.repeatLast? bounds.1 bounds.2 (dropLazy (skip s.verbose (text' ++ rest'))) = _
  rw [(Prod.mk.inj (Option.some.inj hlazy)).2]
  exact hplace rest''

theorem push_places (s : ParserState) (a : Ast) : Places fun rest => some (s.push a rest) := by
  intro rest s' h
  obtain rfl := Option.some.inj h
  exact ⟨rfl, fun _ => rfl⟩

/-- **A piece of a pattern is what it is whatever follows it.** -/
theorem piece?_stable {s s' : ParserState} {c : Char} {cs : List Char} (h : s.piece? c cs = some s') :
    StablePiece (s.piece? c) cs s' := by
  unfold piece? at h
  split at h
  case h_1 =>
    have hopen : (fun cs => (opening? s.verbose cs).bind fun x => s.enter? x.1 x.2) = s.piece? '(' :=
      funext fun cs => (s.openGroup?_eq cs).symm
    rw [openGroup?_eq] at h
    obtain ⟨⟨o, rest⟩, hopening, h⟩ := Option.bind_eq_some_iff.mp h
    refine hopen ▸ ?_
    -- only a group without a question mark skips behind itself, and it keeps the verbosity
    rcases opening?_stable hopening with hexact | ⟨rfl, hcapture⟩
    · exact .of_stable (s.enter?_places o) h hexact.up_to fun _ _ => trivial
    · obtain rfl := Option.some.inj h
      exact .of_stable (s.enter?_places _) rfl hcapture fun _ hcontinues => hcontinues.question
  case h_2 => exact .of_places s.closeGroup?_places h
  case h_3 =>
    obtain rfl := Option.some.inj h
    exact ⟨[], rfl, fun rest' _ => ⟨rest', rfl, rfl⟩⟩
  case h_4 =>
    obtain ⟨⟨x, rest⟩, hset, rfl⟩ := Option.map_eq_some_iff.mp h
    have hclass : (fun cs => (bracketed? s.verbose cs).bind fun y =>
        some (s.push (.bracketed y.1.1 y.1.2) y.2)) = s.piece? '[' := by
      funext cs
      show _ = (bracketed? s.verbose cs).map _
      cases bracketed? s.verbose cs <;> rfl
    refine hclass ▸ ?_
    exact .of_stable (f := fun x rest => some (s.push (.bracketed x.1 x.2) rest)) (s.push_places _) rfl
      (bracketed?_stable hset).up_to fun _ _ => trivial
  case h_5 => exact operator_stable h
  case h_6 => exact operator_stable h
  case h_7 => exact operator_stable h
  case h_8 => exact counted_stable h
  case h_9 h₁ h₂ h₃ h₄ h₅ h₆ h₇ h₈ =>
    obtain ⟨⟨p, rest⟩, hp, rfl⟩ := Option.map_eq_some_iff.mp h
    have hprimitive : (fun cs => (primitive? s.verbose (c :: cs)).bind fun y =>
        some (s.push y.1.toAst y.2)) = s.piece? c := by
      funext cs
      rw [piece?.eq_9 s c cs h₁ h₂ h₃ h₄ h₅ h₆ h₇ h₈]
      cases primitive? s.verbose (c :: cs) <;> rfl
    have hread := (primitive?_stable hp).uncons ⟨fun _ => rfl, fun _ _ => rfl⟩ rfl
    refine hprimitive ▸ ?_
    exact .of_stable (f := fun p rest => some (s.push p.toAst rest)) (s.push_places _) rfl hread
      fun _ hcontinues => ⟨hcontinues.ended, fun _ => hcontinues.boundary⟩

end ParserState


end PullTriage.Regex
