import PullTriage.Proofs.IgnoreCase
import PullTriage.Proofs.ScanDepth
import PullTriage.Proofs.StableClasses

/-!
  PullTriage.Proofs.HarmlessClasses: nothing in a class is taken for a flag group.

  The parser reads a bracketed class to its end, and the search for flag groups counts the brackets in
  it.  The two may part, where a range ends in a bracket, but only in one direction: whatever the class
  holds, the scan fails in front of it only if it fails behind it, where it stands outside again.

        (plain 0) rejects [ ... ] rest   →   (plain 0) rejects rest

  This holds of every class of a pattern that is not verbose, and of every class in a quiet text.  For
  each reader there is one lemma, which says that what it reads is harmless; `classLoop?_harmless` puts
  them together.
-/

namespace PullTriage.Regex

open TextPattern (Scan)
open TextPattern.Scan (Passes Deeper rejects_plain_cons)

/-! ## §1. Harmless text. -/

/-- Between `cs` and `rest` stands nothing that makes the scan fail: it fails in front, at depth `d`,
only if it fails behind, at depth `e`.  And what stands behind is quiet if all is. -/
structure Harmless (d : Nat) (cs : List Char) (e : Nat) (rest : List Char) : Prop where
  quiet : quiet cs = true → quiet rest = true
  scan : (Scan.plain d).rejects cs = true → (Scan.plain e).rejects rest = true

section Harmless

variable {v : Bool} {d e : Nat} {cs rest : List Char}

/-- Ordinary text is harmless. -/
theorem Harmless.of_passes (h : Passes cs rest) (d : Nat) : Harmless d cs d rest where
  quiet := quiet_of_passes h
  scan := fun hr => by rwa [h.rejects] at hr

/-- Harmless text after harmless text is harmless. -/
theorem Harmless.trans {f : Nat} {end_ : List Char} (h : Harmless d cs e rest)
    (h' : Harmless e rest f end_) : Harmless d cs f end_ where
  quiet := fun hq => h'.quiet (h.quiet hq)
  scan := fun hr => h'.scan (h.scan hr)

/-- Behind harmless text a pattern stays quiet. -/
theorem QuietIf.harmless (hq : QuietIf v cs) (h : Harmless d cs e rest) : QuietIf v rest :=
  fun hv => h.quiet (hq hv)

/-- **An escape is harmless**, if the property it may name exists. -/
theorem escape?_harmless {p : Primitive} (hq : QuietIf v ('\\' :: cs))
    (h : escape? v cs = some (p, rest)) (hp : p.Exists) (d : Nat) :
    Harmless d ('\\' :: cs) d rest where
  quiet := fun hquiet => by
    obtain ⟨c, tail, rfl, hpasses⟩ := escape?_front hq h hp
    exact quiet_of_passes hpasses (quiet_escaped hquiet)
  scan := fun hr => by rwa [escape?_scan hq h hp] at hr

end Harmless

/-! ## §2. Members and ranges. -/

section Members

variable {v : Bool} {d : Nat} {cs rest : List Char}

/-- An end of a range or a member.  Before an opening bracket the scan goes deeper, and finds less. -/
theorem classPrimitive?_harmless {p : Primitive} (hq : QuietIf v cs)
    (h : classPrimitive? v cs = some (p, rest)) (hp : p.Exists) (hd : d ≠ 0)
    (hclose : cs.head? ≠ some ']') : Harmless d cs d rest := by
  unfold classPrimitive? at h
  split at h
  · cases h
  · exact escape?_harmless hq h hp d
  case h_3 c tail hescape =>
    obtain ⟨rfl, rfl⟩ := Prod.mk.inj (Option.some.inj h)
    have hbackslash : c ≠ '\\' := by
      rintro rfl
      exact hescape rfl
    refine ⟨fun hquiet => quiet_tail hquiet hbackslash, fun hr => ?_⟩
    by_cases hopen : c = '['
    case pos =>
      -- the end of a range: the parser stays in the class, and the scan goes one deeper
      subst hopen
      rw [rejects_bracket] at hr
      exact (Deeper.plain_opened (Nat.le_succ d)).rejects hr
    case neg =>
      rwa [rejects_plain_cons, Scan.next_eq_plain hbackslash hopen
        (.inl fun e => hclose (congrArg some e)) (.inr hd)] at hr

/-- A property that becomes a member of a class exists if the members do. -/
theorem exists_of_toClassItem {p : Primitive} {i : ClassItem} (h : p.toClassItem? = some i)
    (hi : ∀ x ∈ i.marks, x.Exists) : p.Exists := by
  cases p with
  | property negated q =>
    cases h
    exact hi _ List.mem_cons_self
  | _ => trivial

/-- A member or a range is harmless inside a class; a bare bracket at its end takes the scan deeper at
most. -/
theorem classRange?_harmless {i : ClassItem} (hq : QuietIf v cs)
    (h : classRange? v cs = some (i, rest)) (hi : ∀ x ∈ i.marks, x.Exists) (hd : d ≠ 0)
    (hclose : cs.head? ≠ some ']') : Harmless d cs d rest := by
  unfold classRange? at h
  simp only [Option.bind_eq_bind, Option.bind_eq_some_iff] at h
  obtain ⟨⟨low, after⟩, hlow, h⟩ := h
  -- both readings begin with a piece, behind which blanks may stand
  have hfront : low.Exists → Harmless d cs d (skip v after) := fun hexists => by
    have hpiece := classPrimitive?_harmless hq hlow hexists hd hclose
    exact hpiece.trans (.of_passes (skip_passes (hq.harmless hpiece)) d)
  dsimp only at h
  split at h
  · cases h
  case h_2 c tail htail =>
    rw [htail] at hfront
    split at h
    case isTrue =>
      simp only [Option.pure_def, Option.bind_eq_some_iff, Option.some.injEq, Prod.mk.injEq] at h
      obtain ⟨item, hitem, rfl, rfl⟩ := h
      exact hfront (exists_of_toClassItem hitem hi)
    case isFalse hrange =>
      simp only [not_or, Decidable.not_not] at hrange
      obtain ⟨rfl, hbracket, -⟩ := hrange
      simp only [Option.pure_def, Option.bind_eq_some_iff] at h
      obtain ⟨⟨high, after'⟩, hhigh, l, hl, r, hr, h⟩ := h
      split at h
      case isFalse => cases h
      obtain ⟨-, rfl⟩ := Prod.mk.inj (Option.some.inj h)
      have hlow' := hfront (Primitive.exists_of_toLiteral hl)
      have hq' := (hq.harmless hlow').tail (by decide)
      have hskip := skip_passes hq'
      exact (hlow'.trans (.of_passes (hskip.cons (by decide)) d)).trans
        (classPrimitive?_harmless (hq'.passes hskip) hhigh (Primitive.exists_of_toLiteral hr) hd
          (close_of_peekPast (hq.harmless hlow') hbracket))

end Members

/-! ## §3. Opening a class. -/

section Opening

variable {v : Bool} {d : Nat} {cs rest : List Char}

/-- Hyphens at the front are members. -/
theorem leadingHyphens_members {fuel : Nat} {members members' : List ClassItem}
    (h : leadingHyphens v fuel members cs = some (members', rest)) :
    marksOfItems members' = marksOfItems members ∧ (members' = [] → members = [] ∧ rest = cs) := by
  induction fuel generalizing members cs with
  | zero => cases h
  | succ fuel ih =>
    unfold leadingHyphens at h
    split at h
    case h_1 =>
      obtain ⟨hmarks, hmembers⟩ := ih h
      exact ⟨hmarks, fun hnil => absurd (hmembers hnil).1 (List.cons_ne_nil _ _)⟩
    case h_2 => cases h
    case h_3 =>
      obtain ⟨rfl, rfl⟩ := Prod.mk.inj (Option.some.inj h)
      exact ⟨rfl, fun hnil => ⟨hnil, rfl⟩⟩

/-- The hyphens at the front of a class are ordinary text. -/
theorem leadingHyphens_passes {fuel : Nat} {members members' : List ClassItem} (hq : QuietIf v cs)
    (h : leadingHyphens v fuel members cs = some (members', rest)) : Passes cs rest := by
  induction fuel generalizing members cs with
  | zero => cases h
  | succ fuel ih =>
    unfold leadingHyphens at h
    split at h
    case h_1 =>
      have hq' := hq.tail (by decide)
      have hskip := skip_passes hq'
      exact (hskip.trans (ih (hq'.passes hskip) h)).cons (by decide)
    case h_2 => cases h
    case h_3 =>
      obtain ⟨-, rfl⟩ := Prod.mk.inj (Option.some.inj h)
      exact .refl _

/-- So is the caret of a class. -/
theorem caretFirst_passes (cs : List Char) : Passes cs (caretFirst cs).2 := by
  unfold caretFirst
  split
  · exact (Passes.refl _).cons (by decide)
  · exact .refl _

/-- Skipping before the caret and behind it is what `classText` does. -/
theorem classText_eq (v : Bool) (cs : List Char) :
    skip v (caretFirst (skip v cs)).2 = classText v cs := by
  unfold classText
  split
  case h_1 htext =>
    rw [htext]
    rfl
  case h_2 hcaret => rw [caretFirst_of_ne (head?_ne_some hcaret), skip_skip]

/-- The front of a class up to its members is ordinary text. -/
theorem classText_passes (hq : QuietIf v cs) : Passes cs (classText v cs) := by
  rw [← classText_eq]
  have hskip := (skip_passes hq).trans (caretFirst_passes (skip v cs))
  exact hskip.trans (skip_passes (hq.passes hskip))

/-- In a quiet text the closing bracket at the front of a class stands right behind the opening bracket
or its caret. -/
theorem front_of_quiet (hq : QuietIf v ('[' :: cs)) (hfront : classText v cs = ']' :: rest) :
    cs = ']' :: rest ∨ cs = '^' :: ']' :: rest := by
  cases v with
  | false =>
    unfold classText at hfront
    rw [skip_false] at hfront
    split at hfront
    · exact .inr (congrArg ('^' :: ·) hfront)
    · exact .inl hfront
  | true =>
    -- in verbose mode blanks may stand before the bracket, but then it would be hidden
    have hshown := hidesMember_of_quiet (hq rfl)
    unfold hidesMember at hshown
    rw [hfront] at hshown
    by_cases hclose : cs.head? = some ']'
    case pos =>
      obtain ⟨tail, rfl⟩ := List.head?_eq_some_iff.mp hclose
      exact .inl hfront
    by_cases hcaret : cs.take 2 = ['^', ']']
    case pos =>
      obtain ⟨tail, rfl⟩ : ∃ tail, cs = '^' :: ']' :: tail :=
        ⟨cs.drop 2, by rw [← List.take_append_drop 2 cs, hcaret]; rfl⟩
      exact .inr (congrArg ('^' :: ·) hfront)
    · simp [hclose, hcaret] at hshown

/-- How a class opens: hyphens or a closing bracket are read behind what begins its text. -/
theorem openClass?_front {s s' : ClassState} (h : openClass? v s cs = some s') :
    ∃ hyphens tail, leadingHyphens v ((classText v cs).length + 1) [] (classText v cs)
        = some (hyphens, tail) ∧
      s' = ⟨.opened s.members (caretFirst (skip v cs)).1 :: s.frames, (frontBracket v hyphens tail).1,
        (frontBracket v hyphens tail).2⟩ := by
  rw [openClass?_eq] at h
  rw [← classText_eq]
  obtain ⟨x, hstart, rfl⟩ := Option.map_eq_some_iff.mp h
  obtain ⟨y, hfront, rfl⟩ := Option.map_eq_some_iff.mp hstart
  obtain ⟨⟨hyphens, tail⟩, hhyphens, hbracket⟩ := Option.bind_eq_some_iff.mp hfront
  obtain ⟨-, heq⟩ := Option.ite_none_left_eq_some.mp hbracket
  obtain rfl := Option.some.inj heq
  exact ⟨hyphens, tail, hhyphens, rfl⟩

/-- A class that is opened has no ranges or properties yet. -/
theorem openClass?_members {s s' : ClassState} (h : openClass? v s cs = some s') :
    (∃ negated, s'.frames = .opened s.members negated :: s.frames) ∧ marksOfItems s'.members = [] := by
  obtain ⟨hyphens, tail, hhyphens, rfl⟩ := openClass?_front h
  refine ⟨⟨_, rfl⟩, ?_⟩
  show marksOfItems (frontBracket v hyphens tail).1 = []
  unfold frontBracket
  split
  · rfl
  · exact (leadingHyphens_members hhyphens).1

/-- **Opening a class is harmless.** -/
theorem openClass?_harmless {s s' : ClassState} (hq : QuietIf v ('[' :: cs))
    (h : openClass? v s cs = some s') (d : Nat) : Harmless d ('[' :: cs) (d + 1) s'.rest := by
  obtain ⟨hyphens, tail, hhyphens, rfl⟩ := openClass?_front h
  have hq' := hq.tail (by decide)
  have htext := classText_passes hq'
  show Harmless d ('[' :: cs) (d + 1) (frontBracket v hyphens tail).2
  unfold frontBracket
  split
  case h_1 rest =>
    -- a closing bracket that is a member: the scan skips it as well
    have hskip : QuietIf v rest → Harmless (d + 1) rest (d + 1) (skip v rest) := fun hq =>
      .of_passes (skip_passes hq) (d + 1)
    rcases front_of_quiet hq ((leadingHyphens_members hhyphens).2 rfl).2.symm with rfl | rfl
    · exact Harmless.trans ⟨fun h => quiet_tail (quiet_tail h (by decide)) (by decide), id⟩
        (hskip (hq'.tail (by decide)))
    · exact Harmless.trans
        ⟨fun h => quiet_tail (quiet_tail (quiet_tail h (by decide)) (by decide)) (by decide), id⟩
        (hskip ((hq'.tail (by decide)).tail (by decide)))
  case h_2 =>
    -- the scan is not deeper inside of the class than behind the opening bracket
    have hfront := htext.trans (leadingHyphens_passes (hq'.passes htext) hhyphens)
    refine ⟨fun hquiet => quiet_of_passes hfront (quiet_tail hquiet (by decide)), fun hr => ?_⟩
    rw [rejects_bracket] at hr
    rw [← hfront.rejects]
    exact (Deeper.plain_opened (Nat.le_refl _)).rejects hr

end Opening

/-! ## §4. Between the brackets of a class. -/

/-- What a round of the reader does to a class in progress: it keeps what has been read, and what it
reads is harmless. -/
structure ClassState.Spares (v : Bool) (s s' : ClassState) : Prop where
  marks : ∀ x ∈ s.marks, x ∈ s'.marks
  rooted : Rooted s.frames → Rooted s'.frames
  harmless : Rooted s.frames → (∀ x ∈ s'.marks, x.Exists) → QuietIf v s.rest →
    Harmless (openBrackets s.frames) s.rest (openBrackets s'.frames) s'.rest

section Rounds

variable {v : Bool} {frames : List ClassFrame} {members : List ClassItem} {cs rest : List Char}

/-- A class between colons spares what has been read. -/
theorem posixClass?_spares {i : ClassItem} (h : posixClass? cs = some (i, rest)) :
    ClassState.Spares v ⟨frames, members, '[' :: cs⟩ ⟨frames, i :: members, rest⟩ where
  marks := (posixClass?_follows h).marks
  rooted := id
  harmless := fun _ _ _ => by
    obtain ⟨-, after, hcs, hpasses⟩ := posixClass?_passes h
    refine ⟨fun hquiet => ?_, fun hr => ?_⟩
    · replace hquiet : quiet ('[' :: cs) = true := hquiet
      rw [hcs] at hquiet
      have hafter := quiet_tail (quiet_tail hquiet (by decide)) (by decide)
      exact quiet_tail (quiet_of_passes hpasses hafter) (by decide)
    · replace hr : (Scan.plain _).rejects ('[' :: cs) = true := hr
      rwa [rejects_bracket, posixClass?_scan h] at hr

/-- Opening a nested class spares what has been read. -/
theorem openClass?_spares {before : List Char} {s' : ClassState}
    (h : openClass? v ⟨frames, members, before⟩ cs = some s') :
    ClassState.Spares v ⟨frames, members, '[' :: cs⟩ s' := by
  obtain ⟨⟨negated, hframes⟩, hmembers⟩ := openClass?_members h
  constructor
  case marks =>
    intro x hx
    show x ∈ marksOfItems s'.members ++ _
    rw [hframes, hmembers]
    exact hx
  case rooted =>
    intro hroot
    rw [hframes]
    exact hroot.cons _
  case harmless =>
    intro _ _ hq
    rw [hframes]
    exact openClass?_harmless hq h (openBrackets frames)

/-- Closing a nested class spares what has been read. -/
theorem closeClass?_spares {s s' : ClassState} (hrest : s.rest = ']' :: cs)
    (h : closeClass? s cs = some (.inl s')) : s.Spares v s' where
  marks := (closeClass?_follows hrest h).marks
  rooted := (closeClass?_follows hrest h).rooted
  harmless := fun _ _ _ => by
    obtain ⟨hopen, hafter⟩ := closeClass?_nested h
    rw [hopen, hrest, hafter]
    exact ⟨fun hquiet => quiet_tail hquiet (by decide), id⟩

/-- So does an operator between two sets. -/
theorem setOp?_spares {s : ClassState} {op : SetOp} (h : setOp? s.rest = some (op, rest)) :
    s.Spares v ⟨.left op (closeOperator s.frames s.set).2 :: (closeOperator s.frames s.set).1, [],
      rest⟩ where
  marks := (setOp?_follows h).marks
  rooted := (setOp?_follows h).rooted
  harmless := fun _ _ _ => by
    show Harmless _ s.rest (openBrackets (closeOperator s.frames s.set).1) rest
    rw [(closeOperator_spec s.frames s.set).1]
    exact .of_passes (setOp?_passes h) _

/-- So does a member or a range. -/
theorem classRange?_spares {s : ClassState} {i : ClassItem} (h : classRange? v s.rest = some (i, rest))
    (hclose : s.rest.head? ≠ some ']') : s.Spares v ⟨s.frames, i :: s.members, rest⟩ where
  marks := fun x hx => by
    simp only [ClassState.marks, marksOfItems, List.mem_append] at hx ⊢
    tauto
  rooted := id
  harmless := fun hroot hexists hq => by
    refine classRange?_harmless hq h (fun x hx => hexists x ?_) hroot.openBrackets_ne_zero hclose
    simp only [ClassState.marks, marksOfItems, List.mem_append]
    exact .inl (.inl hx)

end Rounds

/-- **A class is read to its end: nothing in it is taken for a flag group.** -/
theorem classLoop?_harmless {v : Bool} {fuel : Nat} {frames : List ClassFrame}
    {members : List ClassItem} {negated : Bool} {set : ClassSet} {cs rest : List Char}
    (h : classLoop? v fuel ⟨frames, members, cs⟩ = some ((negated, set), rest))
    (hroot : Rooted frames) :
    (∀ x ∈ ClassState.marks ⟨frames, members, cs⟩, x ∈ set.marks) ∧
      ((∀ x ∈ set.marks, x.Exists) → QuietIf v cs → Harmless (openBrackets frames) cs 0 rest) := by
  induction fuel generalizing frames members cs with
  | zero => cases h
  | succ fuel ih =>
    -- every round but the last is a step after which the rest of the class is read
    have hround : ∀ s', ClassState.Spares v ⟨frames, members, skip v cs⟩ s' →
        classLoop? v fuel s' = some ((negated, set), rest) →
        (∀ x ∈ ClassState.marks ⟨frames, members, cs⟩, x ∈ set.marks) ∧
          ((∀ x ∈ set.marks, x.Exists) → QuietIf v cs → Harmless (openBrackets frames) cs 0 rest) := by
      intro s' hstep hrun
      obtain ⟨hmarks, hrest⟩ := ih hrun (hstep.rooted hroot)
      refine ⟨fun x hx => hmarks x (hstep.marks x hx), fun hexists hq => ?_⟩
      have hskip := Harmless.of_passes (skip_passes hq) (openBrackets frames)
      have hq' := hq.harmless hskip
      have hread := hstep.harmless hroot (fun x hx => hexists x (hmarks x hx)) hq'
      exact (hskip.trans hread).trans (hrest hexists (hq'.harmless hread))
    cases htext : skip v cs with
    | nil =>
      rw [classLoop?_empty fuel frames members htext] at h
      cases h
    | cons c tail =>
      rw [htext] at hround
      by_cases hopen : c = '['
      case pos =>
        subst hopen
        rw [classLoop?_open fuel frames members htext] at h
        split at h
        case h_1 i after hposix => exact hround _ (posixClass?_spares hposix) h
        case h_2 =>
          obtain ⟨s', hopen, hrun⟩ := Option.bind_eq_some_iff.mp h
          exact hround s' (openClass?_spares hopen) hrun
      by_cases hclose : c = ']'
      case pos =>
        subst hclose
        rw [classLoop?_close fuel frames members htext] at h
        split at h
        case h_1 => cases h
        case h_2 s' hclosed => exact hround s' (closeClass?_spares rfl hclosed) h
        case h_3 result hclosed =>
          obtain rfl := Option.some.inj h
          obtain ⟨rfl, hmarks, hscan⟩ :=
            closeClass?_scan (s := ⟨frames, members, ']' :: tail⟩) rfl hclosed hroot
          refine ⟨hmarks, fun _ hq => ?_⟩
          have hskip := Harmless.of_passes (skip_passes hq) (openBrackets frames)
          rw [htext] at hskip
          exact hskip.trans
            ⟨fun hquiet => quiet_tail hquiet (by decide), fun hr => hscan.symm.trans hr⟩
      -- an operator, a member or a range
      rw [classLoop?_other hopen hclose fuel frames members htext] at h
      split at h
      case h_1 op after hop =>
        exact hround _ (setOp?_spares (s := ⟨frames, members, c :: tail⟩) hop) h
      case h_2 =>
        obtain ⟨⟨i, after⟩, hrange, hrun⟩ := Option.bind_eq_some_iff.mp h
        refine hround _ (classRange?_spares (s := ⟨frames, members, c :: tail⟩) hrange ?_) hrun
        exact fun hhead => hclose (Option.some.inj hhead)

/-- **A class is harmless from its bracket to its end.** -/
theorem bracketed?_harmless {v : Bool} {negated : Bool} {set : ClassSet} {cs rest : List Char}
    (h : bracketed? v cs = some ((negated, set), rest)) (hset : ∀ x ∈ set.marks, x.Exists)
    (hq : QuietIf v ('[' :: cs)) : Harmless 0 ('[' :: cs) 0 rest := by
  obtain ⟨s, hopen, hrun⟩ := Option.bind_eq_some_iff.mp h
  obtain ⟨⟨negated', hframes⟩, -⟩ := openClass?_members hopen
  have hfront := openClass?_harmless hq hopen 0
  have hroot : Rooted s.frames := ⟨[], negated', hframes⟩
  have hend := (classLoop?_harmless hrun hroot).2 hset (hq.harmless hfront)
  rw [hframes] at hend
  exact hfront.trans hend

end PullTriage.Regex
