import PullTriage.Proofs.StableMembers

/-!
  PullTriage.Proofs.StableClasses: what a class holds does not depend on what follows it.

  Members are read alike before rests that agree up to a closing bracket (`SharesBracket`).  What is left
  of a class always ends in one, and so the class as a whole is read alike before any rest.

  Each round of the loop skips first, so between two members a rest only counts up to what is skipped
  (`classLoop?_congr`).

  Layers:
    * §1: opening a class;
    * §2: between the brackets.

  Main statement: `bracketed?_stable`.
-/

namespace PullTriage.Regex

variable {v : Bool}

/-! ## §1. Opening a class. -/

/-- The hyphens at the front of a class are read alike, as long as the next character is the same. -/
theorem leadingHyphens_stable {fuel : Nat} {members members' : List ClassItem} {cs rest : List Char}
    (h : leadingHyphens v fuel members cs = some (members', rest)) :
    ∃ c tail text, rest = c :: tail ∧ cs = text ++ rest ∧ ∀ tail' fuel, text.length < fuel →
      leadingHyphens v fuel members (text ++ c :: tail') = some (members', c :: tail') := by
  -- by induction on the rounds, each of which takes one hyphen
  induction fuel generalizing members cs with
  | zero => cases h
  | succ fuel ih =>
      unfold leadingHyphens at h
      split at h
      case h_1 after =>
        obtain ⟨c, tail, text, rfl, htext, hread⟩ := ih h
        obtain ⟨pre, rfl, hskip⟩ := skip_front htext
        refine ⟨c, tail, '-' :: (pre ++ text), rfl, by simp, fun tail' fuel' hlt => ?_⟩
        rw [List.length_cons, List.length_append] at hlt
        obtain ⟨fuel', rfl⟩ := Nat.exists_eq_succ_of_ne_zero (Nat.ne_of_gt (Nat.lt_of_le_of_lt
          (Nat.zero_le _) hlt))
        rw [List.cons_append, List.append_assoc, leadingHyphens.eq_2, hskip]
        exact hread tail' fuel' (by omega)
      case h_2 => cases h
      case h_3 hhyphen hnil =>
        obtain ⟨rfl, rfl⟩ := Prod.mk.inj (Option.some.inj h)
        cases cs with
        | nil => exact absurd rfl hnil
        | cons c tail =>
            refine ⟨c, tail, [], rfl, rfl, fun tail' fuel' hlt => ?_⟩
            obtain ⟨fuel', rfl⟩ := Nat.exists_eq_succ_of_ne_zero (Nat.ne_of_gt hlt)
            refine leadingHyphens.eq_4 v members (c :: tail') fuel' (fun after heq => ?_)
              (List.cons_ne_nil _ _)
            exact hhyphen tail (by rw [(List.cons.inj heq).1])

/-- A closing bracket that no hyphen stands before is a member. -/
def frontBracket (v : Bool) (members : List ClassItem) (cs : List Char) : List ClassItem × List Char :=
  match members, cs with
  | [], ']' :: rest => ([.literal ⟨']', false⟩], skip v rest)
  | _, _ => (members, cs)

/-- It is one if something follows. -/
def bracketFirst? (v : Bool) (members : List ClassItem) (cs : List Char) :
    Option (List ClassItem × List Char) :=
  if (frontBracket v members cs).2.isEmpty then none else some (frontBracket v members cs)

/-- Without a closing bracket in front, there only has to be something. -/
theorem bracketFirst?_of_ne {members : List ClassItem} {cs : List Char}
    (h : members ≠ [] ∨ cs.head? ≠ some ']') :
    bracketFirst? v members cs = if cs.isEmpty then none else some (members, cs) := by
  have hfront : frontBracket v members cs = (members, cs) := by
    unfold frontBracket
    split
    case h_1 => simp at h
    case h_2 => rfl
  unfold bracketFirst?
  rw [hfront]

/-- A closing bracket at the front is read alike before the same next character. -/
theorem bracketFirst?_stable {members members' : List ClassItem} {cs rest : List Char}
    (h : bracketFirst? v members cs = some (members', rest)) : ∃ c tail, rest = c :: tail ∧
      Stable false (bracketFirst? v members) (BeginsWith c) cs members' rest := by
  by_cases hclose : members ≠ [] ∨ cs.head? ≠ some ']'
  case pos =>
    rw [bracketFirst?_of_ne hclose] at h
    cases cs with
    | nil => cases h
    | cons c tail =>
        obtain ⟨rfl, rfl⟩ := Prod.mk.inj (Option.some.inj h)
        refine ⟨c, tail, rfl, .of_exact [] rfl ?_⟩
        rintro _ ⟨tail', rfl⟩
        exact bracketFirst?_of_ne hclose
  case neg =>
    rw [not_or, not_not, not_not] at hclose
    obtain ⟨rfl, hhead⟩ := hclose
    obtain ⟨after, rfl⟩ := List.head?_eq_some_iff.mp hhead
    -- a closing bracket in the first place is a member, and something has to follow it
    have hbracket : ∀ {after c tail}, skip v after = c :: tail →
        bracketFirst? v [] (']' :: after) = some ([.literal ⟨']', false⟩], c :: tail) := by
      intro after c tail hafter
      show (if (skip v after).isEmpty then none else some (_, skip v after)) = _
      rw [hafter]
      rfl
    cases hafter : skip v after with
    | nil =>
        replace h : (if (skip v after).isEmpty then none else some (_, skip v after)) = _ := h
        rw [hafter] at h
        cases h
    | cons c tail =>
        rw [hbracket hafter] at h
        obtain ⟨rfl, rfl⟩ := Prod.mk.inj (Option.some.inj h)
        obtain ⟨⟨pre, rfl, hpre⟩, -⟩ := skip_eq_cons hafter
        refine ⟨c, tail, rfl, .of_exact (']' :: pre) rfl ?_⟩
        rintro _ ⟨tail', rfl⟩
        exact hbracket (hpre tail')

/-- The hyphens, or the closing bracket, that are the first members of a class. -/
def classFront? (v : Bool) (cs : List Char) : Option (List ClassItem × List Char) :=
  (leadingHyphens v (cs.length + 1) [] cs).bind fun x => bracketFirst? v x.1 x.2

/-- So is the whole front of a class. -/
theorem classFront?_stable {members : List ClassItem} {cs rest : List Char}
    (h : classFront? v cs = some (members, rest)) : ∃ c tail, rest = c :: tail ∧
      Stable false (classFront? v) (BeginsWith c) cs members rest := by
  obtain ⟨⟨hyphens, after⟩, hhyphens, hfront⟩ := Option.bind_eq_some_iff.mp h
  obtain ⟨c, tail, rfl, hbracket⟩ := bracketFirst?_stable hfront
  obtain ⟨d, mid, text, rfl, rfl, hread⟩ := leadingHyphens_stable hhyphens
  have hhyphens' : Stable false (fun cs => leadingHyphens v (cs.length + 1) [] cs) (BeginsWith d)
      (text ++ d :: mid) hyphens (d :: mid) := by
    refine .of_exact text rfl ?_
    rintro _ ⟨tail', rfl⟩
    refine hread tail' _ ?_
    rw [List.length_append]
    omega
  refine ⟨c, tail, rfl, hhyphens'.bind hbracket ?_⟩
  intro heq
  obtain ⟨rfl, rfl⟩ := List.cons.inj heq
  exact fun _ => id

/-- Whether a class is negated, and its first members. -/
def classStart? (v : Bool) (cs : List Char) : Option ((Bool × List ClassItem) × List Char) :=
  (classFront? v (skip v (caretFirst cs).2)).map fun x => (((caretFirst cs).1, x.1), x.2)

/-- So is its front with the caret. -/
theorem classStart?_stable {x : Bool × List ClassItem} {cs rest : List Char}
    (h : classStart? v cs = some (x, rest)) : ∃ c tail, rest = c :: tail ∧
      Stable false (classStart? v) (BeginsWith c) cs x rest := by
  obtain ⟨⟨members, rest'⟩, hfront, heq⟩ := Option.map_eq_some_iff.mp h
  obtain ⟨rfl, rfl⟩ := Prod.mk.inj heq
  obtain ⟨c, tail, rfl, hstable⟩ := classFront?_stable hfront
  obtain ⟨text, htext, hread⟩ := hstable.after_skip_exact.exact
  refine ⟨c, tail, rfl, ?_⟩
  by_cases hcaret : cs.head? = some '^'
  · obtain ⟨after, rfl⟩ := List.head?_eq_some_iff.mp hcaret
    refine .of_exact ('^' :: text) (congrArg ('^' :: ·) htext) fun rest' hbegins => ?_
    show (classFront? v (skip v (text ++ rest'))).map _ = _
    rw [hread rest' hbegins]
    rfl
  · rw [caretFirst_of_ne hcaret] at htext ⊢
    obtain rfl : cs = text ++ c :: tail := htext
    refine .of_exact text rfl ?_
    rintro _ ⟨tail', rfl⟩
    -- the text in front is kept, so it still begins with no caret
    have hcaret' : (text ++ c :: tail').head? ≠ some '^' := by
      cases text <;> exact hcaret
    show (classFront? v (skip v (caretFirst (text ++ c :: tail')).2)).map _ = _
    rw [caretFirst_of_ne hcaret', hread _ ⟨tail', rfl⟩]
    rfl

/-- A class is opened by its front and the caret before it. -/
theorem openClass?_eq (s : ClassState) (cs : List Char) : openClass? v s cs =
    (classStart? v (skip v cs)).map fun x =>
      ⟨.opened s.members x.1.1 :: s.frames, x.1.2, x.2⟩ := by
  -- negated or not, the same front follows
  have hfront : ∀ (negated : Bool) (x : Option (List ClassItem × List Char)),
      (x.bind fun x => if (frontBracket v x.1 x.2).2.isEmpty then none else
        some (ClassState.mk (.opened s.members negated :: s.frames) (frontBracket v x.1 x.2).1
          (frontBracket v x.1 x.2).2)) =
      ((x.bind fun x => bracketFirst? v x.1 x.2).map fun x => ((negated, x.1), x.2)).map fun x =>
        ⟨.opened s.members x.1.1 :: s.frames, x.1.2, x.2⟩ := by
    intro negated x
    cases x with
    | none => rfl
    | some x =>
        show (if _ then _ else _) = Option.map _ (Option.map _ (if _ then _ else _))
        split <;> rfl
  unfold openClass?
  simp only [Option.bind_eq_bind, Option.pure_def]
  split
  case h_1 tail hcaret =>
    rw [hcaret]
    exact hfront true _
  case h_2 hcaret =>
    unfold classStart?
    rw [caretFirst_of_ne (head?_ne_some hcaret), skip_skip]
    exact hfront false _

/-- **Opening a class does not depend on what follows**, up to a closing bracket. -/
theorem openClass?_stable {frames : List ClassFrame} {members : List ClassItem} {s' : ClassState}
    {before cs : List Char} (h : openClass? v ⟨frames, members, before⟩ cs = some s') :
    ∃ text, cs = text ++ s'.rest ∧ ∀ before' rest', SharesBracket s'.rest rest' →
      openClass? v ⟨frames, members, before'⟩ (text ++ rest') =
        some ⟨s'.frames, s'.members, rest'⟩ := by
  rw [openClass?_eq] at h
  obtain ⟨⟨x, rest⟩, hstart, rfl⟩ := Option.map_eq_some_iff.mp h
  obtain ⟨c, tail, rfl, hstable⟩ := classStart?_stable hstart
  obtain ⟨text, rfl, hread⟩ := hstable.after_skip_exact.exact
  refine ⟨text, rfl, fun before' rest' hshares => ?_⟩
  obtain ⟨d, _, tail', heq, rfl, -⟩ := hshares.exists_cons
  obtain ⟨rfl, -⟩ := List.cons.inj heq
  rw [openClass?_eq, hread _ ⟨tail', rfl⟩]
  rfl

/-! ## §2. Between the brackets. -/

/-- Closing a class does not look at what follows. -/
theorem closeClass?_cases {frames : List ClassFrame} {members : List ClassItem}
    {before cs : List Char} {r : ClassState ⊕ (Bool × ClassSet) × List Char}
    (h : closeClass? ⟨frames, members, before⟩ cs = some r) :
    (∃ set, r = .inr (set, cs) ∧ ∀ before' cs',
        closeClass? ⟨frames, members, before'⟩ cs' = some (.inr (set, cs'))) ∨
      ∃ frames' members', r = .inl ⟨frames', members', cs⟩ ∧ ∀ before' cs',
        closeClass? ⟨frames, members, before'⟩ cs' = some (.inl ⟨frames', members', cs'⟩) := by
  have hset : ∀ before', ClassState.set ⟨frames, members, before'⟩ = .items members.reverse :=
    fun _ => rfl
  unfold closeClass? at h ⊢
  simp only [hset] at h ⊢
  split at h
  case h_1 negated set hclose =>
    obtain rfl := Option.some.inj h
    exact .inl ⟨(negated, set), rfl, fun _ _ => rfl⟩
  case h_2 outer negated frames' set hnested hclose =>
    obtain rfl := Option.some.inj h
    exact .inr ⟨frames', .bracketed negated set :: outer, rfl, fun _ _ => rfl⟩
  case h_3 => cases h

theorem classLoop?_empty (fuel : Nat) (frames : List ClassFrame) (members : List ClassItem)
    {cs : List Char} (hcs : skip v cs = []) : classLoop? v (fuel + 1) ⟨frames, members, cs⟩ = none := by
  unfold classLoop?
  dsimp only
  rw [hcs]

theorem classLoop?_open (fuel : Nat) (frames : List ClassFrame) (members : List ClassItem)
    {cs tail : List Char} (hcs : skip v cs = '[' :: tail) :
    classLoop? v (fuel + 1) ⟨frames, members, cs⟩ =
      match posixClass? tail with
      | some (item, after) => classLoop? v fuel ⟨frames, item :: members, after⟩
      | none => (openClass? v ⟨frames, members, []⟩ tail).bind (classLoop? v fuel) := by
  conv => lhs; unfold classLoop?
  dsimp only
  rw [hcs]
  rfl

theorem classLoop?_close (fuel : Nat) (frames : List ClassFrame) (members : List ClassItem)
    {cs tail : List Char} (hcs : skip v cs = ']' :: tail) :
    classLoop? v (fuel + 1) ⟨frames, members, cs⟩ =
      match closeClass? ⟨frames, members, []⟩ tail with
      | none => none
      | some (.inl s) => classLoop? v fuel s
      | some (.inr result) => some result := by
  conv => lhs; unfold classLoop?
  dsimp only
  rw [hcs]
  rfl

theorem classLoop?_other {c : Char} (hopen : c ≠ '[') (hclose : c ≠ ']') (fuel : Nat)
    (frames : List ClassFrame) (members : List ClassItem) {cs tail : List Char}
    (hcs : skip v cs = c :: tail) : classLoop? v (fuel + 1) ⟨frames, members, cs⟩ =
      match setOp? (c :: tail) with
      | some (op, rest) =>
        classLoop? v fuel ⟨.left op (closeOperator frames (.items members.reverse)).2 ::
          (closeOperator frames (.items members.reverse)).1, [], rest⟩
      | none =>
        (classRange? v (c :: tail)).bind fun x =>
          classLoop? v fuel ⟨frames, x.1 :: members, x.2⟩ := by
  conv => lhs; unfold classLoop?
  dsimp only
  rw [hcs]
  split
  case h_1 heq => cases heq
  case h_2 heq => exact absurd (List.cons.inj heq).1 hopen
  case h_3 heq => exact absurd (List.cons.inj heq).1 hclose
  case h_4 => rfl

/-- A round skips first. -/
theorem classLoop?_congr {fuel : Nat} {frames : List ClassFrame} {members : List ClassItem}
    {cs cs' : List Char} (h : skip v cs = skip v cs') :
    classLoop? v fuel ⟨frames, members, cs⟩ = classLoop? v fuel ⟨frames, members, cs'⟩ := by
  cases fuel with
  | zero => rfl
  | succ fuel =>
      unfold classLoop?
      dsimp only
      rw [h]
      rfl

/-- In a state of the loop, what is left of the class is read to its closing bracket whatever follows. -/
def ReadsClass (v : Bool) (frames : List ClassFrame) (members : List ClassItem) (cs : List Char)
    (x : Bool × ClassSet) (rest : List Char) : Prop :=
  ∃ text, cs = text ++ rest ∧ ']' ∈ text ∧ ∀ rest' fuel, text.length < fuel →
    classLoop? v fuel ⟨frames, members, text ++ rest'⟩ = some (x, rest')

namespace ReadsClass

variable {frames frames' : List ClassFrame} {members members' : List ClassItem} {cs rest : List Char}
  {x : Bool × ClassSet}

/-- Blanks in front of a class in progress do not count. -/
theorem of_skip (h : ReadsClass v frames members (skip v cs) x rest) :
    ReadsClass v frames members cs x rest := by
  obtain ⟨text, htext, hmem, hrun⟩ := h
  cases text with
  | nil => cases hmem
  | cons d text =>
      obtain ⟨⟨pre, rfl, hpre⟩, hkept⟩ := skip_eq_cons htext
      refine ⟨pre ++ d :: text, by simp, List.mem_append_right pre hmem, fun rest' fuel hlt => ?_⟩
      rw [List.length_append] at hlt
      rw [List.append_assoc, List.cons_append, classLoop?_congr ((hpre _).trans (hkept _).symm)]
      exact hrun rest' fuel (by omega)

/-- Text in front of what the rounds before read. -/
theorem front {front text : List Char} (hne : front ≠ []) (hcs : cs = front ++ (text ++ rest))
    (hmem : ']' ∈ text)
    (hround : ∀ fuel rest', classLoop? v (fuel + 1) ⟨frames, members, front ++ (text ++ rest')⟩ =
      classLoop? v fuel ⟨frames', members', text ++ rest'⟩)
    (hrun : ∀ rest' fuel, text.length < fuel →
      classLoop? v fuel ⟨frames', members', text ++ rest'⟩ = some (x, rest')) :
    ReadsClass v frames members cs x rest := by
  refine ⟨front ++ text, by rw [hcs, List.append_assoc], List.mem_append_right front hmem,
    fun rest' fuel hlt => ?_⟩
  have hpos : 0 < front.length := List.length_pos_iff.mpr hne
  rw [List.length_append] at hlt
  obtain ⟨fuel, rfl⟩ := Nat.exists_eq_succ_of_ne_zero (Nat.ne_of_gt (Nat.lt_of_le_of_lt
    (Nat.zero_le _) hlt))
  rw [List.append_assoc, hround]
  exact hrun rest' fuel (by omega)

end ReadsClass

/-- **What is left of a class is read to its closing bracket whatever follows.** -/
theorem classLoop?_stable {fuel : Nat} {frames : List ClassFrame} {members : List ClassItem}
    {cs rest : List Char} {x : Bool × ClassSet}
    (h : classLoop? v fuel ⟨frames, members, cs⟩ = some (x, rest)) :
    ReadsClass v frames members cs x rest := by
  induction fuel generalizing frames members cs with
  | zero => cases h
  | succ fuel ih =>
      -- one case for each kind of round, and `front` for all of them but the last round
      refine .of_skip ?_
      cases hcs : skip v cs with
      | nil =>
          rw [classLoop?_empty fuel frames members hcs] at h
          cases h
      | cons c tail =>
      have hkept := (skip_eq_cons hcs).2
      by_cases hopen : c = '['
      case pos =>
        subst hopen
        rw [classLoop?_open fuel frames members hcs] at h
        cases hposix : posixClass? tail with
        | some y =>
            obtain ⟨i, after⟩ := y
            rw [hposix] at h
            obtain ⟨text, rfl, hmem, hrun⟩ := ih h
            obtain ⟨front, rfl, hread⟩ := (posixClass?_stable hposix).exact
            refine .front (List.cons_ne_nil '[' front) rfl hmem (fun n rest' => ?_) hrun
            rw [List.cons_append, classLoop?_open n frames members (hkept _), hread _ trivial]
        | none =>
            rw [hposix] at h
            obtain ⟨⟨frames', members', after⟩, hclass, h⟩ := Option.bind_eq_some_iff.mp h
            obtain ⟨text, rfl, hmem, hrun⟩ := ih h
            obtain ⟨front, rfl, hread⟩ := openClass?_stable hclass
            refine .front (List.cons_ne_nil '[' front) rfl hmem (fun n rest' => ?_) hrun
            have hshares := SharesBracket.of_mem hmem rest rest'
            rw [List.cons_append, classLoop?_open n frames members (hkept _),
              posixClass?_eq_none (hshares.append front) hposix]
            show (openClass? v _ _).bind _ = _
            rw [hread _ _ hshares]
            rfl
      case neg =>
      by_cases hclose : c = ']'
      case pos =>
        subst hclose
        rw [classLoop?_close fuel frames members hcs] at h
        cases hend : closeClass? ⟨frames, members, []⟩ tail with
        | none => rw [hend] at h; cases h
        | some r =>
            rw [hend] at h
            rcases closeClass?_cases hend with ⟨set', rfl, hread⟩ | ⟨frames', members', rfl, hread⟩
            · obtain ⟨rfl, rfl⟩ := Prod.mk.inj (Option.some.inj h)
              refine ⟨[']'], rfl, List.mem_singleton_self _, fun rest' fuel' hlt => ?_⟩
              obtain ⟨fuel', rfl⟩ := Nat.exists_eq_succ_of_ne_zero (Nat.ne_of_gt
                (Nat.lt_of_le_of_lt (Nat.zero_le _) hlt))
              rw [List.singleton_append, classLoop?_close fuel' frames members (hkept _), hread]
            · obtain ⟨text, rfl, hmem, hrun⟩ := ih h
              refine .front (List.cons_ne_nil ']' []) rfl hmem (fun n rest' => ?_) hrun
              rw [List.singleton_append, classLoop?_close n frames members (hkept _), hread]
      case neg =>
        rw [classLoop?_other hopen hclose fuel frames members hcs] at h
        cases hop : setOp? (c :: tail) with
        | some y =>
            obtain ⟨op, after⟩ := y
            rw [hop] at h
            obtain ⟨text, rfl, hmem, hrun⟩ := ih h
            obtain ⟨front, rfl, hread⟩ := ((setOp?_stable hop).uncons trivial rfl).exact
            refine .front (List.cons_ne_nil c front) rfl hmem (fun n rest' => ?_) hrun
            rw [List.cons_append, classLoop?_other hopen hclose n frames members (hkept _)]
            rw [hread _ trivial]
        | none =>
            rw [hop] at h
            obtain ⟨⟨i, after⟩, hrange, h⟩ := Option.bind_eq_some_iff.mp h
            obtain ⟨text, rfl, hmem, hrun⟩ := ih h
            obtain ⟨front, hfront, hread⟩ := classRange?_stable hrange
            cases front with
            | nil =>
                have hreads := classRange?_reads hrange
                rw [hfront] at hreads
                exact absurd hreads (Nat.lt_irrefl _)
            | cons d front =>
                obtain ⟨rfl, rfl⟩ := List.cons.inj hfront
                refine .front (List.cons_ne_nil c front) rfl hmem (fun n rest' => ?_) hrun
                have hshares := SharesBracket.of_mem hmem rest rest'
                obtain ⟨rest'', hread, hskip⟩ := hread _ hshares
                rw [List.cons_append, classLoop?_other hopen hclose n frames members (hkept _),
                  ← List.cons_append, setOp?_eq_none (hshares.append (c :: front)) hop]
                show (classRange? v (c :: front ++ (text ++ rest'))).bind _ = _
                rw [hread]
                exact classLoop?_congr hskip

/-- **A class.** -/
theorem bracketed?_stable {x : Bool × ClassSet} {cs rest : List Char}
    (h : bracketed? v cs = some (x, rest)) : Stable false (bracketed? v) Anything cs x rest := by
  obtain ⟨⟨frames, members, after⟩, hopen, hloop⟩ := Option.bind_eq_some_iff.mp h
  obtain ⟨text, rfl, hmem, hrun⟩ := classLoop?_stable hloop
  obtain ⟨front, rfl, hread⟩ := openClass?_stable hopen
  refine .of_exact (front ++ text) (by simp) fun rest' _ => ?_
  have hopen' := hread [] (text ++ rest') (SharesBracket.of_mem hmem rest rest')
  show (openClass? v ⟨[], [], []⟩ (front ++ text ++ rest')).bind (classLoop? v _) = _
  rw [List.append_assoc, hopen']
  refine hrun rest' _ ?_
  rw [List.length_append, List.length_append]
  omega


end PullTriage.Regex
