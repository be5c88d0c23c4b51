import PullTriage.Proofs.StableReaders

/-!
  PullTriage.Proofs.StableMembers: the members of a class do not depend on what follows them.

  Inside a class a bracket may begin a class between colons, and only what comes after it tells.  So two
  rests do not have to be the same for the members before them to be read alike, but they have to be up to
  a closing bracket (`SharesBracket`).

  Layers:
    * §1: up to a closing bracket;
    * §2: classes between colons;
    * §3: members.
-/

namespace PullTriage.Regex

/-! ## §1. Up to a closing bracket. -/

/-- Both texts are the same up to a closing bracket. -/
def SharesBracket (cs cs' : List Char) : Prop :=
  ∃ front tail tail', cs = front ++ ']' :: tail ∧ cs' = front ++ ']' :: tail'

namespace SharesBracket

variable {cs cs' : List Char}

/-- Texts that begin alike and have a closing bracket there agree up to it. -/
theorem of_mem {text : List Char} (h : ']' ∈ text) (rest rest' : List Char) :
    SharesBracket (text ++ rest) (text ++ rest') := by
  obtain ⟨front, tail, rfl⟩ := List.append_of_mem h
  exact ⟨front, tail ++ rest, tail ++ rest', by simp, by simp⟩

/-- They still do behind more text. -/
theorem append (h : SharesBracket cs cs') (text : List Char) :
    SharesBracket (text ++ cs) (text ++ cs') := by
  obtain ⟨front, tail, tail', rfl, rfl⟩ := h
  exact ⟨text ++ front, tail, tail', by simp, by simp⟩

/-- They begin with the same character, and go on to share a bracket if it is none. -/
theorem exists_cons (h : SharesBracket cs cs') : ∃ c after after', cs = c :: after ∧
    cs' = c :: after' ∧ (c ≠ ']' → SharesBracket after after') := by
  obtain ⟨front, tail, tail', rfl, rfl⟩ := h
  cases front with
  | nil => exact ⟨']', tail, tail', rfl, rfl, fun hc => absurd rfl hc⟩
  | cons c front =>
      exact ⟨c, front ++ ']' :: tail, front ++ ']' :: tail', rfl, rfl,
        fun _ => ⟨front, tail, tail', rfl, rfl⟩⟩

theorem symm (h : SharesBracket cs cs') : SharesBracket cs' cs := by
  obtain ⟨front, tail, tail', hcs, hcs'⟩ := h
  exact ⟨front, tail', tail, hcs', hcs⟩

end SharesBracket

/-! ## §2. Classes between colons. -/

/-- The name of a class up to the colon and the bracket that end it. -/
def posixName? (cs : List Char) : Option (PosixClass × List Char) :=
  match cs.dropWhile (· != ':') with
  | ':' :: ']' :: after =>
    (PosixClass.ofName? (String.ofList (cs.takeWhile (· != ':')))).map fun c => (c, after)
  | _ => none

/-- Whether a caret stands first, and what follows it. -/
def caretFirst (cs : List Char) : Bool × List Char :=
  match cs with
  | '^' :: rest => (true, rest)
  | _ => (false, cs)

/-- Without a caret a class is not negated. -/
theorem caretFirst_of_ne {cs : List Char} (h : cs.head? ≠ some '^') :
    caretFirst cs = (false, cs) := by
  unfold caretFirst
  split
  case h_1 => exact absurd rfl h
  case h_2 => rfl

/-- Between colons stands a name, with a caret before it if it is negated. -/
theorem posixClass?_colon (cs : List Char) : posixClass? (':' :: cs) =
    (posixName? (caretFirst cs).2).map fun x => (.posix (caretFirst cs).1 x.1, x.2) := by
  show (match (caretFirst cs).2.dropWhile (· != ':') with
    | ':' :: ']' :: after =>
      (PosixClass.ofName? (String.ofList ((caretFirst cs).2.takeWhile (· != ':')))).map fun c =>
        (ClassItem.posix (caretFirst cs).1 c, after)
    | _ => none) = _
  unfold posixName?
  split
  · cases PosixClass.ofName? (String.ofList ((caretFirst cs).2.takeWhile (· != ':'))) <;> rfl
  · rfl

/-- The name is read alike before anything. -/
theorem posixName?_eq {c : PosixClass} {cs rest : List Char} (h : posixName? cs = some (c, rest)) :
    ∃ name, cs = name ++ ':' :: ']' :: rest ∧ ']' ∉ name ∧
      ∀ rest', posixName? (name ++ ':' :: ']' :: rest') = some (c, rest') := by
  unfold posixName? at h
  split at h
  case h_2 => cases h
  case h_1 after hdrop =>
    obtain ⟨c', hc, heq⟩ := Option.map_eq_some_iff.mp h
    obtain ⟨rfl, rfl⟩ := Prod.mk.inj heq
    have hcolon : ':' ∉ cs.takeWhile (· != ':') := by
      intro hmem
      simpa using List.mem_takeWhile_imp hmem
    -- the names of the classes are known, and no bracket is in them
    have hordinary := PosixClass.isOrdinary_of_ofName hc
    rw [String.toList_ofList] at hordinary
    refine ⟨cs.takeWhile (· != ':'), ?_, ?_, fun rest' => ?_⟩
    · rw [← hdrop, List.takeWhile_append_dropWhile]
    · intro hmem
      have hbracket := hordinary ']' hmem
      revert hbracket
      decide
    · obtain ⟨htake, hdrop'⟩ := takeWhile_name hcolon (']' :: rest')
      unfold posixName?
      rw [hdrop', htake, hc]
      rfl

/-- A class between colons is written with one closing bracket, its last character. -/
theorem posixClass?_eq {i : ClassItem} {cs rest : List Char} (h : posixClass? cs = some (i, rest)) :
    ∃ text, cs = text ++ ']' :: rest ∧ ']' ∉ text ∧
      ∀ rest', posixClass? (text ++ ']' :: rest') = some (i, rest') := by
  have hcolon : ∃ after, cs = ':' :: after := by
    unfold posixClass? at h
    split at h
    case h_1 after => exact ⟨after, rfl⟩
    case h_2 => cases h
  obtain ⟨after, rfl⟩ := hcolon
  rw [posixClass?_colon] at h
  obtain ⟨⟨c, rest'⟩, hname, heq⟩ := Option.map_eq_some_iff.mp h
  obtain ⟨rfl, rfl⟩ := Prod.mk.inj heq
  obtain ⟨name, htext, hfree, hread⟩ := posixName?_eq hname
  -- the sign is part of the text in front of the bracket
  by_cases hsign : after.head? = some '^'
  · obtain ⟨after, rfl⟩ := List.head?_eq_some_iff.mp hsign
    obtain rfl : after = name ++ ':' :: ']' :: rest' := htext
    refine ⟨':' :: '^' :: (name ++ [':']), by simp, by simp [hfree], fun other => ?_⟩
    have htext : ':' :: '^' :: (name ++ [':']) ++ ']' :: other =
        ':' :: '^' :: (name ++ ':' :: ']' :: other) := by simp
    rw [htext, posixClass?_colon]
    show (posixName? (name ++ ':' :: ']' :: other)).map _ = _
    rw [hread other]
    rfl
  · rw [caretFirst_of_ne hsign] at htext ⊢
    obtain rfl : after = name ++ ':' :: ']' :: rest' := htext
    refine ⟨':' :: (name ++ [':']), by simp, by simp [hfree], fun other => ?_⟩
    have htext : ':' :: (name ++ [':']) ++ ']' :: other = ':' :: (name ++ ':' :: ']' :: other) := by
      simp
    have hsign' : (name ++ ':' :: ']' :: other).head? ≠ some '^' := by
      cases name with
      | nil => simp
      | cons d name => simpa using hsign
    rw [htext, posixClass?_colon, caretFirst_of_ne hsign', hread other]
    rfl

/-- **A class between colons is read alike before anything.** -/
theorem posixClass?_stable {i : ClassItem} {cs rest : List Char}
    (h : posixClass? cs = some (i, rest)) : Stable false posixClass? Anything cs i rest := by
  obtain ⟨text, rfl, -, hread⟩ := posixClass?_eq h
  refine .of_exact (text ++ [']']) (by simp) fun rest' _ => ?_
  rw [List.append_assoc]
  exact hread rest'

/-- What is no class between colons is none with another rest behind a closing bracket. -/
theorem posixClass?_eq_none {cs cs' : List Char} (hshares : SharesBracket cs cs')
    (h : posixClass? cs = none) : posixClass? cs' = none := by
  cases hread : posixClass? cs' with
  | none => rfl
  | some x =>
      obtain ⟨i, rest⟩ := x
      obtain ⟨text, rfl, hfree, hread⟩ := posixClass?_eq hread
      obtain ⟨front, tail, tail', rfl, heq⟩ := hshares
      -- the first closing bracket is the one both texts share, or stands before it
      have hprefix : ∃ more, front ++ ']' :: tail = text ++ ']' :: more := by
        rcases List.append_eq_append_iff.mp heq with ⟨w, rfl, hw⟩ | ⟨w, rfl, hw⟩
        · cases w with
          | nil => exact ⟨tail, by simp⟩
          | cons d w =>
              obtain ⟨rfl, -⟩ := List.cons.inj hw
              exact ⟨w ++ ']' :: tail, by simp⟩
        · cases w with
          | nil => exact ⟨tail, by simp⟩
          | cons d w =>
              obtain ⟨rfl, -⟩ := List.cons.inj hw
              simp at hfree
      obtain ⟨more, hmore⟩ := hprefix
      rw [hmore, hread] at h
      cases h

/-! ## §3. Members. -/

variable {v : Bool}

/-- A member is read alike before a rest that does not continue it. -/
theorem classPrimitive?_stable {p : Primitive} {cs rest : List Char}
    (h : classPrimitive? v cs = some (p, rest)) :
    Stable v (classPrimitive? v) (p.Ends v rest) cs p rest := by
  unfold classPrimitive? at h
  split at h
  case h_1 => cases h
  case h_2 => exact (escape?_stable h).cons fun _ => rfl
  case h_3 c cs hbackslash =>
    obtain ⟨rfl, rfl⟩ := Prod.mk.inj (Option.some.inj h)
    exact .one fun _ => classPrimitive?.eq_3 v c _ hbackslash

/-- A piece takes a character at least. -/
theorem classPrimitive?_reads {p : Primitive} {cs rest : List Char}
    (h : classPrimitive? v cs = some (p, rest)) : rest.length < cs.length := by
  cases cs with
  | nil => cases h
  | cons c cs =>
      have hnothing : p.Ends v rest [] := ⟨fun _ => rfl, fun _ _ => rfl⟩
      obtain ⟨text, rfl, -⟩ := (classPrimitive?_stable h).uncons hnothing rfl
      rw [List.length_cons, List.length_append]
      omega

/-- A member of a class is no assertion, so it only looks past its end for a comment without one. -/
theorem Primitive.ends_of_toClassItem {p : Primitive} {i : ClassItem} (h : p.toClassItem? = some i)
    {rest rest' : List Char} (hended : Ended rest rest') : p.Ends v rest rest' := by
  refine ⟨hended, ?_⟩
  rintro rfl
  cases h

theorem Primitive.toClassItem?_of_toLiteral {p : Primitive} {l : Literal} (h : p.toLiteral? = some l) :
    p.toClassItem? = some (.literal l) := by
  cases p <;> cases h
  rfl

/-- Texts that agree up to a closing bracket begin alike. -/
theorem SharesBracket.head?_eq {cs cs' : List Char} (h : SharesBracket cs cs') :
    cs.head? = cs'.head? := by
  obtain ⟨c, after, after', rfl, rfl, -⟩ := h.exists_cons
  rfl

/-- They end alike. -/
theorem SharesBracket.ended {cs cs' : List Char} (h : SharesBracket cs cs') : Ended cs cs' := by
  obtain ⟨c, after, after', rfl, rfl, -⟩ := h.exists_cons
  exact fun hnil => absurd hnil (List.cons_ne_nil _ _)

/-- A closing bracket is not skipped, so no more than the text before it is looked at. -/
theorem SharesBracket.peekPast_eq {cs cs' : List Char} (h : SharesBracket cs cs') (v : Bool) (c : Char) :
    peekPast v (c :: cs) = peekPast v (c :: cs') := by
  cases v with
  | false => exact h.head?_eq
  | true =>
      obtain ⟨front, tail, tail', rfl, rfl⟩ := h
      have hgo : ∀ marked, peekPast.go marked (front ++ ']' :: tail) =
          peekPast.go marked (front ++ ']' :: tail') := by
        induction front with
        | nil => exact fun marked => by cases marked <;> rfl
        | cons d front ih =>
            intro marked
            simp only [List.cons_append, peekPast.go]
            rw [ih marked, ih true]
      exact hgo false

/-- What follows a member and makes no range of it. -/
def NoRange (v : Bool) (cs : List Char) : Prop :=
  cs.head? ≠ some '-' ∨ peekPast v cs = some ']' ∨ peekPast v cs = some '-'

/-- They begin a range alike. -/
theorem SharesBracket.noRange {cs cs' : List Char} (h : SharesBracket cs cs') (hcs : NoRange v cs) :
    NoRange v cs' := by
  have hhead := h.head?_eq
  obtain ⟨c, after, after', rfl, rfl, hafter⟩ := h.exists_cons
  by_cases hc : c = ']'
  · refine .inl ?_
    rw [hc, List.head?_cons]
    decide
  · unfold NoRange
    rw [← hhead, ← (hafter hc).peekPast_eq v c]
    exact hcs

/-- The member that is read before anything but a hyphen that makes a range. -/
theorem classRange?_member {p : Primitive} {i : ClassItem} {cs after : List Char} {c : Char}
    {tail : List Char} (hp : classPrimitive? v cs = some (p, after)) (hafter : skip v after = c :: tail)
    (hi : p.toClassItem? = some i) (h : NoRange v (c :: tail)) :
    classRange? v cs = some (i, c :: tail) := by
  have hhyphen : c ≠ '-' ∨ peekPast v (c :: tail) = some ']' ∨ peekPast v (c :: tail) = some '-' :=
    h.imp (fun hhead hc => hhead (congrArg some hc)) id
  unfold classRange?
  rw [hp]
  dsimp only [Option.bind_eq_bind, Option.bind_some]
  rw [hafter]
  dsimp only
  rw [if_pos hhyphen, hi]
  rfl

/-- The range that is read before a hyphen and its upper end. -/
theorem classRange?_range {p q : Primitive} {low high : Literal} {cs after tail rest : List Char}
    (hp : classPrimitive? v cs = some (p, after)) (hafter : skip v after = '-' :: tail)
    (hlow : p.toLiteral? = some low) (h : ¬NoRange v ('-' :: tail))
    (hq : classPrimitive? v (skip v tail) = some (q, rest)) (hhigh : q.toLiteral? = some high)
    (hle : low.char ≤ high.char) : classRange? v cs = some (.range low high, rest) := by
  unfold classRange?
  rw [hp]
  dsimp only [Option.bind_eq_bind, Option.bind_some]
  rw [hafter]
  dsimp only
  rw [if_neg fun hrange => h (hrange.imp (fun hne => absurd rfl hne) id), hq]
  show (p.toLiteral?.bind fun low => q.toLiteral?.bind fun high => _) = _
  rw [hlow, hhigh]
  exact if_pos hle

/-- The two ways to read a member. -/
theorem classRange?_cases {i : ClassItem} {cs rest : List Char}
    (h : classRange? v cs = some (i, rest)) :
    (∃ p after c tail, classPrimitive? v cs = some (p, after) ∧ skip v after = c :: tail ∧
        p.toClassItem? = some i ∧ NoRange v (c :: tail) ∧ rest = c :: tail) ∨
      ∃ p q low high after tail, classPrimitive? v cs = some (p, after) ∧ skip v after = '-' :: tail ∧
        p.toLiteral? = some low ∧ ¬NoRange v ('-' :: tail) ∧
        classPrimitive? v (skip v tail) = some (q, rest) ∧ q.toLiteral? = some high ∧
        low.char ≤ high.char ∧ i = .range low high := by
  unfold classRange? at h
  simp only [Option.bind_eq_bind, Option.bind_eq_some_iff] at h
  obtain ⟨⟨p, after⟩, hp, h⟩ := h
  dsimp only at h
  split at h
  case h_1 => cases h
  case h_2 c tail hafter =>
    split at h
    -- what follows is no hyphen, or a hyphen that begins no range
    case isTrue hmember =>
      simp only [Option.pure_def, Option.bind_eq_some_iff, Option.some.injEq, Prod.mk.injEq] at h
      obtain ⟨item, hitem, rfl, rfl⟩ := h
      have hmember' : NoRange v (c :: tail) :=
        hmember.imp (fun hc hhead => hc (Option.some.inj hhead)) id
      exact .inl ⟨p, after, c, tail, hp, hafter, hitem, hmember', rfl⟩
    -- a hyphen and a second end, which is not below the first
    case isFalse hrange =>
      obtain ⟨hhyphen, hrange⟩ := not_or.mp hrange
      obtain rfl : c = '-' := not_not.mp hhyphen
      simp only [Option.pure_def, Option.bind_eq_some_iff] at h
      obtain ⟨⟨q, rest'⟩, hq, low, hlow, high, hhigh, h⟩ := h
      split at h
      case isFalse => cases h
      case isTrue hle =>
        obtain ⟨rfl, rfl⟩ := Prod.mk.inj (Option.some.inj h)
        have hrange' : ¬NoRange v ('-' :: tail) := fun hno =>
          hno.elim (fun hne => hne rfl) hrange
        exact .inr ⟨p, q, low, high, after, tail, hp, hafter, hlow, hrange', hq, hhigh, hle, rfl⟩

/-- **A range is read alike before rests that agree up to a closing bracket.** -/
theorem classRange?_stable {i : ClassItem} {cs rest : List Char}
    (h : classRange? v cs = some (i, rest)) :
    Stable v (classRange? v) (SharesBracket rest) cs i rest := by
  rcases classRange?_cases h with ⟨p, after, c, tail, hp, hafter, hi, hmember, rfl⟩ |
    ⟨p, q, low, high, after, tail, hp, hafter, hlow, hrange, hq, hhigh, hle, rfl⟩
  all_goals
    obtain ⟨text, rfl, hread⟩ := classPrimitive?_stable hp
    obtain ⟨⟨pre, rfl, hpre⟩, -⟩ := skip_eq_cons hafter
  · -- a member on its own: what follows is skipped up to, and looked at, but not read
    refine .of_exact (text ++ pre) (List.append_assoc _ _ _).symm fun rest' hshares => ?_
    have hmember' := hshares.noRange hmember
    obtain ⟨d, _, tail', heq, rfl, -⟩ := hshares.exists_cons
    obtain ⟨rfl, -⟩ := List.cons.inj heq
    obtain ⟨after, hp', hskip⟩ := hread (pre ++ c :: tail')
      (p.ends_of_toClassItem hi (.of_append_cons _ _ _ _))
    rw [List.append_assoc]
    exact classRange?_member hp' (hskip.trans (hpre tail')) hi hmember'
  · -- a range: the rest only comes behind its upper end
    have hq' : Stable v (classPrimitive? v) (Ended rest) (skip v tail) q rest :=
      (classPrimitive?_stable hq).weaken fun _ =>
        q.ends_of_toClassItem (Primitive.toClassItem?_of_toLiteral hhigh)
    obtain ⟨text', rfl, hread'⟩ := hq'.after_skip (fun _ => Ended.skip) fun _ => id
    refine ⟨text ++ (pre ++ '-' :: text'), by simp, fun rest' hshares => ?_⟩
    obtain ⟨rest'', hq'', hskip⟩ := hread' rest' hshares.ended
    have hends := p.ends_of_toClassItem (v := v) (Primitive.toClassItem?_of_toLiteral hlow)
      (.of_append_cons pre '-' (text' ++ rest) (pre ++ '-' :: (text' ++ rest')))
    obtain ⟨after, hp', hskip'⟩ := hread _ hends
    have hrange' : ¬NoRange v ('-' :: (text' ++ rest')) := fun hno =>
      hrange ((hshares.symm.append ('-' :: text')).noRange hno)
    have htext : text ++ (pre ++ '-' :: text') ++ rest' = text ++ (pre ++ '-' :: (text' ++ rest')) := by
      simp
    refine ⟨rest'', ?_, hskip⟩
    rw [htext]
    exact classRange?_range hp' (hskip'.trans (hpre _)) hlow hrange' hq'' hhigh hle

/-- A member takes a character at least. -/
theorem classRange?_reads {i : ClassItem} {cs rest : List Char}
    (h : classRange? v cs = some (i, rest)) : rest.length < cs.length := by
  rcases classRange?_cases h with ⟨p, after, c, tail, hp, hafter, -, -, rfl⟩ |
    ⟨p, q, low, high, after, tail, hp, hafter, -, -, hq, -, -, -⟩
  all_goals
    have hread := classPrimitive?_reads hp
    have hskip := length_skip_le v after
    rw [hafter] at hskip
  · omega
  · have hread' := classPrimitive?_reads hq
    have hskip' := length_skip_le v tail
    rw [List.length_cons] at hskip
    omega

/-- An operator is read alike before anything. -/
theorem setOp?_stable {op : SetOp} {cs rest : List Char} (h : setOp? cs = some (op, rest)) :
    Stable false setOp? Anything cs op rest := by
  unfold setOp? at h
  split at h
  case h_4 => cases h
  all_goals
    obtain ⟨rfl, rfl⟩ := Prod.mk.inj (Option.some.inj h)
    exact .of_exact [_, _] rfl fun _ _ => rfl

/-- What is no operator is none with another rest behind a closing bracket. -/
theorem setOp?_eq_none {cs cs' : List Char} (hshares : SharesBracket cs cs')
    (h : setOp? cs = none) : setOp? cs' = none := by
  cases hread : setOp? cs' with
  | none => rfl
  | some x =>
      obtain ⟨op, rest⟩ := x
      -- neither of the two characters of an operator is a bracket
      have hsame : ∃ rest', setOp? cs = some (op, rest') := by
        unfold setOp? at hread
        split at hread
        case h_4 => cases hread
        all_goals
          obtain ⟨rfl, rfl⟩ := Prod.mk.inj (Option.some.inj hread)
          obtain ⟨c, after, after', rfl, heq, hafter⟩ := hshares.exists_cons
          obtain ⟨rfl, rfl⟩ := List.cons.inj heq
          obtain ⟨d, tail, tail', rfl, heq, -⟩ := (hafter (by decide)).exists_cons
          obtain ⟨rfl, rfl⟩ := List.cons.inj heq
          exact ⟨tail, rfl⟩
      obtain ⟨rest', hsame⟩ := hsame
      rw [hsame] at h
      cases h

end PullTriage.Regex
