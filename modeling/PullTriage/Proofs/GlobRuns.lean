import PullTriage.Proofs.GlobDialect

/-!
  PullTriage.Proofs.GlobRuns: how a glob without plain braces is read.

  The reader goes through the pieces of a glob one by one, except that it looks at a plain star together
  with what follows it.  A glob whose pieces hold no plain brace never opens a group, so it is read to
  the end exactly when it is valid.

  Layers:
    * §1: what the reader does to one piece, one equation per kind of piece;
    * §2: runs of the reader over pieces (`Reads`), and that it runs over valid globs only.

  Main statement: `outcome_readTokens`.
-/

namespace PullTriage.Glob

/-! ## §1. One piece. -/

/-- The token of a piece on its own. -/
def Piece.token : Piece → Except Problem Token
  | plain c => .ok (if c = '?' then .any else if c = '*' then .anyRun else .literal c)
  | escaped c => .ok (.literal c)
  | bracket mark members => (classOf mark members).map ClassState.close

/-- The last character of a piece. -/
def Piece.last : Piece → Char
  | plain c => c
  | escaped c => c
  | bracket _ _ => ']'

theorem Piece.token_bracket (mark : Option Char) (members : List Char) :
    (bracket mark members).token = (classOf mark members).map ClassState.close := rfl

/-- The token of a class is what its members make it. -/
theorem Piece.exists_of_token_bracket {mark : Option Char} {members : List Char} {t : Token}
    (h : (bracket mark members).token = .ok t) :
    ∃ k, classOf mark members = .ok k ∧ t = k.close := by
  rw [token_bracket] at h
  cases hclass : classOf mark members with
  | error e => rw [hclass] at h; cases h
  | ok k =>
      rw [hclass] at h
      exact ⟨k, rfl, (Except.ok.inj h).symm⟩

/-- A piece is valid if it has a token. -/
theorem Piece.isValid_eq (p : Piece) : p.isValid = p.token.isOk := by
  cases p with
  | plain c => rfl
  | escaped c => rfl
  | bracket mark members =>
      rw [token_bracket]
      show (classOf mark members).isOk = _
      cases classOf mark members <;> rfl

/-- It stands for what its token stands for. -/
theorem Piece.words_eq {p : Piece} {t : Token} (h : p.token = .ok t) : p.words = rowWords [t] := by
  cases p with
  | plain c =>
      obtain rfl := Except.ok.inj h
      show (if c = '?' then oneByte else if c = '*' then ⊤ else {charBytes c}) = _
      by_cases hany : c = '?'
      · rw [if_pos hany, if_pos hany, rowWords_any]
      by_cases hstar : c = '*'
      · rw [if_neg hany, if_neg hany, if_pos hstar, if_pos hstar, rowWords_anyRun]
      · rw [if_neg hany, if_neg hany, if_neg hstar, if_neg hstar, rowWords_literal]
  | escaped c =>
      obtain rfl := Except.ok.inj h
      exact (rowWords_literal c).symm
  | bracket mark members =>
      obtain ⟨k, hclass, rfl⟩ := exists_of_token_bracket h
      rw [Piece.words, hclass]

/-! Classes. -/

/-- A class with a member is not empty any more. -/
theorem ClassState.first_member {k k' : ClassState} {c : Char} (h : k.member c = .ok k') :
    k'.first = false := by
  -- adding a member clears the mark, whether it ends a range or not
  have hadd : ∀ d, k.add d = .ok k' → k'.first = false := by
    intro d hd
    unfold add at hd
    split at hd
    case h_1 =>
      split at hd
      case isTrue => cases hd
      case isFalse =>
        rw [← Except.ok.inj hd]
    case h_2 =>
      rw [← Except.ok.inj hd]
  unfold member at h
  split at h
  case isTrue =>
    unfold hyphen at h
    split at h
    case isTrue => exact hadd '-' h
    case isFalse hfirst =>
      rw [← Except.ok.inj h]
      simpa using fun h => hfirst (.inl h)
  case isFalse => exact hadd c h

/-- The reader takes a member, unless that is a bracket that closes the class. -/
theorem readClass_member {s : State} {k : ClassState} {c : Char} (h : c = ']' → k.first = true)
    (rest : List Char) :
    readClass s k (c :: rest) = (k.member c).bind fun k' => readClass s k' rest := by
  unfold ClassState.member
  by_cases hclose : c = ']'
  · subst hclose
    rw [readClass.eq_2, if_pos (h rfl), if_neg (by decide)]
    cases k.add ']' <;> rfl
  by_cases hhyphen : c = '-'
  · subst hhyphen
    rw [readClass.eq_3, if_pos rfl]
    cases k.hyphen <;> rfl
  · rw [readClass.eq_4 _ _ _ _ hclose hhyphen, if_neg hhyphen]
    cases k.add c <;> rfl

/-- Members are read one after the other. -/
theorem readClass_members {s : State} {members : List Char} (h : ']' ∉ members) {k : ClassState}
    (rest : List Char) : readClass s k (members ++ rest) =
      (members.foldlM ClassState.member k).bind fun k' => readClass s k' rest := by
  induction members generalizing k with
  | nil => rfl
  | cons c members ih =>
      obtain ⟨hc, hmembers⟩ := List.ne_and_not_mem_of_not_mem_cons h
      rw [List.cons_append, readClass_member (fun heq => absurd heq hc.symm), List.foldlM_cons]
      cases hmember : k.member c with
      | error e => rfl
      | ok k' => exact ih hmembers

/-- Members keep a class that is not empty from being empty. -/
theorem first_foldlM {members : List Char} {k k' : ClassState} (hk : k.first = false)
    (h : members.foldlM ClassState.member k = .ok k') : k'.first = false := by
  induction members generalizing k with
  | nil =>
      obtain rfl := Except.ok.inj h
      exact hk
  | cons c members ih =>
      rw [List.foldlM_cons] at h
      cases hmember : k.member c with
      | error e => rw [hmember] at h; cases h
      | ok k₁ =>
          rw [hmember] at h
          exact ih (ClassState.first_member hmember) h

/-- A class is read to its token, or its first fault is reported. -/
theorem readClass_bracket {s : State} {mark : Option Char} {members : List Char}
    (h : (Piece.bracket mark members).WellFormed) (rest : List Char) :
    readClass s ⟨mark.isSome, [], true, false⟩ (members ++ ']' :: rest) =
      (Piece.bracket mark members).token.bind fun t => readTokens (s.push t ']') rest := by
  obtain ⟨hclosed, hne⟩ := h
  cases members with
  | nil => exact absurd rfl hne
  | cons c members =>
      -- only the first member may be a closing bracket
      have hfree : ']' ∉ members := hclosed.close
      rw [List.cons_append, readClass_member (fun _ => rfl)]
      rw [Piece.token_bracket]
      unfold Piece.classOf
      rw [List.foldlM_cons]
      cases hmember : ClassState.member ⟨mark.isSome, [], true, false⟩ c with
      | error e => rfl
      | ok k =>
          show readClass s k (members ++ ']' :: rest) =
            ((members.foldlM ClassState.member k).map ClassState.close).bind _
          rw [readClass_members hfree]
          cases hfold : members.foldlM ClassState.member k with
          | error e => rfl
          | ok k' =>
              have hfirst : k'.first = false := first_foldlM (ClassState.first_member hmember) hfold
              show readClass s k' (']' :: rest) = _
              rw [readClass.eq_2, if_neg (by simp [hfirst])]
              rfl

/-- Characters that do not close a class are not read to an end. -/
theorem readClass_open {s : State} {k : ClassState} {body : List Char} (h : ']' ∉ body) :
    ∃ e, readClass s k body = .error e := by
  have hread := readClass_members h (s := s) (k := k) []
  rw [List.append_nil] at hread
  rw [hread]
  cases body.foldlM ClassState.member k with
  | error e => exact ⟨e, rfl⟩
  | ok k' => exact ⟨_, readClass.eq_1 s k'⟩

/-! One piece that is no plain star. -/

/-- Reading the opening of a class. -/
theorem readTokens_open {s : State} {mark : Option Char} (hmark : mark ∈ [none, some '!', some '^'])
    {text : List Char} (h : mark = none → text.head? ≠ some '!' ∧ text.head? ≠ some '^') :
    readTokens s ('[' :: (mark.toList ++ text)) =
      readClass s ⟨mark.isSome, [], true, false⟩ text := by
  rcases mark_cases hmark with rfl | rfl | rfl
  · obtain ⟨hbang, hcaret⟩ := h rfl
    apply readTokens.eq_9
    · rintro rest rfl
      exact hbang rfl
    · rintro rest rfl
      exact hcaret rfl
  · exact readTokens.eq_7 s text
  · exact readTokens.eq_8 s text

/-- The reader takes a piece off. It looks at a plain star together with a star behind it, and at braces
and commas together with the groups that are open. -/
theorem readTokens_piece {s : State} (houter : s.outer = []) {p : Piece} (h : p.WellFormed)
    (hbrace : ∀ c, p = .plain c → isBrace c = false) {rest : List Char}
    (hstar : p = .plain '*' → rest.head? ≠ some '*') :
    readTokens s (p.text ++ rest) = p.token.bind fun t => readTokens (s.push t p.last) rest := by
  cases p with
  | plain c =>
      obtain ⟨hbackslash, hbracket⟩ := h
      show readTokens s (c :: rest) = readTokens (s.push (if c = '?' then .any else
        if c = '*' then .anyRun else .literal c) c) rest
      by_cases hany : c = '?'
      · subst hany
        exact readTokens.eq_2 s rest
      by_cases hrun : c = '*'
      · subst hrun
        apply readTokens.eq_6
        rintro rest' rfl
        exact hstar rfl rfl
      rw [if_neg hany, if_neg hrun]
      by_cases hcomma : c = ','
      · subst hcomma
        rw [readTokens.eq_12]
        unfold State.comma
        rw [houter]
        rfl
      · -- any other character is read as itself
        have hplain : c ≠ '\x7b' ∧ c ≠ '\x7d' := by simpa [isBrace] using hbrace c rfl
        apply readTokens.eq_15
        · exact hany
        · exact fun _ hc _ => hrun hc
        · exact hrun
        · exact fun _ hc _ => hbracket hc
        · exact fun _ hc _ => hbracket hc
        · exact hbracket
        · exact hplain.1
        · exact hplain.2
        · exact hcomma
        · exact fun _ _ hc _ => hbackslash hc
        · exact fun hc _ => hbackslash hc
  | escaped c => exact readTokens.eq_13 s c rest
  | bracket mark members =>
      rw [Piece.text_bracket_append, readTokens_open h.1.mark_mem (h.1.unmarked_append h.2 _),
        readClass_bracket h]
      rfl

/-- What breaks off is not read to an end. -/
theorem readTokens_unfinished {s : State} {rest : List Char} (h : Unfinished rest) (hne : rest ≠ []) :
    ∃ e, readTokens s rest = .error e := by
  cases h with
  | nothing => exact absurd rfl hne
  | backslash => exact ⟨_, readTokens.eq_14 s⟩
  | @bracket mark body h =>
      rw [readTokens_open h.mark_mem h.unmarked]
      cases body with
      | nil => exact ⟨_, readClass.eq_1 _ _⟩
      | cons c body =>
          rw [readClass_member (fun _ => rfl)]
          cases ClassState.member ⟨mark.isSome, [], true, false⟩ c with
          | error e => exact ⟨e, rfl⟩
          | ok k => exact readClass_open h.close

/-! ## §2. Runs of the reader. -/

namespace State

/-- Whether a component of the path may begin here. -/
def fresh (s : State) : Bool := s.isBranchStart || s.previous == some '/'

/-- Read `**` and a slash where a component begins. -/
def enterDirectories (s : State) : State :=
  if s.isBranchStart then s.push .directoriesFirst '/' else s.replaceLast .directoriesBetween '/'

/-- Read `**` at the end of a glob where a component begins. -/
def endDirectories (s : State) : State :=
  if s.isBranchStart then s.push .directoriesFirst '*' else s.replaceLast .directoriesLast '*'

/-- Outside groups only a slash makes `**` a component. -/
theorem isComponentStart_of_outer {s : State} (h : s.outer = []) :
    s.isComponentStart = (s.previous == some '/') := by
  unfold isComponentStart
  rw [h]
  exact Bool.or_false _

theorem isComponentStart_of_slash {s : State} (h : s.previous = some '/') :
    s.isComponentStart = true := by
  unfold isComponentStart
  rw [h]
  rfl

/-- Replacing the last piece leaves the groups around it as they are. -/
theorem outer_replaceLast (s : State) (t : Token) (c : Char) :
    (s.replaceLast t c).outer = s.outer := by
  unfold replaceLast
  split <;> rfl

theorem outer_enterDirectories (s : State) : s.enterDirectories.outer = s.outer := by
  unfold enterDirectories
  split
  case isTrue => rfl
  case isFalse => exact s.outer_replaceLast _ _

theorem outer_endDirectories (s : State) : s.endDirectories.outer = s.outer := by
  unfold endDirectories
  split
  case isTrue => rfl
  case isFalse => exact s.outer_replaceLast _ _

end State

/-- Two stars that are no component of a path are read as two runs. -/
theorem readTokens_runs {s : State} (houter : s.outer = []) {rest : List Char}
    (h : s.fresh = true → rest ≠ [] ∧ rest.head? ≠ some '/') :
    readTokens s ('*' :: '*' :: rest) = readTokens s.pushTwoRuns rest := by
  unfold State.fresh at h
  cases rest with
  | nil =>
      rw [readTokens.eq_3]
      by_cases hstart : s.isBranchStart = true
      · simp [hstart] at h
      · have hprevious : s.previous ≠ some '/' := fun hslash => by simp [hslash] at h
        rw [if_neg hstart, if_pos (by simp [State.isComponentStart_of_outer houter, hprevious])]
  | cons c rest =>
      by_cases hslash : c = '/'
      · subst hslash
        rw [readTokens.eq_4]
        by_cases hstart : s.isBranchStart = true
        · simp [hstart] at h
        · have hprevious : s.previous ≠ some '/' := fun hslash => by simp [hslash] at h
          rw [if_neg hstart, if_pos (by simp [State.isComponentStart_of_outer houter, hprevious])]
      · rw [readTokens.eq_5 _ _ _ hslash, houter]
        simp

/-- Two stars and a slash after a slash, or at the beginning, are read as directories. -/
theorem readTokens_directories {s : State} (h : s.fresh = true) (rest : List Char) :
    readTokens s ('*' :: '*' :: '/' :: rest) = readTokens s.enterDirectories rest := by
  unfold State.fresh at h
  unfold State.enterDirectories
  rw [readTokens.eq_4]
  by_cases hstart : s.isBranchStart = true
  · rw [if_pos hstart, if_pos hstart]
  · have hprevious : s.previous = some '/' := by simpa [hstart] using h
    rw [if_neg hstart, if_neg hstart, if_neg (by simp [State.isComponentStart_of_slash hprevious])]

/-- So are two stars at the end. -/
theorem readTokens_end {s : State} (h : s.fresh = true) :
    readTokens s ['*', '*'] = .ok s.endDirectories := by
  unfold State.fresh at h
  unfold State.endDirectories
  rw [readTokens.eq_3]
  by_cases hstart : s.isBranchStart = true
  · rw [if_pos hstart, if_pos hstart, readTokens.eq_1]
  · have hprevious : s.previous = some '/' := by simpa [hstart] using h
    rw [if_neg hstart, if_neg hstart, if_neg (by simp [State.isComponentStart_of_slash hprevious]),
      readTokens.eq_1]

/-- `Reads s ps s'`: reading the pieces `ps` leads from `s` to `s'`. -/
inductive Reads : State → List Piece → State → Prop
  | done {s} : Reads s [] s
  | piece {s p ps t s'} (token : p.token = .ok t)
      (single : p = .plain '*' → ps.head? ≠ some (.plain '*'))
      (rest : Reads (s.push t p.last) ps s') : Reads s (p :: ps) s'
  | runs {s ps s'} (inside : s.fresh = true → ps ≠ [] ∧ ps.head? ≠ some (.plain '/'))
      (rest : Reads s.pushTwoRuns ps s') : Reads s (.plain '*' :: .plain '*' :: ps) s'
  | enter {s ps s'} (fresh : s.fresh = true) (rest : Reads s.enterDirectories ps s') :
      Reads s (.plain '*' :: .plain '*' :: .plain '/' :: ps) s'
  | finish {s} (fresh : s.fresh = true) :
      Reads s [.plain '*', .plain '*'] s.endDirectories

/-- What reading gives: a run over all pieces if they are valid and nothing is left, else a problem. -/
def Outcome (s : State) (c : Cut) (r : Except Problem State) : Prop :=
  (c.isValid = true ∧ ∃ s', r = .ok s' ∧ s'.outer = [] ∧ Reads s c.pieces s') ∨
    (c.isValid = false ∧ ∃ e, r = .error e)

/-- An outcome further on is one from here, if what lies between is read. -/
theorem Outcome.lift {s s₂ : State} {c c₂ : Cut} {r : Except Problem State}
    (hvalid : c.isValid = c₂.isValid)
    (hreads : c₂.isValid = true → ∀ s', Reads s₂ c₂.pieces s' → Reads s c.pieces s')
    (h : Outcome s₂ c₂ r) : Outcome s c r := by
  rcases h with ⟨hok, s', hr, houter, hread⟩ | ⟨hbad, he⟩
  · exact .inl ⟨hvalid.trans hok, s', hr, houter, hreads hok s' hread⟩
  · exact .inr ⟨hvalid.trans hbad, he⟩

/-- A glob is valid if its first piece and the others are. -/
theorem isValid_cons (p : Piece) (c : Cut) : (c.cons p).isValid = (p.isValid && c.isValid) := by
  unfold Cut.isValid Cut.cons
  rw [List.all_cons]
  cases p.isValid <;> cases c.rest.isEmpty <;> rfl

/-- A character that opens no other piece begins the text of a plain piece only. -/
theorem head_of_text {ps : List Piece} {rest : List Char} {c : Char} (hrest : Unfinished rest)
    (hc : c ≠ '\\' ∧ c ≠ '[') (h : (Cut.text ⟨ps, rest⟩).head? = some c) :
    ps.head? = some (.plain c) := by
  cases ps with
  | nil =>
      cases hrest with
      | nothing => cases h
      | backslash => exact absurd (Option.some.inj h).symm hc.1
      | bracket _ => exact absurd (Option.some.inj h).symm hc.2
  | cons p ps =>
      cases p with
      | plain d =>
          obtain rfl : d = c := Option.some.inj h
          rfl
      | escaped d => exact absurd (Option.some.inj h).symm hc.1
      | bracket mark members => exact absurd (Option.some.inj h).symm hc.2

/-- Without pieces only the unfinished rest decides. -/
theorem outcome_nil {rest : List Char} (hrest : Unfinished rest) {s : State} (houter : s.outer = []) :
    Outcome s ⟨[], rest⟩ (readTokens s rest) := by
  by_cases hempty : rest = []
  · subst hempty
    exact .inl ⟨rfl, s, readTokens.eq_1 s, houter, .done⟩
  · exact .inr ⟨by simp [Cut.isValid, hempty], readTokens_unfinished hrest hempty⟩

/-- **Reading over pieces.** A glob without plain braces is read over all its pieces if it is valid, and
not at all if it is not. -/
theorem outcome_readTokens {ps : List Piece} {rest : List Char} (hrest : Unfinished rest)
    (hpieces : ∀ p ∈ ps, p.WellFormed ∧ ∀ c, p = .plain c → isBrace c = false)
    {s : State} (houter : s.outer = []) :
    Outcome s ⟨ps, rest⟩ (readTokens s (Cut.text ⟨ps, rest⟩)) := by
  induction hlength : ps.length using Nat.strongRecOn generalizing ps s with
  | ind n ih =>
  cases ps with
  | nil => exact outcome_nil hrest houter
  | cons p ps =>
  obtain ⟨⟨hp, hbrace⟩, hps⟩ := List.forall_mem_cons.mp hpieces
  by_cases hdouble : p = .plain '*' ∧ ps.head? = some (.plain '*')
  · -- two stars are read together with what follows them
    obtain ⟨rfl, hhead⟩ := hdouble
    obtain ⟨ps, rfl⟩ := List.head?_eq_some_iff.mp hhead
    have hps' := (List.forall_mem_cons.mp hps).2
    have hlength' : ps.length + 2 = n := by simpa using hlength
    show Outcome s _ (readTokens s ('*' :: '*' :: Cut.text ⟨ps, rest⟩))
    by_cases hinside : s.fresh = true →
        Cut.text ⟨ps, rest⟩ ≠ [] ∧ (Cut.text ⟨ps, rest⟩).head? ≠ some '/'
    · rw [readTokens_runs houter hinside]
      refine Outcome.lift ?_ ?_ (ih ps.length (by omega) hps' (s := s.pushTwoRuns) houter rfl)
      · rfl
      intro hvalid s' hread
      refine .runs (fun hfresh => ⟨?_, ?_⟩) hread
      · rintro rfl
        have hempty : rest = [] := by simpa [Cut.isValid] using hvalid
        exact (hinside hfresh).1 hempty
      · intro hslash
        obtain ⟨ps', rfl⟩ := List.head?_eq_some_iff.mp hslash
        exact (hinside hfresh).2 rfl
    · rw [Classical.not_imp, not_and_or, not_not, not_not] at hinside
      obtain ⟨hfresh, hempty | hslash⟩ := hinside
      · -- the glob ends behind the stars
        cases ps with
        | cons q ps => cases q <;> cases hempty
        | nil =>
            obtain rfl : rest = [] := hempty
            exact .inl ⟨rfl, s.endDirectories, readTokens_end hfresh,
              s.outer_endDirectories.trans houter, .finish hfresh⟩
      · obtain ⟨ps, rfl⟩ := List.head?_eq_some_iff.mp (head_of_text hrest (by decide) hslash)
        show Outcome s _ (readTokens s ('*' :: '*' :: '/' :: Cut.text ⟨ps, rest⟩))
        rw [readTokens_directories hfresh]
        have houter' : s.enterDirectories.outer = [] := s.outer_enterDirectories.trans houter
        refine Outcome.lift ?_ ?_ (ih ps.length (by simp at hlength'; omega)
          (List.forall_mem_cons.mp hps').2 houter' rfl)
        · rfl
        · exact fun _ s' hread => .enter hfresh hread
  · have hstar : p = .plain '*' → (Cut.text ⟨ps, rest⟩).head? ≠ some '*' := by
      intro heq hhead
      exact hdouble ⟨heq, head_of_text hrest (by decide) hhead⟩
    show Outcome s _ (readTokens s (Cut.cons p ⟨ps, rest⟩).text)
    rw [Cut.text_cons, readTokens_piece houter hp hbrace hstar]
    cases htoken : p.token with
    | error e =>
        refine .inr ⟨?_, e, rfl⟩
        show (Cut.cons p ⟨ps, rest⟩).isValid = false
        rw [isValid_cons, p.isValid_eq, htoken]
        rfl
    | ok t =>
        refine Outcome.lift ?_ ?_
          (ih ps.length (by simp at hlength; omega) hps (s := s.push t p.last) houter rfl)
        · show (Cut.cons p ⟨ps, rest⟩).isValid = _
          rw [isValid_cons, p.isValid_eq, htoken]
          rfl
        · exact fun _ s' hread => .piece htoken (fun heq hhead => hdouble ⟨heq, hhead⟩) hread

end PullTriage.Glob
