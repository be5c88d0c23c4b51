import PullTriage.Proofs.ScanGroups

/-!
  PullTriage.Proofs.FlagScan: the search for flag groups finds those that the parser reads.

  The scan has been followed through escapes, classes and the beginnings of groups.  Here it goes through
  whole patterns, piece by piece:

      the scan finds an `i` after a minus sign  ↔  the tree has a flag group that turns `i` off

  for every pattern that parses and whose parts are all plain (`Mark.Plain`).  Each function of the
  parser adds some parts to what has been read; `ParserState.Reads` says which, and that the scan agrees
  on them.

  Layers:
    * §1: the state of the parser;
    * §2: groups;
    * §3: whole patterns.
-/

namespace PullTriage.Regex

open TextPattern (Scan)
open TextPattern.Scan (Passes rejects_plain_cons rejects_ordinary rejects_cons rejects_cons_none)

/-! ## §1. The state of the parser. -/

/-- The parts of a level that is being read. -/
def Level.marks (l : Level) : List Mark := marksOfList l.branches ++ marksOfList l.parts

/-- The parts of a group that is still open, those before it and its own name or flags. -/
def OpenGroup.marks (g : OpenGroup) : List Mark := g.kind.marks ++ g.outer.marks

namespace ParserState

/-- Everything that has been read. -/
def marks (s : ParserState) : List Mark := s.level.marks ++ s.groups.flatMap OpenGroup.marks

/-- Neither here nor after one of the open groups is the pattern verbose. -/
def Nonverbose (s : ParserState) : Prop := s.verbose = false ∧ ∀ g ∈ s.groups, g.verbose = false

/-- From `s` to `s'` the parts `new` are read.  The pattern becomes verbose by one of them only, and if
they are plain, then the scan stands between two pieces in both states and finds between them what turns
`i` off. -/
structure Reads (new : List Mark) (s s' : ParserState) : Prop where
  marks : ∀ x, x ∈ s'.marks ↔ x ∈ new ∨ x ∈ s.marks
  nonverbose : s.Nonverbose → (∀ x ∈ new, x.KeepsLayout) → s'.Nonverbose
  scan : s.Nonverbose → (∀ x ∈ new, x.Plain) →
    (Scan.plain 0).rejects s.rest = (new.any Mark.restoresCase || (Scan.plain 0).rejects s'.rest)

/-- Reading may be continued. -/
theorem Reads.trans {new new' : List Mark} {s s' s'' : ParserState} (h : s.Reads new s')
    (h' : s'.Reads new' s'') : s.Reads (new ++ new') s'' where
  marks := fun x => by
    rw [h'.marks, h.marks, List.mem_append]
    tauto
  nonverbose := fun hverbose hlayout => by
    rw [List.forall_mem_append] at hlayout
    exact h'.nonverbose (h.nonverbose hverbose hlayout.1) hlayout.2
  scan := fun hverbose hplain => by
    rw [List.forall_mem_append] at hplain
    have hverbose' := h.nonverbose hverbose fun x hx => (hplain.1 x hx).keepsLayout
    rw [h.scan hverbose hplain.1, h'.scan hverbose' hplain.2, List.any_append, Bool.or_assoc]

/-- A part that is added to the branch being read. -/
theorem push_reads {s : ParserState} {a : Ast} {rest : List Char}
    (h : s.verbose = false → (∀ x ∈ a.marks, x.Plain) → (Scan.plain 0).rejects s.rest
      = (a.marks.any Mark.restoresCase || (Scan.plain 0).rejects rest)) :
    s.Reads a.marks (s.push a rest) where
  marks := fun x => by
    simp only [ParserState.marks, push, Level.marks, marksOfList, List.mem_append]
    tauto
  nonverbose := fun hverbose _ => hverbose
  scan := fun hverbose hplain => h hverbose.1 hplain

/-- What is read without adding a part: the scan passes over it. -/
theorem repeatLast?_reads {s s' : ParserState} {least : Nat} {most : Option Nat} {rest : List Char}
    (h : s.repeatLast? least most rest = some s')
    (hrest : s.verbose = false → (Scan.plain 0).rejects s.rest = (Scan.plain 0).rejects rest) :
    s.Reads [] s' := by
  unfold repeatLast? at h
  split at h
  case h_2 => cases h
  case h_1 a parts hparts =>
    split at h
    case isFalse => cases h
    case isTrue =>
      obtain rfl := Option.some.inj h
      constructor
      case marks =>
        intro x
        simp only [ParserState.marks, Level.marks, hparts, marksOfList, Ast.marks, List.mem_append,
          List.not_mem_nil, false_or]
      case nonverbose => exact fun hverbose _ => hverbose
      case scan => exact fun hverbose _ => hrest hverbose.1

/-- The question mark behind an operator is ordinary text. -/
theorem dropLazy_passes (cs : List Char) : Passes cs (dropLazy cs) := by
  unfold dropLazy
  split
  · exact (Passes.refl _).cons (by decide)
  · exact .refl _

/-- An operator adds no parts, and the scan passes over it. -/
theorem operator_reads {s s' : ParserState} {c : Char} {least : Nat} {most : Option Nat}
    {cs : List Char} (h : s.repeatLast? least most (dropLazy cs) = some s') (hrest : s.rest = c :: cs)
    (hc : isOrdinary c = true) : s.Reads [] s' := by
  refine repeatLast?_reads h fun _ => ?_
  rw [hrest]
  exact ((dropLazy_passes cs).cons hc).rejects 0

/-- So does a count. -/
theorem counted?_reads {s s' : ParserState} {cs : List Char} (h : s.counted? cs = some s')
    (hrest : s.rest = '\x7b' :: cs) : s.Reads [] s' := by
  rw [counted?_eq] at h
  obtain ⟨⟨bounds, after⟩, hcount, hrepeat⟩ := Option.bind_eq_some_iff.mp h
  refine repeatLast?_reads hrepeat fun hverbose => ?_
  rw [hverbose] at hcount ⊢
  rw [hrest]
  have hread : Passes cs after := count?_passes (.of_false _) hcount
  exact ((hread.trans (dropLazy_passes after)).cons (by decide)).rejects 0

/-! ## §2. Groups. -/

theorem rejects_parenthesis (cs : List Char) :
    (Scan.plain 0).rejects ('(' :: cs) = Scan.parenthesis.rejects cs := rejects_plain_cons 0 '(' cs

/-- The verbosity after flags that do not turn it on. -/
theorem verbose_of_keepsLayout {items : List FlagItem} {verbose : Bool} (hverbose : verbose = false)
    (h : (Mark.flags items).KeepsLayout) : (FlagItem.state items .verbose).getD verbose = false := by
  have hstate := FlagItem.state_ne_some_true h
  cases hs : FlagItem.state items .verbose with
  | none => exact hverbose
  | some on =>
      cases on with
      | true => exact absurd hs hstate
      | false => rfl

/-- Entering a group: what surrounds it waits for its end. -/
theorem enterGroup_reads {s : ParserState} {rest : List Char} (kind : GroupKind)
    (hscan : s.verbose = false → (∀ x ∈ kind.marks, x.Plain) → (Scan.plain 0).rejects s.rest
      = (kind.marks.any Mark.restoresCase || (Scan.plain 0).rejects rest))
    {verbose : Bool}
    (hinner : s.verbose = false → (∀ x ∈ kind.marks, x.KeepsLayout) → verbose = false)
    (names : List String) :
    s.Reads kind.marks
      ⟨rest, verbose, names, ⟨[], []⟩, ⟨s.level, kind, s.verbose⟩ :: s.groups⟩ := by
  constructor
  case marks =>
    intro x
    simp only [ParserState.marks, Level.marks, OpenGroup.marks, marksOfList,
      List.flatMap_cons, List.mem_append, List.not_mem_nil, false_or]
    tauto
  case nonverbose =>
    intro hverbose hlayout
    exact ⟨hinner hverbose.1 hlayout, List.forall_mem_cons.mpr ⟨hverbose.1, hverbose.2⟩⟩
  case scan => exact fun hverbose hplain => hscan hverbose.1 hplain

/-- **Opening a group adds its name or flags, and the scan finds in them what the parser does.** -/
theorem openGroup?_reads {s s' : ParserState} {cs : List Char} (h : s.openGroup? cs = some s')
    (hrest : s.rest = '(' :: cs) : ∃ new, s.Reads new s' := by
  unfold openGroup? at h
  simp only [Option.bind_eq_bind, Option.bind_eq_some_iff] at h
  obtain ⟨⟨o, rest⟩, hopening, h⟩ := h
  have hscan : s.verbose = false → (∀ x ∈ o.marks, x.Plain) → (Scan.plain 0).rejects s.rest
      = (o.marks.any Mark.restoresCase || (Scan.plain 0).rejects rest) := by
    intro hverbose hplain
    rw [hverbose] at hopening
    rw [hrest, rejects_parenthesis]
    exact opening?_scan hopening hplain
  refine ⟨o.marks, ?_⟩
  cases o with
  | setFlags items =>
      obtain rfl := Option.some.inj h
      constructor
      case marks => exact (push_reads (a := .flags items) hscan).marks
      case nonverbose =>
        intro hverbose hlayout
        exact ⟨verbose_of_keepsLayout hverbose.1 (hlayout _ List.mem_cons_self), hverbose.2⟩
      case scan => exact fun hverbose hplain => hscan hverbose.1 hplain
  | group kind =>
      -- only flags of its own can make the inside of a group verbose
      cases kind with
      | capture =>
          obtain rfl := Option.some.inj h
          exact enterGroup_reads .capture hscan (fun hverbose _ => hverbose) _
      | named name =>
          dsimp only at h
          split at h
          case isTrue => cases h
          case isFalse =>
            obtain rfl := Option.some.inj h
            exact enterGroup_reads (.named name) hscan (fun hverbose _ => hverbose) _
      | flags items =>
          obtain rfl := Option.some.inj h
          refine enterGroup_reads (.flags items) hscan (fun hverbose hlayout => ?_) _
          exact verbose_of_keepsLayout hverbose (hlayout _ List.mem_cons_self)

/-! ## §3. Whole patterns. -/

theorem mem_marksOfList {x : Mark} {as : List Ast} :
    x ∈ marksOfList as ↔ ∃ a ∈ as, x ∈ a.marks := by
  induction as with
  | nil => simp [marksOfList]
  | cons a as ih => simp [marksOfList, ih]

/-- A tree of parts has the flags, names and ranges of the parts. -/
theorem mem_marks_ofParts {x : Mark} (parts : List Ast) :
    x ∈ (Ast.ofParts parts).marks ↔ x ∈ marksOfList parts := by
  match parts with
  | [] => exact Iff.rfl
  | [a] => simp [Ast.ofParts, marksOfList]
  | a :: b :: rest => exact Iff.rfl

/-- A tree of branches has those of the branches. -/
theorem mem_marks_ofBranches {x : Mark} (branches : List Ast) :
    x ∈ (Ast.ofBranches branches).marks ↔ x ∈ marksOfList branches := by
  match branches with
  | [] => exact Iff.rfl
  | [a] => simp [Ast.ofBranches, marksOfList]
  | a :: b :: rest => exact Iff.rfl

/-- Their order does not matter. -/
theorem mem_marks_reverse {x : Mark} (as : List Ast) :
    x ∈ marksOfList as.reverse ↔ x ∈ marksOfList as := by
  rw [mem_marksOfList, mem_marksOfList]
  simp only [List.mem_reverse]

/-- A finished level holds what has been read into it. -/
theorem mem_marks_close {x : Mark} (l : Level) : x ∈ l.close.marks ↔ x ∈ l.marks := by
  unfold Level.close Level.marks
  rw [mem_marks_ofBranches, mem_marks_reverse, marksOfList, List.mem_append, mem_marks_ofParts,
    mem_marks_reverse, List.mem_append]
  exact or_comm

/-- Closing a group adds nothing. -/
theorem closeGroup?_reads {s s' : ParserState} {cs : List Char} (h : s.closeGroup? cs = some s')
    (hrest : s.rest = ')' :: cs) : s.Reads [] s' := by
  unfold closeGroup? at h
  split at h
  case h_1 => cases h
  case h_2 g groups hgroups =>
    obtain rfl := Option.some.inj h
    constructor
    case marks =>
      intro x
      simp only [ParserState.marks, Level.marks, OpenGroup.marks, hgroups, marksOfList, Ast.marks,
        List.flatMap_cons, List.mem_append, mem_marks_close, List.not_mem_nil, false_or]
      tauto
    case nonverbose =>
      intro hverbose _
      have hgroup : ∀ g' ∈ g :: groups, g'.verbose = false := hgroups ▸ hverbose.2
      rw [List.forall_mem_cons] at hgroup
      exact ⟨hgroup.1, hgroup.2⟩
    case scan =>
      intro _ _
      rw [hrest, rejects_ordinary (by decide)]
      rfl

/-- Nor does beginning another branch. -/
theorem alternate_reads {s : ParserState} {cs : List Char} (hrest : s.rest = '|' :: cs) :
    s.Reads [] (s.alternate cs) where
  marks := fun x => by
    simp only [ParserState.marks, alternate, Level.marks, marksOfList, List.mem_append,
      mem_marks_ofParts, mem_marks_reverse, List.not_mem_nil, false_or, or_false]
    tauto
  nonverbose := fun hverbose _ => hverbose
  scan := fun _ _ => by
    rw [hrest, rejects_ordinary (by decide)]
    rfl

/-- A piece leaves the scan outside of all brackets, if its parts are plain. -/
theorem primitive?_scan {p : Primitive} {cs rest : List Char}
    (h : primitive? false cs = some (p, rest)) (hp : ∀ x ∈ p.toAst.marks, x.Plain)
    (hopen : cs.head? ≠ some '[') (hparenthesis : cs.head? ≠ some '(') :
    (Scan.plain 0).rejects cs = (p.toAst.marks.any Mark.restoresCase || (Scan.plain 0).rejects rest) := by
  -- a single piece is no flag group
  have hmarks : p.toAst.marks.any Mark.restoresCase = false := by cases p <;> rfl
  rw [hmarks, Bool.false_or]
  unfold primitive? at h
  split at h
  case h_1 => cases h
  case h_2 =>
    refine escape?_scan (.of_false _) h ?_ 0
    cases p with
    | property negated q => exact hp _ List.mem_cons_self
    | _ => trivial
  case h_3 =>
    obtain ⟨-, rfl⟩ := Prod.mk.inj (Option.some.inj h)
    exact rejects_ordinary (by decide) 0 _
  case h_4 =>
    obtain ⟨-, rfl⟩ := Prod.mk.inj (Option.some.inj h)
    exact rejects_ordinary (by decide) 0 _
  case h_5 =>
    obtain ⟨-, rfl⟩ := Prod.mk.inj (Option.some.inj h)
    exact rejects_ordinary (by decide) 0 _
  case h_6 c tail hescape _ _ _ =>
    obtain ⟨-, rfl⟩ := Prod.mk.inj (Option.some.inj h)
    have hbackslash : c ≠ '\\' := by
      rintro rfl
      exact hescape rfl
    rw [rejects_plain_cons, Scan.next_eq_plain hbackslash (fun e => hopen (congrArg some e))
      (.inr rfl) (.inl fun e => hparenthesis (congrArg some e))]

/-- **One piece: what the parser adds to its tree is what the scan has found.** -/
theorem piece?_reads {s s' : ParserState} {c : Char} {cs : List Char} (h : s.piece? c cs = some s')
    (hrest : s.rest = c :: cs) : ∃ new, s.Reads new s' := by
  -- in the order of the parser: groups, bars, classes, repetitions, and what stands for itself
  unfold piece? at h
  split at h
  case h_1 => exact openGroup?_reads h hrest
  case h_2 => exact ⟨[], closeGroup?_reads h hrest⟩
  case h_3 =>
    obtain rfl := Option.some.inj h
    exact ⟨[], alternate_reads hrest⟩
  case h_4 =>
    obtain ⟨⟨⟨negated, set⟩, rest⟩, hset, rfl⟩ := Option.map_eq_some_iff.mp h
    refine ⟨_, push_reads fun hverbose hplain => ?_⟩
    rw [hverbose] at hset
    have hmarks : (Ast.bracketed negated set).marks.any Mark.restoresCase = false :=
      ClassSet.restoresCase_marks set
    rw [hrest, hmarks, Bool.false_or]
    exact bracketed?_scan hset hplain
  case h_5 => exact ⟨[], operator_reads h hrest (by decide)⟩
  case h_6 => exact ⟨[], operator_reads h hrest (by decide)⟩
  case h_7 => exact ⟨[], operator_reads h hrest (by decide)⟩
  case h_8 => exact ⟨[], counted?_reads h hrest⟩
  case h_9 hparenthesis _ _ hopen _ _ _ _ =>
    obtain ⟨⟨p, rest⟩, hp, rfl⟩ := Option.map_eq_some_iff.mp h
    refine ⟨_, push_reads fun hverbose hplain => ?_⟩
    rw [hverbose] at hp
    rw [hrest]
    exact primitive?_scan hp hplain (fun e => hopen (Option.some.inj e))
      (fun e => hparenthesis (Option.some.inj e))

/-- Skipping blanks and comments reads nothing. -/
theorem skip_reads (s : ParserState) : s.Reads [] { s with rest := skip s.verbose s.rest } where
  marks := fun x => by
    rw [List.mem_nil_iff, false_or]
    rfl
  nonverbose := fun hverbose _ => hverbose
  scan := fun hverbose _ => by
    rw [hverbose.1]
    rfl

/-- A piece is read from the characters it is given. -/
theorem piece?_rest (s : ParserState) (c : Char) (cs rest : List Char) :
    { s with rest := rest }.piece? c cs = s.piece? c cs := rfl

/-- **A run of the parser reads everything, if it never meets a verbose part.** -/
theorem loop?_reads {fuel : Nat} {s s' : ParserState} (h : loop? fuel s = some s') :
    ∃ new, s.Reads new s' ∧ (s.Nonverbose → (∀ x ∈ new, x.Plain) → s'.rest = []) := by
  induction fuel generalizing s with
  | zero => cases h
  | succ fuel ih =>
      unfold loop? at h
      split at h
      case h_1 hskip =>
        -- only blanks are left, and where nothing is verbose there are none to skip
        obtain rfl := Option.some.inj h
        refine ⟨[], ⟨fun x => by simp, fun hverbose _ => hverbose, fun _ _ => rfl⟩, fun hverbose _ => ?_⟩
        rw [hverbose.1] at hskip
        exact hskip
      case h_2 c cs hskip =>
        obtain ⟨s₁, hpiece, hrun⟩ := Option.bind_eq_some_iff.mp h
        have hblank := skip_reads s
        rw [hskip] at hblank
        rw [← piece?_rest s c cs (c :: cs)] at hpiece
        obtain ⟨new, hnew⟩ := piece?_reads hpiece rfl
        obtain ⟨new', hnew', hend⟩ := ih hrun
        refine ⟨_, (hblank.trans hnew).trans hnew', fun hverbose hplain => ?_⟩
        rw [List.forall_mem_append] at hplain
        have hlayout := fun x hx => (hplain.1 x hx).keepsLayout
        exact hend ((hblank.trans hnew).nonverbose hverbose hlayout) hplain.2

end ParserState

/-- **For a pattern whose parts are plain, the search for flag groups and the tree agree.** -/
theorem restoresCase_of_parse? {text : String} {a : Ast} (h : Ast.parse? text = some a)
    (ha : ∀ x ∈ a.marks, x.Plain) : TextPattern.restoresCase text.toList = a.restoresCase := by
  unfold Ast.parse? at h
  simp only [Option.bind_eq_bind, Option.bind_eq_some_iff, Option.pure_def] at h
  obtain ⟨s, hrun, h⟩ := h
  split at h
  case isTrue => cases h
  case isFalse hgroups =>
    split at h
    case isFalse => cases h
    case isTrue =>
      obtain rfl := Option.some.inj h
      obtain ⟨new, hnew, hend⟩ := ParserState.loop?_reads hrun
      -- no group is open at the end, so the tree holds everything that was read
      have hgroups' : s.groups = [] := by simpa using hgroups
      have hmem : ∀ x, x ∈ new ↔ x ∈ s.level.close.marks := by
        intro x
        have hx := hnew.marks x
        simp only [ParserState.marks, hgroups', List.flatMap_nil, List.append_nil, Level.marks,
          marksOfList, List.not_mem_nil, or_false] at hx
        rw [ParserState.mem_marks_close, Level.marks]
        exact hx.symm
      have hplain : ∀ x ∈ new, x.Plain := fun x hx => ha x ((hmem x).mp hx)
      have hstart : ParserState.Nonverbose ⟨text.toList, false, [], ⟨[], []⟩, []⟩ :=
        ⟨rfl, fun _ h => absurd h List.not_mem_nil⟩
      have hscan := hnew.scan hstart hplain
      have hany : new.any Mark.restoresCase = s.level.close.restoresCase := by
        rw [Bool.eq_iff_iff, Ast.restoresCase, List.any_eq_true, List.any_eq_true]
        simp only [hmem]
      rw [hend hstart hplain, Scan.rejects_nil, Bool.or_false, hany] at hscan
      exact hscan

end PullTriage.Regex
