import Mathlib.Data.List.Forall2
import Mathlib.Order.MinMax
import PullTriage.Proofs.FlagScan

/-!
  PullTriage.Proofs.TrimmedTrees: a tree without its markers means the same.

  A *marker* is the flag group `(?i)`.  `Ast.Trims a b` says that `b` is `a` without some of its markers,
  with what is left of each branch put together as the parser puts parts together.  Where case does not
  count to begin with, and no flag group changes that, a marker changes no flag and stands for the empty
  pattern.  So the second tree leaves the same flags, and its pattern takes the same positions of every text
  to the same positions:

      a.Trims b  →  a.meaning? m = some (p, m')  →  ∃ q, b.meaning? m = some (q, m') ∧ ActsLike p q

  What is compiled is even the same program.  The second tree also nests no deeper, and holds no mark that
  was not there before.

  Which of the markers are left out is not said.  The parser sees more of them than a text has: in a verbose
  pattern `( ?i)` is one, too.

  Layers:
    * §1: patterns that do the same;
    * §2: trees that lost markers, their marks and their nesting;
    * §3: what they mean;
    * §4: the programs that they are compiled from.
-/

namespace PullTriage.Regex

open Unicode (CharSet)

/-! ## §1. Patterns that do the same. -/

/-- The second pattern takes all positions of all texts where the first one takes them. -/
structure ActsLike (p q : CharPattern) : Prop where
  stepless : q.isStepless = p.isStepless
  ends : ∀ (n : Nat) (f : CharSet → Nat) (g : Look → Nat),
    Pattern.ends n (q.map f g) = Pattern.ends n (p.map f g)

namespace ActsLike

variable {p p' q q' r : CharPattern}

theorem refl (p : CharPattern) : ActsLike p p := ⟨rfl, fun _ _ _ => rfl⟩

/-- Patterns in a row act like those that their parts act like. -/
theorem seq (h : ActsLike p q) (h' : ActsLike p' q') : ActsLike (.seq p p') (.seq q q') where
  stepless := by simp only [Pattern.isStepless, h.stepless, h'.stepless]
  ends n f g := by
    funext s
    simp only [Pattern.map, Pattern.ends, h.ends, h'.ends]

/-- What comes behind a pattern and does nothing may be left out. -/
theorem seq_nothing (h : ActsLike p q) (hr : ActsLike r .empty) : ActsLike (.seq p r) q where
  stepless := by
    have hstepless : r.isStepless = true := hr.stepless.symm
    simp only [Pattern.isStepless, h.stepless, hstepless, Bool.and_true]
  ends n f g := by
    have hends : Pattern.ends n (r.map f g) = fun s => s := (hr.ends n f g).symm
    funext s
    simp only [Pattern.map, Pattern.ends, h.ends, hends]

/-- The empty pattern in front of another may be left out. -/
theorem empty_seq (h : ActsLike r q) : ActsLike (.seq .empty r) q where
  stepless := by simp only [Pattern.isStepless, h.stepless, Bool.true_and]
  ends n f g := by
    funext s
    simp only [Pattern.map, Pattern.ends, h.ends]

/-- So do alternatives. -/
theorem alt (h : ActsLike p q) (h' : ActsLike p' q') : ActsLike (.alt p p') (.alt q q') where
  stepless := by simp only [Pattern.isStepless, h.stepless, h'.stepless]
  ends n f g := by
    funext s
    simp only [Pattern.map, Pattern.ends, h.ends, h'.ends]

/-- So does a repetition. -/
theorem repeated (h : ActsLike p q) (least : Nat) (most : Option Nat) :
    ActsLike (.repeated p least most) (.repeated q least most) where
  stepless := by simp only [Pattern.isStepless, h.stepless]
  ends n f g := by
    funext s
    simp only [Pattern.map, Pattern.ends, h.ends]

/-- So does a repetition with its bounds, which may be written out. -/
theorem repeatedTimes (h : ActsLike p q) (least : Nat) (most : Option Nat) :
    ActsLike (p.repeatedTimes least most) (q.repeatedTimes least most) := by
  unfold Pattern.repeatedTimes
  rw [h.stepless]
  split
  · exact h.repeated _ _
  · exact h.repeated _ _

/-- One pattern more in front of two lists, of which the second is no longer. -/
theorem cons {ps qs : List CharPattern} (h : ActsLike p q) (hs : ActsLike (.ofList ps) (.ofList qs))
    (hlength : qs.length ≤ ps.length) : ActsLike (.ofList (p :: ps)) (.ofList (q :: qs)) := by
  match ps, qs with
  | [], [] => exact h
  | [], _ :: _ => cases hlength
  | _ :: _, [] => exact h.seq_nothing hs
  | _ :: _, _ :: _ => exact h.seq hs

/-- The empty pattern in front of a list. -/
theorem empty_cons {ps qs : List CharPattern} (hs : ActsLike (.ofList ps) (.ofList qs))
    (hlength : qs.length ≤ ps.length) : ActsLike (.ofList (.empty :: ps)) (.ofList qs) := by
  match ps, qs with
  | [], [] => exact refl _
  | [], _ :: _ => cases hlength
  | _ :: _, _ => exact hs.empty_seq

/-- So do several alternatives. -/
theorem alternatives {ps qs : List CharPattern} (h : List.Forall₂ ActsLike ps qs) :
    ActsLike (alternatives ps) (alternatives qs) := by
  induction h with
  | nil => exact refl _
  | cons hp hrest ih =>
      cases hrest with
      | nil => exact hp
      | cons _ _ => exact hp.alt ih

/-- Both patterns are found in the same texts. -/
theorem foundIn (h : ActsLike p q) (text : String) :
    (Regex.mk q).foundIn text = (Regex.mk p).foundIn text := by
  unfold Regex.foundIn Pattern.found Pattern.locate
  rw [h.ends]

end ActsLike

/-! ## §2. Trees that lost markers. -/

/-- The tree of a marker. -/
def Ast.marker : Ast := .flags [.flag .ignoreCase]

mutual

/-- The second tree is the first without some of its markers. -/
inductive Ast.Trims : Ast → Ast → Prop
  | same (a : Ast) : Ast.Trims a a
  | marker : Ast.Trims .marker .empty
  | repetition {a b : Ast} (h : Ast.Trims a b) (least : Nat) (most : Option Nat) :
      Ast.Trims (.repetition a least most) (.repetition b least most)
  | group {a b : Ast} (kind : GroupKind) (h : Ast.Trims a b) :
      Ast.Trims (.group kind a) (.group kind b)
  | alternation {as bs : List Ast} (h : TrimsBranches as bs) :
      Ast.Trims (.alternation as) (.alternation bs)
  | concat {as bs : List Ast} (h : TrimsParts as bs) : Ast.Trims (.concat as) (.ofParts bs)

/-- The same for the parts of a branch; what could be repeated still can. -/
inductive TrimsParts : List Ast → List Ast → Prop
  | nil : TrimsParts [] []
  | keep {a b : Ast} {as bs : List Ast} (h : Ast.Trims a b)
      (hrepeat : ParserState.isRepeatable a = true → ParserState.isRepeatable b = true)
      (hrest : TrimsParts as bs) : TrimsParts (a :: as) (b :: bs)
  | drop {as bs : List Ast} (hrest : TrimsParts as bs) : TrimsParts (.marker :: as) bs

/-- The same for every branch. -/
inductive TrimsBranches : List Ast → List Ast → Prop
  | nil : TrimsBranches [] []
  | cons {a b : Ast} {as bs : List Ast} (h : Ast.Trims a b) (hrest : TrimsBranches as bs) :
      TrimsBranches (a :: as) (b :: bs)

end

namespace TrimsParts

variable {a : Ast} {as bs as' bs' : List Ast}

/-- Trimmed parts may be put one after the other. -/
theorem append {as bs : List Ast} (h : TrimsParts as bs) (h' : TrimsParts as' bs') :
    TrimsParts (as ++ as') (bs ++ bs') := by
  match h with
  | .nil => exact h'
  | .keep hab hrepeat hrest => exact .keep hab hrepeat (hrest.append h')
  | .drop hrest => exact .drop (hrest.append h')

/-- They may be read backwards. -/
theorem reverse {as bs : List Ast} (h : TrimsParts as bs) : TrimsParts as.reverse bs.reverse := by
  match h with
  | .nil => exact .nil
  | .keep hab hrepeat hrest =>
      rw [List.reverse_cons, List.reverse_cons]
      exact hrest.reverse.append (.keep hab hrepeat .nil)
  | .drop hrest =>
      rw [List.reverse_cons, ← List.append_nil bs.reverse]
      exact hrest.reverse.append (.drop .nil)

/-- What is repeated has not been left out. -/
theorem head (h : TrimsParts (a :: as) bs) (ha : ParserState.isRepeatable a = true) :
    ∃ b bs', bs = b :: bs' ∧ a.Trims b ∧ ParserState.isRepeatable b = true ∧ TrimsParts as bs' := by
  cases h with
  | keep hab hrepeat hrest => exact ⟨_, _, rfl, hab, hrepeat ha, hrest⟩
  | drop => cases ha

/-- A tree is trimmed if its parts are. -/
theorem ofParts (h : TrimsParts as bs) : (Ast.ofParts as).Trims (.ofParts bs) := by
  match as, h with
  | [], .nil => exact .same .empty
  | [_], .keep hab _ .nil => exact hab
  | [_], .drop .nil => exact .marker
  | _ :: _ :: _, h => exact .concat h

end TrimsParts

namespace TrimsBranches

variable {as bs as' bs' : List Ast}

/-- The same for branches. -/
theorem append {as bs : List Ast} (h : TrimsBranches as bs) (h' : TrimsBranches as' bs') :
    TrimsBranches (as ++ as') (bs ++ bs') := by
  match h with
  | .nil => exact h'
  | .cons hab hrest => exact .cons hab (hrest.append h')

/-- The same for branches, read backwards. -/
theorem reverse {as bs : List Ast} (h : TrimsBranches as bs) : TrimsBranches as.reverse bs.reverse := by
  match h with
  | .nil => exact .nil
  | .cons hab hrest =>
      rw [List.reverse_cons, List.reverse_cons]
      exact hrest.reverse.append (.cons hab .nil)

/-- A tree is trimmed if its branches are. -/
theorem ofBranches (h : TrimsBranches as bs) : (Ast.ofBranches as).Trims (.ofBranches bs) := by
  match h with
  | .nil => exact .same .empty
  | .cons hab .nil => exact hab
  | .cons hab (.cons hab' hrest) => exact .alternation (.cons hab (.cons hab' hrest))

end TrimsBranches

/-! ### Marks and nesting. -/

mutual

/-- A tree that lost markers holds no mark that was not there before. -/
theorem Ast.Trims.mem_marks {x : Mark} {a b : Ast} (h : a.Trims b) (hx : x ∈ b.marks) : x ∈ a.marks := by
  match h with
  | .same _ => exact hx
  | .marker => cases hx
  | .repetition h _ _ => exact h.mem_marks hx
  | .group kind h =>
      rcases List.mem_append.mp hx with hx | hx
      · exact List.mem_append_left _ hx
      · exact List.mem_append_right _ (h.mem_marks hx)
  | .alternation h => exact h.mem_marks hx
  | .concat h => exact h.mem_marks ((ParserState.mem_marks_ofParts _).mp hx)

/-- Trimming adds no flags, names or ranges. -/
theorem TrimsParts.mem_marks {x : Mark} {as bs : List Ast} (h : TrimsParts as bs)
    (hx : x ∈ marksOfList bs) : x ∈ marksOfList as := by
  match h with
  | .nil => exact hx
  | .keep h _ hrest => exact List.mem_append.mpr ((List.mem_append.mp hx).imp h.mem_marks hrest.mem_marks)
  | .drop hrest => exact List.mem_append_right _ (hrest.mem_marks hx)

/-- The same for branches. -/
theorem TrimsBranches.mem_marks {x : Mark} {as bs : List Ast} (h : TrimsBranches as bs)
    (hx : x ∈ marksOfList bs) : x ∈ marksOfList as := by
  match h with
  | .nil => exact hx
  | .cons h hrest => exact List.mem_append.mpr ((List.mem_append.mp hx).imp h.mem_marks hrest.mem_marks)

end

/-- A trimmed tree restores case nowhere, if the tree does not. -/
theorem Ast.Trims.restoresCase {a b : Ast} (h : a.Trims b) (ha : a.restoresCase = false) :
    b.restoresCase = false := by
  unfold Ast.restoresCase at ha ⊢
  rw [List.any_eq_false] at ha ⊢
  exact fun x hx => ha x (h.mem_marks hx)

/-- A tree nests one level more than its parts at most. -/
theorem Ast.nesting_ofParts_le (parts : List Ast) :
    (Ast.ofParts parts).nesting ≤ Ast.nestingList parts + 1 := by
  match parts with
  | [] => exact Nat.zero_le _
  | [a] =>
      show a.nesting ≤ max a.nesting 0 + 1
      omega
  | _ :: _ :: _ => exact le_rfl

mutual

/-- A tree that lost markers nests no deeper. -/
theorem Ast.Trims.nesting_le {a b : Ast} (h : a.Trims b) : b.nesting ≤ a.nesting := by
  match h with
  | .same _ => exact le_rfl
  | .marker => exact le_rfl
  | .repetition h _ _ => exact Nat.succ_le_succ h.nesting_le
  | .group _ h => exact Nat.succ_le_succ h.nesting_le
  | .alternation h => exact Nat.succ_le_succ h.nesting_le
  | .concat h => exact Nat.le_trans (Ast.nesting_ofParts_le _) (Nat.succ_le_succ h.nesting_le)

/-- Trimmed parts nest no deeper. -/
theorem TrimsParts.nesting_le {as bs : List Ast} (h : TrimsParts as bs) :
    Ast.nestingList bs ≤ Ast.nestingList as := by
  match h with
  | .nil => exact le_rfl
  | .keep h _ hrest => exact max_le_max h.nesting_le hrest.nesting_le
  | .drop hrest => exact Nat.le_trans hrest.nesting_le (Nat.le_max_right _ _)

/-- Nor do trimmed branches. -/
theorem TrimsBranches.nesting_le {as bs : List Ast} (h : TrimsBranches as bs) :
    Ast.nestingList bs ≤ Ast.nestingList as := by
  match h with
  | .nil => exact le_rfl
  | .cons h hrest => exact max_le_max h.nesting_le hrest.nesting_le

end

/-! ## §3. Meaning. -/

/-- A marker sets a flag that is set. -/
theorem Mode.apply_marker {m : Mode} (hm : m.ignoreCase = true) :
    m.apply [.flag .ignoreCase] = m := by
  obtain ⟨ignoreCase, _, _, _, _⟩ := m
  obtain rfl : ignoreCase = true := hm
  rfl

/-- A tree of parts means what its parts mean in a row. -/
theorem Ast.meaning_ofParts (m : Mode) (parts : List Ast) : (Ast.ofParts parts).meaning? m =
    (meanings? m parts).map fun x => (.ofList x.1, x.2) := by
  match parts with
  | [] => rfl
  | [a] =>
      simp only [Ast.ofParts, meanings?, Option.bind_eq_bind, Option.bind_some]
      cases a.meaning? m <;> rfl
  | a :: b :: rest =>
      show (meanings? m (a :: b :: rest)).bind _ = _
      cases meanings? m (a :: b :: rest) <;> rfl

/-- A group means what is inside of it, under its flags. -/
theorem Ast.meaning_group (m : Mode) (kind : GroupKind) (body : Ast) :
    (Ast.group kind body).meaning? m = (body.meaning? (kind.inner m)).map fun x => (x.1, m) := by
  have hbody : (Ast.group kind body).meaning? m =
      (body.meaning? (kind.inner m)).bind fun x => some (x.1, m) := by
    cases kind <;> rfl
  rw [hbody]
  cases body.meaning? (kind.inner m) <;> rfl

/-- A pattern leaves the flags alone that say that case does not count. -/
theorem Ast.ignoreCase_of_meaning {m m' : Mode} (hm : m.ignoreCase = true) {p : CharPattern} {a : Ast}
    (ha : a.restoresCase = false) (h : a.meaning? m = some (p, m')) : m'.ignoreCase = true := by
  rw [(Ast.caseBlind_meaning a h).1]
  exact Ast.ignoreCase_modeAfter hm a ha

mutual

/-- **A tree that lost markers has a pattern that does the same, and leaves the same flags.** -/
theorem Ast.Trims.meaning {m m' : Mode} {p : CharPattern} {a b : Ast} (h : a.Trims b)
    (hm : m.ignoreCase = true) (ha : a.restoresCase = false) (hp : a.meaning? m = some (p, m')) :
    ∃ q, b.meaning? m = some (q, m') ∧ ActsLike p q := by
  match h with
  | .same _ => exact ⟨p, hp, .refl p⟩
  | .marker =>
      obtain ⟨rfl, rfl⟩ := Prod.mk.inj (Option.some.inj hp)
      -- `i` is on already, so the marker changes no flag and matches the empty text
      rw [Mode.apply_marker hm]
      exact ⟨.empty, rfl, .refl _⟩
  | .repetition h least most =>
      simp only [Ast.meaning?, Option.bind_eq_bind, Option.bind_eq_some_iff, Option.pure_def,
        Option.some.injEq, Prod.mk.injEq] at hp
      obtain ⟨⟨p, m₁⟩, hbody, rfl, rfl⟩ := hp
      obtain ⟨q, hq, hlike⟩ := h.meaning hm ha hbody
      refine ⟨q.repeatedTimes least most, ?_, hlike.repeatedTimes least most⟩
      simp only [Ast.meaning?, hq]
      rfl
  | .group kind h =>
      rw [Ast.meaning_group] at hp
      obtain ⟨⟨p, m₁⟩, hbody, heq⟩ := Option.map_eq_some_iff.mp hp
      obtain ⟨rfl, rfl⟩ := Prod.mk.inj heq
      rw [Ast.restoresCase_group, Bool.or_eq_false_iff] at ha
      -- a group of flags may not turn `i` off either
      have hinner : (kind.inner m).ignoreCase = true := by
        rw [kind.ignoreCase_inner hm, ha.1]
        rfl
      obtain ⟨q, hq, hlike⟩ := h.meaning hinner ha.2 hbody
      refine ⟨q, ?_, hlike⟩
      rw [Ast.meaning_group, hq]
      rfl
  | .alternation h =>
      simp only [Ast.meaning?, Option.bind_eq_bind, Option.bind_eq_some_iff, Option.pure_def,
        Option.some.injEq, Prod.mk.injEq] at hp
      obtain ⟨⟨ps, m₁⟩, hbranches, rfl, rfl⟩ := hp
      obtain ⟨qs, hqs, hlike⟩ := h.meanings hm ha hbranches
      refine ⟨alternatives qs, ?_, .alternatives hlike⟩
      simp only [Ast.meaning?, hqs]
      rfl
  | .concat h =>
      simp only [Ast.meaning?, Option.bind_eq_bind, Option.bind_eq_some_iff, Option.pure_def,
        Option.some.injEq, Prod.mk.injEq] at hp
      obtain ⟨⟨ps, m₁⟩, hparts, rfl, rfl⟩ := hp
      obtain ⟨qs, hqs, -, hlike⟩ := h.meanings hm ha hparts
      refine ⟨.ofList qs, ?_, hlike⟩
      rw [Ast.meaning_ofParts, hqs]
      rfl

/-- **Trimmed parts mean the same**, where case does not count before and is not restored. -/
theorem TrimsParts.meanings {m m' : Mode} {ps : List CharPattern} {as bs : List Ast}
    (h : TrimsParts as bs) (hm : m.ignoreCase = true)
    (has : (marksOfList as).any Mark.restoresCase = false) (hps : meanings? m as = some (ps, m')) :
    ∃ qs, meanings? m bs = some (qs, m') ∧ qs.length ≤ ps.length ∧
      ActsLike (.ofList ps) (.ofList qs) := by
  match h with
  | .nil =>
      obtain ⟨rfl, rfl⟩ := Prod.mk.inj (Option.some.inj hps)
      exact ⟨[], rfl, le_rfl, .refl _⟩
  | .keep h _ hrest =>
      simp only [meanings?, Option.bind_eq_bind, Option.bind_eq_some_iff, Option.pure_def,
        Option.some.injEq, Prod.mk.injEq] at hps
      obtain ⟨⟨p, m₁⟩, ha, ⟨ps, m₂⟩, hrestMeaning, rfl, rfl⟩ := hps
      rw [marksOfList, List.any_append, Bool.or_eq_false_iff] at has
      -- behind the first part case does not count either
      have hm₁ := Ast.ignoreCase_of_meaning hm has.1 ha
      obtain ⟨qs, hqs, hlength, hlike⟩ := hrest.meanings hm₁ has.2 hrestMeaning
      obtain ⟨q, hq, hlike₁⟩ := h.meaning hm has.1 ha
      refine ⟨q :: qs, ?_, Nat.succ_le_succ hlength, hlike₁.cons hlike hlength⟩
      simp only [meanings?, hq, Option.bind_eq_bind, Option.bind_some, hqs]
      rfl
  | .drop hrest =>
      -- the marker sets a flag that is set, and the empty pattern it stands for is left out
      simp only [meanings?, Option.bind_eq_bind, Option.bind_eq_some_iff, Option.pure_def,
        Option.some.injEq, Prod.mk.injEq] at hps
      obtain ⟨⟨p, m₁⟩, ha, ⟨ps, m₂⟩, hrestMeaning, rfl, rfl⟩ := hps
      obtain ⟨rfl, rfl⟩ := Prod.mk.inj (Option.some.inj ha)
      rw [Mode.apply_marker hm] at hrestMeaning
      obtain ⟨qs, hqs, hlength, hlike⟩ := hrest.meanings hm has hrestMeaning
      exact ⟨qs, hqs, Nat.le_succ_of_le hlength, hlike.empty_cons hlength⟩

/-- The same for branches. -/
theorem TrimsBranches.meanings {m m' : Mode} {ps : List CharPattern} {as bs : List Ast}
    (h : TrimsBranches as bs) (hm : m.ignoreCase = true)
    (has : (marksOfList as).any Mark.restoresCase = false) (hps : meanings? m as = some (ps, m')) :
    ∃ qs, meanings? m bs = some (qs, m') ∧ List.Forall₂ ActsLike ps qs := by
  match h with
  | .nil =>
      obtain ⟨rfl, rfl⟩ := Prod.mk.inj (Option.some.inj hps)
      exact ⟨[], rfl, .nil⟩
  | .cons h hrest =>
      simp only [meanings?, Option.bind_eq_bind, Option.bind_eq_some_iff, Option.pure_def,
        Option.some.injEq, Prod.mk.injEq] at hps
      obtain ⟨⟨p, m₁⟩, ha, ⟨ps, m₂⟩, hrestMeaning, rfl, rfl⟩ := hps
      rw [marksOfList, List.any_append, Bool.or_eq_false_iff] at has
      have hm₁ := Ast.ignoreCase_of_meaning hm has.1 ha
      obtain ⟨q, hq, hlike₁⟩ := h.meaning hm has.1 ha
      obtain ⟨qs, hqs, hlike⟩ := hrest.meanings hm₁ has.2 hrestMeaning
      refine ⟨q :: qs, ?_, .cons hlike₁ hlike⟩
      simp only [meanings?, hq, Option.bind_eq_bind, Option.bind_some, hqs]
      rfl

end

/-! ## §4. Programs. -/

namespace Program

/-- The programs of a list that say something. -/
def telling (ps : List Program) : List Program := ps.filter fun p => !p.isEmpty

/-- A program tells something unless it is empty. -/
theorem telling_cons (p : Program) (ps : List Program) :
    telling (p :: ps) = if p.isEmpty then telling ps else p :: telling ps := by
  unfold telling
  rw [List.filter_cons]
  cases p.isEmpty <;> rfl

/-- Programs that say nothing leave no trace in a row. -/
theorem concatOf_telling (ps : List Program) : concatOf (telling ps) = concatOf ps := by
  unfold concatOf telling
  rw [List.filter_filter]
  simp only [Bool.and_self]

/-- A row of one program is that program. -/
theorem concatOf_singleton (p : Program) : concatOf [p] = p := by
  cases p <;> rfl

end Program

/-- The programs that tell something, of a tree and of those after it. -/
theorem telling_programs_cons (m : Mode) (a : Ast) (rest : List Ast) :
    (programs? m (a :: rest)).map (Prod.map Program.telling id) =
      (a.program? m).bind fun x =>
        ((programs? x.2 rest).map (Prod.map Program.telling id)).map
          (Prod.map (fun ps => if x.1.isEmpty then ps else x.1 :: ps) id) := by
  simp only [programs?, Option.bind_eq_bind]
  cases a.program? m with
  | none => rfl
  | some x =>
      rw [Option.bind_some, Option.bind_some]
      cases programs? x.2 rest with
      | none => rfl
      | some y => exact congrArg some (Prod.ext (Program.telling_cons x.1 y.1) rfl)

/-- The program of some parts is put together of those that say something. -/
theorem Ast.program_concat (m : Mode) (parts : List Ast) : (Ast.concat parts).program? m =
    ((programs? m parts).map (Prod.map Program.telling id)).map (Prod.map Program.concatOf id) := by
  show (programs? m parts).bind _ = _
  cases programs? m parts with
  | none => rfl
  | some x => exact congrArg some (Prod.ext (Program.concatOf_telling x.1).symm rfl)

/-- A tree of parts has the program of the parts in a row. -/
theorem Ast.program_ofParts (m : Mode) (parts : List Ast) :
    (Ast.ofParts parts).program? m = (Ast.concat parts).program? m := by
  match parts with
  | [] => rfl
  | [a] =>
      show a.program? m = (programs? m [a]).bind _
      simp only [programs?, Option.bind_eq_bind, Option.bind_some]
      cases a.program? m with
      | none => rfl
      | some x => exact congrArg some (Prod.ext (Program.concatOf_singleton x.1).symm rfl)
  | _ :: _ :: _ => rfl

mutual

/-- The program of a tree leaves the flags that its meaning leaves. -/
theorem Ast.mode_program {m m' : Mode} {p : Program} :
    ∀ a : Ast, a.program? m = some (p, m') → m' = a.modeAfter m
  | .empty, h => (Prod.mk.inj (Option.some.inj h)).2.symm
  | .flags _, h => (Prod.mk.inj (Option.some.inj h)).2.symm
  | .assertion _, h => (Prod.mk.inj (Option.some.inj h)).2.symm
  | .literal _, h => by
      simp only [Ast.program?, Option.bind_eq_bind, Option.bind_eq_some_iff, Option.pure_def,
        Option.some.injEq, Prod.mk.injEq] at h
      obtain ⟨_, -, -, rfl⟩ := h
      rfl
  | .dot, h => by
      simp only [Ast.program?, Option.bind_eq_bind, Option.bind_eq_some_iff, Option.pure_def,
        Option.some.injEq, Prod.mk.injEq] at h
      obtain ⟨_, -, -, rfl⟩ := h
      rfl
  | .shorthand _ _, h => by
      simp only [Ast.program?, Option.bind_eq_bind, Option.bind_eq_some_iff, Option.pure_def,
        Option.some.injEq, Prod.mk.injEq] at h
      obtain ⟨_, -, -, rfl⟩ := h
      rfl
  | .property _ _, h => by
      simp only [Ast.program?, Option.bind_eq_bind, Option.bind_eq_some_iff, Option.pure_def,
        Option.some.injEq, Prod.mk.injEq] at h
      obtain ⟨_, -, -, rfl⟩ := h
      rfl
  | .bracketed _ _, h => by
      simp only [Ast.program?, Option.bind_eq_bind, Option.bind_eq_some_iff, Option.pure_def,
        Option.some.injEq, Prod.mk.injEq] at h
      obtain ⟨_, -, _, -, -, rfl⟩ := h
      rfl
  | .repetition body _ _, h => by
      simp only [Ast.program?, Option.bind_eq_bind, Option.bind_eq_some_iff, Option.pure_def,
        Option.some.injEq, Prod.mk.injEq] at h
      obtain ⟨⟨q, m₁⟩, hbody, -, rfl⟩ := h
      exact Ast.mode_program body hbody
  | .group kind body, h => by
      -- the flags that are set inside a group end with it
      cases kind with
      | flags items =>
          simp only [Ast.program?, Option.bind_eq_bind, Option.bind_eq_some_iff, Option.pure_def,
            Option.some.injEq, Prod.mk.injEq] at h
          obtain ⟨_, -, -, rfl⟩ := h
          rfl
      | capture | named =>
          simp only [Ast.program?, Option.bind_eq_bind, Option.bind_eq_some_iff, Option.pure_def,
            Option.some.injEq, Prod.mk.injEq] at h
          obtain ⟨_, -, -, rfl⟩ := h
          rfl
  | .alternation branches, h => by
      simp only [Ast.program?, Option.bind_eq_bind, Option.bind_eq_some_iff, Option.pure_def,
        Option.some.injEq, Prod.mk.injEq] at h
      obtain ⟨⟨qs, m₁⟩, hbranches, -, rfl⟩ := h
      exact mode_programs branches hbranches
  | .concat parts, h => by
      simp only [Ast.program?, Option.bind_eq_bind, Option.bind_eq_some_iff, Option.pure_def,
        Option.some.injEq, Prod.mk.injEq] at h
      obtain ⟨⟨qs, m₁⟩, hparts, -, rfl⟩ := h
      exact mode_programs parts hparts

/-- Programs leave the flags that the trees leave. -/
theorem mode_programs {m m' : Mode} {ps : List Program} :
    ∀ as : List Ast, programs? m as = some (ps, m') → m' = modeAfterList m as
  | [], h => (Prod.mk.inj (Option.some.inj h)).2.symm
  | a :: rest, h => by
      simp only [programs?, Option.bind_eq_bind, Option.bind_eq_some_iff, Option.pure_def,
        Option.some.injEq, Prod.mk.injEq] at h
      obtain ⟨⟨q, m₁⟩, ha, ⟨qs, m₂⟩, hrest, -, rfl⟩ := h
      obtain rfl := Ast.mode_program a ha
      exact mode_programs rest hrest

end

mutual

/-- **A tree that lost markers is compiled from the same program**, where case does not count. -/
theorem Ast.Trims.program {m : Mode} {a b : Ast} (h : a.Trims b) (hm : m.ignoreCase = true)
    (ha : a.restoresCase = false) : b.program? m = a.program? m := by
  match h with
  | .same _ => rfl
  | .marker =>
      show some (Program.empty, m) = some (Program.empty, m.apply [.flag .ignoreCase])
      rw [Mode.apply_marker hm]
  | .repetition h least most =>
      simp only [Ast.program?, h.program hm ha]
  | .group kind h =>
      rw [Ast.restoresCase_group, Bool.or_eq_false_iff] at ha
      have hinner : (kind.inner m).ignoreCase = true := by
        rw [kind.ignoreCase_inner hm, ha.1]
        rfl
      have hbody := h.program hinner ha.2
      cases kind <;> exact congrArg (Option.bind · _) hbody
  | .alternation h =>
      simp only [Ast.program?, h.programs hm ha]
  | .concat h => rw [Ast.program_ofParts, Ast.program_concat, Ast.program_concat, h.programs hm ha]

/-- **Trimmed parts have the same programs**, those that tell nothing apart. -/
theorem TrimsParts.programs {m : Mode} {as bs : List Ast} (h : TrimsParts as bs)
    (hm : m.ignoreCase = true) (has : (marksOfList as).any Mark.restoresCase = false) :
    (programs? m bs).map (Prod.map Program.telling id) =
      (programs? m as).map (Prod.map Program.telling id) := by
  match h with
  | .nil => rfl
  | @TrimsParts.keep a _ _ _ h _ hrest =>
      rw [marksOfList, List.any_append, Bool.or_eq_false_iff] at has
      rw [telling_programs_cons, telling_programs_cons, h.program hm has.1]
      cases ha : a.program? m with
      | none => rfl
      | some x =>
          -- behind the first part case does not count either
          have hm₁ : x.2.ignoreCase = true := by
            rw [Ast.mode_program a ha]
            exact Ast.ignoreCase_modeAfter hm a has.1
          rw [Option.bind_some, Option.bind_some, hrest.programs hm₁ has.2]
  | .drop hrest =>
      -- the marker sets a flag that is set, and its program says nothing
      have hmarker : Ast.marker.program? m = some (.empty, m) := by
        show some (Program.empty, m.apply [.flag .ignoreCase]) = _
        rw [Mode.apply_marker hm]
      rw [telling_programs_cons, hmarker, Option.bind_some, hrest.programs hm has]
      exact Option.map_id'.symm

/-- Trimmed branches have the same programs. -/
theorem TrimsBranches.programs {m : Mode} {as bs : List Ast} (h : TrimsBranches as bs)
    (hm : m.ignoreCase = true) (has : (marksOfList as).any Mark.restoresCase = false) :
    programs? m bs = programs? m as := by
  match h with
  | .nil => rfl
  | @TrimsBranches.cons a _ _ _ h hrest =>
      rw [marksOfList, List.any_append, Bool.or_eq_false_iff] at has
      simp only [programs?, h.program hm has.1]
      cases ha : a.program? m with
      | none => rfl
      | some x =>
          have hm₁ : x.2.ignoreCase = true := by
            rw [Ast.mode_program a ha]
            exact Ast.ignoreCase_modeAfter hm a has.1
          simp only [Option.bind_eq_bind, Option.bind_some, hrest.programs hm₁ has.2]

end

end PullTriage.Regex
