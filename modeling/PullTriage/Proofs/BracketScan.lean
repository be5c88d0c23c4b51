import PullTriage.Proofs.ScanClassItems

/-!
  PullTriage.Proofs.BracketScan: counting brackets and reading classes, side by side.

  `TextPattern.restoresCase` counts brackets.  The parser knows what a bracket means, and keeps a stack
  of the classes and operators that are open.  Each round of the parser is a step after which the scan
  stands as deep as there are brackets on the stack (`ClassState.Follows`):

      depth of the scan  =  openBrackets frames

  So the scan is outside of all classes again when the parser is, for every class whose parts are all
  plain (`Mark.Plain`).

  Layers:
    * §1: classes in progress;
    * §2: one round;
    * §3: a whole class.

  Main statements: `classLoop?_scan`, `bracketed?_scan`.
-/

namespace PullTriage.Regex

open TextPattern (Scan)
open TextPattern.Scan (Passes rejects_plain_cons rejects_ordinary)

/-! ## §1. Classes in progress. -/

/-- The number of brackets that are open. -/
def openBrackets : List ClassFrame → Nat
  | [] => 0
  | .opened _ _ :: frames => openBrackets frames + 1
  | .left _ _ :: frames => openBrackets frames

/-- The ranges and property names of a class in progress that wait for its end. -/
def ClassFrame.marks : ClassFrame → List Mark
  | .opened members _ => marksOfItems members
  | .left _ set => set.marks

/-- The ranges and property names of a class in progress. -/
def ClassState.marks (s : ClassState) : List Mark :=
  marksOfItems s.members ++ s.frames.flatMap ClassFrame.marks

/-- Under all operators and brackets there is the bracket that began the class, with nothing read
before it. -/
def Rooted (frames : List ClassFrame) : Prop :=
  ∃ above negated, frames = above ++ [.opened [] negated]

/-- What is put on the stack keeps its bottom. -/
theorem Rooted.cons {frames : List ClassFrame} (h : Rooted frames) (f : ClassFrame) :
    Rooted (f :: frames) := by
  obtain ⟨above, negated, rfl⟩ := h
  exact ⟨f :: above, negated, rfl⟩

/-- So does what is taken from it, as long as something is left. -/
theorem Rooted.of_cons {f : ClassFrame} {frames : List ClassFrame} (h : Rooted (f :: frames))
    (hne : frames ≠ []) : Rooted frames := by
  obtain ⟨above, negated, heq⟩ := h
  cases above with
  | nil => exact absurd (List.cons.inj heq).2 hne
  | cons g above => exact ⟨above, negated, (List.cons.inj heq).2⟩

/-- Before its end, a class has an open bracket. -/
theorem Rooted.openBrackets_ne_zero {frames : List ClassFrame} (h : Rooted frames) :
    openBrackets frames ≠ 0 := by
  obtain ⟨above, negated, rfl⟩ := h
  induction above with
  | nil => exact Nat.one_ne_zero
  | cons f above ih =>
      cases f with
      | opened => exact Nat.succ_ne_zero _
      | left => exact ih

theorem mem_marksOfItems {x : Mark} {members : List ClassItem} :
    x ∈ marksOfItems members ↔ ∃ i ∈ members, x ∈ i.marks := by
  induction members with
  | nil => simp [marksOfItems]
  | cons i members ih => simp [marksOfItems, ih]

/-- The finished set has the ranges and properties of its members. -/
theorem ClassState.marks_set (s : ClassState) {x : Mark} :
    x ∈ s.set.marks ↔ x ∈ marksOfItems s.members := by
  show x ∈ marksOfItems s.members.reverse ↔ _
  rw [mem_marksOfItems, mem_marksOfItems]
  simp only [List.mem_reverse]

/-- Closing an operator keeps the open brackets and everything that has been read. -/
theorem closeOperator_spec (frames : List ClassFrame) (right : ClassSet) :
    openBrackets (closeOperator frames right).1 = openBrackets frames ∧
      (Rooted frames → Rooted (closeOperator frames right).1) ∧
      ∀ x, x ∈ right.marks ∨ x ∈ frames.flatMap ClassFrame.marks →
        x ∈ (closeOperator frames right).2.marks ∨
          x ∈ (closeOperator frames right).1.flatMap ClassFrame.marks := by
  unfold closeOperator
  split
  case h_1 op left frames =>
    refine ⟨rfl, fun h => h.of_cons ?_, fun x hx => ?_⟩
    -- below the operator there still is the bracket it stands in
    · rintro rfl
      obtain ⟨above, negated, heq⟩ := h
      cases above <;> simp at heq
    · simp only [List.flatMap_cons, List.mem_append, ClassFrame.marks, ClassSet.marks] at hx ⊢
      tauto
  case h_2 => exact ⟨rfl, id, fun x hx => hx⟩

/-! ## §2. One round. -/

/-- What a round of the reader does to a class in progress, as far as the scan is concerned. -/
structure ClassState.Follows (s s' : ClassState) : Prop where
  marks : ∀ x ∈ s.marks, x ∈ s'.marks
  rooted : Rooted s.frames → Rooted s'.frames
  scan : Rooted s.frames → (∀ x ∈ s'.marks, x.Plain) →
    (Scan.plain (openBrackets s.frames)).rejects s.rest
      = (Scan.plain (openBrackets s'.frames)).rejects s'.rest

/-- A class between colons is a round. -/
theorem posixClass?_follows {i : ClassItem} {frames : List ClassFrame} {members : List ClassItem}
    {cs rest : List Char} (h : posixClass? cs = some (i, rest)) :
    ClassState.Follows ⟨frames, members, '[' :: cs⟩ ⟨frames, i :: members, rest⟩ where
  marks := fun x hx => by
    show x ∈ marksOfItems (i :: members) ++ _
    rw [marksOfItems, (posixClass?_passes h).1]
    exact hx
  rooted := id
  scan := fun _ _ => by
    show (Scan.plain _).rejects ('[' :: cs) = _
    rw [rejects_bracket, posixClass?_scan h]

/-- So is opening a nested class. -/
theorem openClass?_follows {s' : ClassState} {frames : List ClassFrame} {members : List ClassItem}
    {cs : List Char} (h : openClass? false ⟨frames, members, '[' :: cs⟩ cs = some s') :
    ClassState.Follows ⟨frames, members, '[' :: cs⟩ s' := by
  obtain ⟨⟨negated, hframes⟩, hmembers, -⟩ := openClass?_scan h 0
  constructor
  case marks =>
    intro x hx
    show x ∈ marksOfItems s'.members ++ _
    rw [hframes, hmembers]
    exact hx
  case rooted =>
    intro hroot
    rw [hframes]
    exact hroot.cons _
  case scan =>
    intro _ _
    show (Scan.plain (openBrackets frames)).rejects ('[' :: cs) = _
    rw [hframes, rejects_bracket, (openClass?_scan h _).2.2]
    rfl

/-- A nested class that is closed is one open bracket less. -/
theorem closeClass?_nested {s s' : ClassState} {cs : List Char}
    (h : closeClass? s cs = some (.inl s')) :
    openBrackets s.frames = openBrackets s'.frames + 1 ∧ s'.rest = cs := by
  obtain ⟨hopen, -⟩ := closeOperator_spec s.frames s.set
  unfold closeClass? at h
  split at h
  case h_1 => cases h
  case h_3 => cases h
  case h_2 hclose =>
    simp only [Option.some.injEq, Sum.inl.injEq] at h
    subst h
    rw [hclose] at hopen
    exact ⟨hopen.symm, rfl⟩

/-- Closing a nested class. -/
theorem closeClass?_follows {s s' : ClassState} {cs : List Char} (hrest : s.rest = ']' :: cs)
    (h : closeClass? s cs = some (.inl s')) : s.Follows s' := by
  obtain ⟨hopen, -⟩ := closeClass?_nested h
  obtain ⟨-, hroot, hmarks⟩ := closeOperator_spec s.frames s.set
  unfold closeClass? at h
  split at h
  case h_1 => cases h
  case h_3 => cases h
  case h_2 members negated frames set hnested hclose =>
    simp only [Option.some.injEq, Sum.inl.injEq] at h
    subst h
    rw [hclose] at hroot hmarks
    constructor
    case marks =>
      intro x hx
      simp only [ClassState.marks, List.mem_append] at hx
      rw [← ClassState.marks_set] at hx
      have hx' := hmarks x hx
      simp only [List.flatMap_cons, List.mem_append, ClassFrame.marks] at hx'
      simp only [ClassState.marks, marksOfItems, ClassItem.marks, List.mem_append]
      tauto
    case rooted =>
      -- the bracket is not the outermost one, as that would end the class
      intro h
      refine (hroot h).of_cons ?_
      rintro rfl
      exact hnested rfl
    case scan =>
      intro _ _
      rw [hopen, hrest]
      exact rejects_close _ _

/-- Closing the outermost class. -/
theorem closeClass?_scan {s : ClassState} {negated : Bool} {set : ClassSet} {cs rest : List Char}
    (hrest : s.rest = ']' :: cs) (h : closeClass? s cs = some (.inr ((negated, set), rest)))
    (hroot : Rooted s.frames) :
    rest = cs ∧ (∀ x ∈ s.marks, x ∈ set.marks) ∧
      (Scan.plain (openBrackets s.frames)).rejects s.rest = (Scan.plain 0).rejects rest := by
  obtain ⟨hopen, hkeep, hmarks⟩ := closeOperator_spec s.frames s.set
  unfold closeClass? at h
  split at h
  case h_2 => cases h
  case h_3 => cases h
  case h_1 members negated' set' hclose =>
    simp only [Option.some.injEq, Sum.inr.injEq, Prod.mk.injEq] at h
    obtain ⟨⟨rfl, rfl⟩, rfl⟩ := h
    rw [hclose] at hopen hkeep hmarks
    -- what is closed is the bracket that began the class, so no members wait outside of it
    obtain rfl : members = [] := by
      obtain ⟨above, negated, heq⟩ := hkeep hroot
      cases above with
      | nil => exact (ClassFrame.opened.inj (List.cons.inj heq).1).1
      | cons f above => simp at heq
    refine ⟨rfl, ?_, ?_⟩
    case refine_1 =>
      intro x hx
      simp only [ClassState.marks, List.mem_append] at hx
      rw [← ClassState.marks_set] at hx
      rcases hmarks x hx with hset | hframes
      · exact hset
      · cases hframes
    case refine_2 =>
      rw [← hopen, hrest]
      exact rejects_close 0 _

/-- An operator between sets is ordinary text. -/
theorem setOp?_passes {op : SetOp} {cs rest : List Char} (h : setOp? cs = some (op, rest)) :
    Passes cs rest := by
  unfold setOp? at h
  split at h
  case h_4 => cases h
  all_goals
    obtain ⟨-, rfl⟩ := Prod.mk.inj (Option.some.inj h)
    exact ((Passes.refl _).cons (by decide)).cons (by decide)

/-- An operator waits for its right side. -/
theorem setOp?_follows {s : ClassState} {op : SetOp} {rest : List Char}
    (h : setOp? s.rest = some (op, rest)) :
    s.Follows ⟨.left op (closeOperator s.frames s.set).2 :: (closeOperator s.frames s.set).1, [],
      rest⟩ := by
  obtain ⟨hopen, hroot, hmarks⟩ := closeOperator_spec s.frames s.set
  constructor
  case marks =>
    intro x hx
    simp only [ClassState.marks, List.mem_append] at hx
    rw [← ClassState.marks_set] at hx
    simp only [ClassState.marks, marksOfItems, List.nil_append, List.flatMap_cons, List.mem_append]
    exact hmarks x hx
  case rooted => exact fun h => (hroot h).cons _
  case scan =>
    intro _ _
    show _ = (Scan.plain (openBrackets (closeOperator s.frames s.set).1)).rejects rest
    rw [hopen]
    exact (setOp?_passes h).rejects _

/-- A member or a range. -/
theorem classRange?_follows {s : ClassState} {i : ClassItem} {rest : List Char}
    (h : classRange? false s.rest = some (i, rest)) (hopen : s.rest.head? ≠ some '[')
    (hclose : s.rest.head? ≠ some ']') : s.Follows ⟨s.frames, i :: s.members, rest⟩ where
  marks := fun x hx => by
    simp only [ClassState.marks, marksOfItems, List.mem_append] at hx ⊢
    tauto
  rooted := id
  scan := fun hroot hplain => by
    refine classRange?_scan h (fun x hx => hplain x ?_) hroot.openBrackets_ne_zero hopen hclose
    simp only [ClassState.marks, marksOfItems, List.mem_append]
    exact .inl (.inl hx)

/-! ## §3. A whole class. -/

/-- **A class is read to its end: the scan is back outside when the parser is.** -/
theorem classLoop?_scan {fuel : Nat} {s : ClassState} {negated : Bool} {set : ClassSet}
    {rest : List Char} (h : classLoop? false fuel s = some ((negated, set), rest))
    (hroot : Rooted s.frames) :
    (∀ x ∈ s.marks, x ∈ set.marks) ∧ ((∀ x ∈ set.marks, x.Plain) →
      (Scan.plain (openBrackets s.frames)).rejects s.rest = (Scan.plain 0).rejects rest) := by
  induction fuel generalizing s with
  | zero => cases h
  | succ fuel ih =>
      -- every round but the last is a step after which the rest of the class is read
      have hround : ∀ s', s.Follows s' → classLoop? false fuel s' = some ((negated, set), rest) →
          (∀ x ∈ s.marks, x ∈ set.marks) ∧ ((∀ x ∈ set.marks, x.Plain) →
            (Scan.plain (openBrackets s.frames)).rejects s.rest = (Scan.plain 0).rejects rest) := by
        intro s' hstep hrun
        obtain ⟨hmarks, hscan⟩ := ih hrun (hstep.rooted hroot)
        refine ⟨fun x hx => hmarks x (hstep.marks x hx), fun hplain => ?_⟩
        rw [hstep.scan hroot fun x hx => hplain x (hmarks x hx)]
        exact hscan hplain
      obtain ⟨frames, members, cs⟩ := s
      unfold classLoop? at h
      simp only [skip_false] at h
      split at h
      case h_1 => cases h
      -- an opening bracket: a class between colons, or a nested class
      case h_2 cs =>
        split at h
        case h_1 i after hposix => exact hround _ (posixClass?_follows hposix) h
        case h_2 =>
          obtain ⟨s', hopen, hrun⟩ := Option.bind_eq_some_iff.mp h
          exact hround s' (openClass?_follows hopen) hrun
      -- a closing bracket: of a nested class, or of the outermost one
      case h_3 cs =>
        split at h
        case h_1 => cases h
        case h_2 s' hclose => exact hround s' (closeClass?_follows rfl hclose) h
        case h_3 result hclose =>
          obtain rfl := Option.some.inj h
          obtain ⟨-, hmarks, hscan⟩ := closeClass?_scan rfl hclose hroot
          exact ⟨hmarks, fun _ => hscan⟩
      -- an operator, a member or a range
      case h_4 hne hopen hclose =>
        split at h
        case h_1 op rest' hop => exact hround _ (setOp?_follows hop) h
        case h_2 =>
          obtain ⟨⟨i, after⟩, hrange, hrun⟩ := Option.bind_eq_some_iff.mp h
          exact hround _ (classRange?_follows hrange (head?_ne_some hopen) (head?_ne_some hclose)) hrun

/-- **A class leaves the scan outside of all brackets.** -/
theorem bracketed?_scan {negated : Bool} {set : ClassSet} {cs rest : List Char}
    (h : bracketed? false cs = some ((negated, set), rest)) (hset : ∀ x ∈ set.marks, x.Plain) :
    (Scan.plain 0).rejects ('[' :: cs) = (Scan.plain 0).rejects rest := by
  obtain ⟨s, hopen, hrun⟩ := Option.bind_eq_some_iff.mp h
  obtain ⟨⟨negated', hframes⟩, -, hscan⟩ := openClass?_scan hopen 1
  have hroot : Rooted s.frames := ⟨[], negated', hframes⟩
  rw [rejects_bracket, hscan]
  have hend := (classLoop?_scan hrun hroot).2 hset
  rw [hframes] at hend
  exact hend

end PullTriage.Regex
