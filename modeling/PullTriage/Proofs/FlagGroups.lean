import PullTriage.Proofs.CaseBlind

/-!
  PullTriage.Proofs.FlagGroups: which flags are in force at which part of a pattern.

  Flags change from left to right through a pattern and back at the end of a group.  `Ast.modes` lists
  the flags in force at every part.  A pattern is read without regard to case throughout exactly when no
  flag group in it has an `i` after its minus sign, and then every set in its meaning is case-blind:

      a.restoresCase = false  ↔  ∀ m' ∈ a.modes m, m'.ignoreCase        (for m.ignoreCase)
      (∀ m' ∈ a.modes m, m'.ignoreCase) → a.meaning? m = some (p, m') → ∀ t ∈ p.steps, t.CaseBlind

  `Ast.marks` collects what a pattern holds besides characters and operators: flag groups, group names,
  property names and ranges.
-/

namespace PullTriage.Regex

open Unicode (CharSet)

/-! ## §1. What a pattern holds. -/

/-- The flag stands before the minus sign of a flag group, or there is no such sign. -/
def FlagItem.turnsOn (items : List FlagItem) (f : Flag) : Bool :=
  decide (.flag f ∈ items.takeWhile (· ≠ .minus))

/-- The flag stands after the minus sign of a flag group. -/
def FlagItem.turnsOff (items : List FlagItem) (f : Flag) : Bool :=
  decide (.flag f ∈ items.dropWhile (· ≠ .minus))

/-- A part of a pattern that is written in words or signs of its own. -/
inductive Mark where
  | flags (items : List FlagItem)
  | name (n : String)
  | property (q : PropertyQuery)
  | range (low high : Literal)

/-- Whether a part of a pattern turns the flag `i` off. -/
def Mark.restoresCase : Mark → Bool
  | .flags items => FlagItem.turnsOff items .ignoreCase
  | _ => false

mutual

/-- The ranges and property names in a member of a class. -/
def ClassItem.marks : ClassItem → List Mark
  | .range low high => [.range low high]
  | .property _ q => [.property q]
  | .bracketed _ set => set.marks
  | .literal _ => []
  | .posix _ _ => []
  | .shorthand _ _ => []

/-- The ranges and property names in a class. -/
def ClassSet.marks : ClassSet → List Mark
  | .items members => marksOfItems members
  | .binary _ left right => left.marks ++ right.marks

/-- The ranges and property names in the members of a class. -/
def marksOfItems : List ClassItem → List Mark
  | [] => []
  | i :: rest => i.marks ++ marksOfItems rest

end

/-- The name or the flags of a group. -/
def GroupKind.marks : GroupKind → List Mark
  | .capture => []
  | .named n => [.name n]
  | .flags items => [.flags items]

mutual

/-- The flag groups, group names, property names and ranges of a pattern. -/
def Ast.marks : Ast → List Mark
  | .flags items => [.flags items]
  | .property _ q => [.property q]
  | .bracketed _ set => set.marks
  | .repetition body _ _ => body.marks
  | .group kind body => kind.marks ++ body.marks
  | .alternation branches => marksOfList branches
  | .concat parts => marksOfList parts
  | .empty => []
  | .literal _ => []
  | .dot => []
  | .assertion _ => []
  | .shorthand _ _ => []

/-- The flag groups, group names, property names and ranges of several patterns. -/
def marksOfList : List Ast → List Mark
  | [] => []
  | a :: rest => a.marks ++ marksOfList rest

end

/-- Whether a flag group of the pattern turns the flag `i` off. -/
def Ast.restoresCase (a : Ast) : Bool := a.marks.any Mark.restoresCase

/-! ## §2. The flags in force. -/

/-- The flags at the beginning of a group's body. -/
def GroupKind.inner (m : Mode) : GroupKind → Mode
  | .flags items => m.apply items
  | .capture => m
  | .named _ => m

mutual

/-- The flags for what follows a pattern in its group. -/
def Ast.modeAfter (m : Mode) : Ast → Mode
  | .flags items => m.apply items
  | .repetition body _ _ => body.modeAfter m
  | .alternation branches => modeAfterList m branches
  | .concat parts => modeAfterList m parts
  | _ => m

/-- The flags for what follows several patterns. -/
def modeAfterList (m : Mode) : List Ast → Mode
  | [] => m
  | a :: rest => modeAfterList (a.modeAfter m) rest

end

mutual

/-- The flags in force at the parts of a pattern, each flag group followed by the flags it leaves. -/
def Ast.modes (m : Mode) : Ast → List Mode
  | .flags items => [m.apply items]
  | .repetition body _ _ => body.modes m
  | .group kind body => kind.inner m :: body.modes (kind.inner m)
  | .alternation branches => modesOfList m branches
  | .concat parts => modesOfList m parts
  | _ => [m]

/-- The flags in force at the parts of patterns that follow one another. -/
def modesOfList (m : Mode) : List Ast → List Mode
  | [] => []
  | a :: rest => a.modes m ++ modesOfList (a.modeAfter m) rest

end

/-- No part of a pattern is read with regard to case, if the flags before it are `m`. -/
def Ast.IgnoresCase (m : Mode) (a : Ast) : Prop := ∀ m' ∈ a.modes m, m'.ignoreCase = true

/-! ### A flag group and the flag `i`. -/

/-- Setting a flag changes whether case counts only if it is the flag for that. -/
theorem Mode.ignoreCase_set (m : Mode) (on : Bool) (f : Flag) :
    (m.set on f).ignoreCase = if f = .ignoreCase then on else m.ignoreCase := by
  cases f <;> rfl

/-- After the minus sign, an `i` turns case back on and nothing else touches it. -/
theorem Mode.ignoreCase_go_false (items : List FlagItem) :
    ∀ m : Mode, (Mode.apply.go false m items).ignoreCase
      = (m.ignoreCase && !decide (.flag .ignoreCase ∈ items)) := by
  induction items with
  | nil =>
      intro m
      simp [Mode.apply.go]
  | cons item rest ih =>
      intro m
      cases item with
      | minus => simp [Mode.apply.go, ih]
      | flag f =>
          rw [Mode.apply.go, ih, Mode.ignoreCase_set]
          -- behind the minus sign `i` turns case on for good, and any other flag leaves it
          by_cases hf : f = .ignoreCase
          · simp [hf]
          · have hf' : Flag.ignoreCase ≠ f := fun e => hf e.symm
            simp [hf, hf']

/-- Where case does not count, a flag group keeps it so unless it has an `i` after its minus sign. -/
theorem Mode.ignoreCase_apply (items : List FlagItem) :
    ∀ {m : Mode}, m.ignoreCase = true →
      (m.apply items).ignoreCase = !FlagItem.turnsOff items .ignoreCase := by
  show ∀ {m : Mode}, m.ignoreCase = true → (Mode.apply.go true m items).ignoreCase = _
  unfold FlagItem.turnsOff
  induction items with
  | nil =>
      intro m hm
      simp [Mode.apply.go, hm]
  | cons item rest ih =>
      intro m hm
      cases item with
      | minus =>
          rw [Mode.apply.go, Mode.ignoreCase_go_false, hm]
          simp
      | flag f =>
          have hset : (m.set true f).ignoreCase = true := by
            rw [Mode.ignoreCase_set, hm]
            exact ite_self true
          rw [Mode.apply.go, ih hset]
          simp

/-! ## §3. Case is ignored everywhere unless a flag group turns `i` off. -/

/-- A group restores case by its own flags or inside. -/
theorem Ast.restoresCase_group (kind : GroupKind) (body : Ast) :
    (Ast.group kind body).restoresCase
      = (kind.marks.any Mark.restoresCase || body.restoresCase) := by
  show (kind.marks ++ body.marks).any Mark.restoresCase = _
  rw [List.any_append]
  rfl

mutual

/-- A member of a class has no flags. -/
theorem ClassItem.restoresCase_marks :
    ∀ i : ClassItem, i.marks.any Mark.restoresCase = false
  | .range _ _ => rfl
  | .property _ _ => rfl
  | .bracketed _ set => ClassSet.restoresCase_marks set
  | .literal _ => rfl
  | .posix _ _ => rfl
  | .shorthand _ _ => rfl

/-- A class holds no flag group. -/
theorem ClassSet.restoresCase_marks :
    ∀ set : ClassSet, set.marks.any Mark.restoresCase = false
  | .items members => restoresCase_marksOfItems members
  | .binary _ left right => by
      rw [ClassSet.marks, List.any_append, ClassSet.restoresCase_marks left,
        ClassSet.restoresCase_marks right]
      rfl

/-- Nor have several. -/
theorem restoresCase_marksOfItems :
    ∀ members : List ClassItem, (marksOfItems members).any Mark.restoresCase = false
  | [] => rfl
  | i :: rest => by
      rw [marksOfItems, List.any_append, ClassItem.restoresCase_marks i,
        restoresCase_marksOfItems rest]
      rfl

end

/-- Inside a group case still does not count, unless its flags say so. -/
theorem GroupKind.ignoreCase_inner (kind : GroupKind) {m : Mode} (hm : m.ignoreCase = true) :
    (kind.inner m).ignoreCase = !kind.marks.any Mark.restoresCase := by
  cases kind with
  | capture => simpa [GroupKind.inner, GroupKind.marks] using hm
  | named n => simpa [GroupKind.inner, GroupKind.marks, Mark.restoresCase] using hm
  | flags items =>
      show (m.apply items).ignoreCase = _
      rw [Mode.ignoreCase_apply items hm]
      simp [GroupKind.marks, Mark.restoresCase]

mutual

/-- The flags after a pattern ignore case if those before it do and no flag group turns `i` off. -/
theorem Ast.ignoreCase_modeAfter {m : Mode} (hm : m.ignoreCase = true) :
    ∀ a : Ast, a.restoresCase = false → (a.modeAfter m).ignoreCase = true
  | .flags items, h => by
      show (m.apply items).ignoreCase = true
      rw [Mode.ignoreCase_apply items hm]
      simpa [Ast.restoresCase, Ast.marks, Mark.restoresCase] using h
  | .repetition body _ _, h => Ast.ignoreCase_modeAfter hm body h
  | .alternation branches, h => ignoreCase_modeAfterList hm branches h
  | .concat parts, h => ignoreCase_modeAfterList hm parts h
  | .group _ _, _ => hm
  | .empty, _ => hm
  | .literal _, _ => hm
  | .dot, _ => hm
  | .assertion _, _ => hm
  | .shorthand _ _, _ => hm
  | .property _ _, _ => hm
  | .bracketed _ _, _ => hm

/-- The same behind several trees in a row. -/
theorem ignoreCase_modeAfterList {m : Mode} (hm : m.ignoreCase = true) :
    ∀ as : List Ast, (marksOfList as).any Mark.restoresCase = false →
      (modeAfterList m as).ignoreCase = true
  | [], _ => hm
  | a :: rest, h => by
      rw [marksOfList, List.any_append, Bool.or_eq_false_iff] at h
      exact ignoreCase_modeAfterList (Ast.ignoreCase_modeAfter hm a h.1) rest h.2

end

mutual

/-- Under flags that ignore case, no part of a pattern is read with regard to case exactly when no flag
group of it has an `i` after the minus sign. -/
theorem Ast.ignoresCase_iff {m : Mode} (hm : m.ignoreCase = true) :
    ∀ a : Ast, a.IgnoresCase m ↔ a.restoresCase = false
  | .flags items => by
      show (∀ m' ∈ [m.apply items], m'.ignoreCase = true) ↔ _
      rw [List.forall_mem_singleton, Mode.ignoreCase_apply items hm]
      simp [Ast.restoresCase, Ast.marks, Mark.restoresCase]
  | .repetition body _ _ => Ast.ignoresCase_iff hm body
  | .alternation branches => modesOfList_ignoreCase_iff hm branches
  | .concat parts => modesOfList_ignoreCase_iff hm parts
  | .group kind body => by
      show (∀ m' ∈ kind.inner m :: body.modes (kind.inner m), m'.ignoreCase = true) ↔ _
      rw [List.forall_mem_cons, Ast.restoresCase_group, Bool.or_eq_false_iff,
        kind.ignoreCase_inner hm, Bool.not_eq_true']
      -- the flags of the group itself decide what its body starts with
      refine and_congr_right fun hkind => ?_
      have hinner : (kind.inner m).ignoreCase = true := by
        rw [kind.ignoreCase_inner hm, hkind]
        rfl
      exact Ast.ignoresCase_iff hinner body
  | .empty => by simp [Ast.IgnoresCase, Ast.modes, Ast.restoresCase, Ast.marks, hm]
  | .literal _ => by simp [Ast.IgnoresCase, Ast.modes, Ast.restoresCase, Ast.marks, hm]
  | .dot => by simp [Ast.IgnoresCase, Ast.modes, Ast.restoresCase, Ast.marks, hm]
  | .assertion _ => by simp [Ast.IgnoresCase, Ast.modes, Ast.restoresCase, Ast.marks, hm]
  | .shorthand _ _ => by simp [Ast.IgnoresCase, Ast.modes, Ast.restoresCase, Ast.marks, hm]
  | .property _ _ => by
      simp [Ast.IgnoresCase, Ast.modes, Ast.restoresCase, Ast.marks, Mark.restoresCase, hm]
  | .bracketed _ set => by
      have hset : set.marks.any Mark.restoresCase = false := ClassSet.restoresCase_marks set
      simp [Ast.IgnoresCase, Ast.modes, Ast.restoresCase, Ast.marks, hset, hm]

/-- The same for the modes inside several trees. -/
theorem modesOfList_ignoreCase_iff {m : Mode} (hm : m.ignoreCase = true) :
    ∀ as : List Ast, (∀ m' ∈ modesOfList m as, m'.ignoreCase = true)
      ↔ (marksOfList as).any Mark.restoresCase = false
  | [] => by simp [modesOfList, marksOfList]
  | a :: rest => by
      rw [modesOfList, marksOfList, List.forall_mem_append, List.any_append, Bool.or_eq_false_iff,
        ← Ast.restoresCase, ← Ast.IgnoresCase, Ast.ignoresCase_iff hm a]
      exact and_congr_right fun ha =>
        modesOfList_ignoreCase_iff (Ast.ignoreCase_modeAfter hm a ha) rest

end

/-! ## §4. The sets in the meaning of a pattern. -/

/-- Where case does not count, folding makes a set case-blind. -/
theorem Mode.caseBlind_fold {m : Mode} (hm : m.ignoreCase = true) (a : CharSet) :
    (m.fold a).CaseBlind := by
  unfold Mode.fold
  rw [if_pos hm]
  split
  · exact .foldCase a
  · exact .foldAsciiCase a

/-- So does folding before negating. -/
theorem Mode.caseBlind_foldAndNegate {m : Mode} (hm : m.ignoreCase = true) {negated : Bool}
    {a b : CharSet} (h : m.foldAndNegate? negated a = some b) : b.CaseBlind := by
  have hresult : (if negated then CharSet.compl (m.fold a) else m.fold a).CaseBlind := by
    split
    · exact (Mode.caseBlind_fold hm a).compl
    · exact Mode.caseBlind_fold hm a
  unfold Mode.foldAndNegate? at h
  dsimp only at h
  -- without Unicode the set is cut down to what lies below U+0080
  generalize (if negated then CharSet.compl (m.fold a) else m.fold a) = result at h hresult
  split at h
  · cases h
    exact hresult
  · split at h
    · cases h
      exact CharSet.CaseBlind.ascii.inter hresult
    · cases h

/-- The set of a shorthand is case-blind, folded or not. -/
theorem caseBlind_shorthandSet {m : Mode} {negated : Bool} {s : Unicode.Shorthand} {a : CharSet}
    (h : shorthandSet? m negated s = some a) : a.CaseBlind := by
  unfold shorthandSet? at h
  split at h
  · split at h <;> cases h
    · exact (CharSet.CaseBlind.shorthand s).compl
    · exact .shorthand s
  · split at h <;> cases h
    exact .asciiShorthand s

/-- So is that of a property, where case does not count. -/
theorem caseBlind_propertySet {m : Mode} (hm : m.ignoreCase = true) {negated : Bool}
    {q : PropertyQuery} {a : CharSet} (h : propertySet? m negated q = some a) : a.CaseBlind := by
  unfold propertySet? at h
  split at h
  · obtain ⟨b, -, hb⟩ := Option.bind_eq_some_iff.mp h
    exact Mode.caseBlind_foldAndNegate hm hb
  · cases h

/-- So is that of the dot. -/
theorem caseBlind_dotSet {m : Mode} {a : CharSet} (h : dotSet? m = some a) : a.CaseBlind := by
  -- the ends of lines, which a dot may leave out, are no letters
  have hLF : (CharSet.single 0x0A).CaseBlind := .range (by omega)
  have hCR : (CharSet.single 0x0D).CaseBlind := .range (by omega)
  unfold dotSet? at h
  split at h
  · cases h
  · split at h
    · cases h
      exact .full
    · split at h <;> cases h
      · exact (hLF.union hCR).compl
      · exact hLF.compl

mutual

/-- The meaning of a pattern leaves the flags of `Ast.modeAfter`, and all its sets are case-blind if no
part of the pattern is read with regard to case. -/
theorem Ast.caseBlind_meaning {m m' : Mode} {p : CharPattern} :
    ∀ a : Ast, a.meaning? m = some (p, m') →
      m' = a.modeAfter m ∧ (a.IgnoresCase m → ∀ t ∈ p.steps, t.CaseBlind)
  | .empty, h => by
      simp only [Ast.meaning?, Option.some.injEq, Prod.mk.injEq] at h
      obtain ⟨rfl, rfl⟩ := h
      exact ⟨rfl, fun _ t ht => nomatch ht⟩
  | .flags items, h => by
      simp only [Ast.meaning?, Option.some.injEq, Prod.mk.injEq] at h
      obtain ⟨rfl, rfl⟩ := h
      exact ⟨rfl, fun _ t ht => nomatch ht⟩
  | .assertion _, h => by
      simp only [Ast.meaning?, Option.some.injEq, Prod.mk.injEq] at h
      obtain ⟨rfl, rfl⟩ := h
      exact ⟨rfl, fun _ t ht => nomatch ht⟩
  | .literal l, h => by
      simp only [Ast.meaning?, Option.bind_eq_bind, Option.bind_eq_some_iff, Option.pure_def,
        Option.some.injEq, Prod.mk.injEq] at h
      obtain ⟨code, -, rfl, rfl⟩ := h
      refine ⟨rfl, fun hm => List.forall_mem_singleton.mpr ?_⟩
      exact Mode.caseBlind_fold (hm m List.mem_cons_self) _
  | .dot, h => by
      simp only [Ast.meaning?, Option.bind_eq_bind, Option.bind_eq_some_iff, Option.pure_def,
        Option.some.injEq, Prod.mk.injEq] at h
      obtain ⟨a, ha, rfl, rfl⟩ := h
      exact ⟨rfl, fun _ => List.forall_mem_singleton.mpr (caseBlind_dotSet ha)⟩
  | .shorthand _ _, h => by
      simp only [Ast.meaning?, Option.bind_eq_bind, Option.bind_eq_some_iff, Option.pure_def,
        Option.some.injEq, Prod.mk.injEq] at h
      obtain ⟨a, ha, rfl, rfl⟩ := h
      exact ⟨rfl, fun _ => List.forall_mem_singleton.mpr (caseBlind_shorthandSet ha)⟩
  | .property _ _, h => by
      simp only [Ast.meaning?, Option.bind_eq_bind, Option.bind_eq_some_iff, Option.pure_def,
        Option.some.injEq, Prod.mk.injEq] at h
      obtain ⟨a, ha, rfl, rfl⟩ := h
      refine ⟨rfl, fun hm => List.forall_mem_singleton.mpr ?_⟩
      exact caseBlind_propertySet (hm m List.mem_cons_self) ha
  | .bracketed _ _, h => by
      simp only [Ast.meaning?, Option.bind_eq_bind, Option.bind_eq_some_iff, Option.pure_def,
        Option.some.injEq, Prod.mk.injEq] at h
      obtain ⟨set, -, a, ha, rfl, rfl⟩ := h
      refine ⟨rfl, fun hm => List.forall_mem_singleton.mpr ?_⟩
      exact Mode.caseBlind_foldAndNegate (hm m List.mem_cons_self) ha
  | .repetition body least most, h => by
      simp only [Ast.meaning?, Option.bind_eq_bind, Option.bind_eq_some_iff, Option.pure_def,
        Option.some.injEq, Prod.mk.injEq] at h
      obtain ⟨⟨q, m₁⟩, hbody, rfl, rfl⟩ := h
      obtain ⟨hmode, hblind⟩ := Ast.caseBlind_meaning body hbody
      refine ⟨hmode, fun hm => ?_⟩
      rw [Pattern.steps_repeatedTimes]
      exact hblind hm
  | .group kind body, h => by
      simp only [Ast.meaning?, Option.bind_eq_bind, Option.bind_eq_some_iff, Option.pure_def,
        Option.some.injEq, Prod.mk.injEq] at h
      obtain ⟨⟨q, m₁⟩, hbody, rfl, rfl⟩ := h
      have hinner : body.meaning? (kind.inner m) = some (q, m₁) := by
        cases kind <;> exact hbody
      -- the flags that are set inside a group end with it
      obtain ⟨-, hblind⟩ := Ast.caseBlind_meaning body hinner
      exact ⟨rfl, fun hm => hblind fun m' hm' => hm m' (List.mem_cons_of_mem _ hm')⟩
  | .alternation branches, h => by
      simp only [Ast.meaning?, Option.bind_eq_bind, Option.bind_eq_some_iff, Option.pure_def,
        Option.some.injEq, Prod.mk.injEq] at h
      obtain ⟨⟨qs, m₁⟩, hbranches, rfl, rfl⟩ := h
      obtain ⟨hmode, hblind⟩ := caseBlind_meanings branches hbranches
      refine ⟨hmode, fun hm t ht => ?_⟩
      obtain ⟨q, hq, htq⟩ := mem_steps_alternatives.mp ht
      exact hblind hm q hq t htq
  | .concat parts, h => by
      simp only [Ast.meaning?, Option.bind_eq_bind, Option.bind_eq_some_iff, Option.pure_def,
        Option.some.injEq, Prod.mk.injEq] at h
      obtain ⟨⟨qs, m₁⟩, hparts, rfl, rfl⟩ := h
      obtain ⟨hmode, hblind⟩ := caseBlind_meanings parts hparts
      refine ⟨hmode, fun hm t ht => ?_⟩
      obtain ⟨q, hq, htq⟩ := Pattern.mem_steps_ofList.mp ht
      exact hblind hm q hq t htq

/-- The same for trees in a row. -/
theorem caseBlind_meanings {m m' : Mode} {ps : List CharPattern} :
    ∀ as : List Ast, meanings? m as = some (ps, m') →
      m' = modeAfterList m as ∧ ((∀ m₁ ∈ modesOfList m as, m₁.ignoreCase = true) →
        ∀ p ∈ ps, ∀ t ∈ p.steps, t.CaseBlind)
  | [], h => by
      simp only [meanings?, Option.some.injEq, Prod.mk.injEq] at h
      obtain ⟨rfl, rfl⟩ := h
      exact ⟨rfl, fun _ p hp => nomatch hp⟩
  | a :: rest, h => by
      simp only [meanings?, Option.bind_eq_bind, Option.bind_eq_some_iff, Option.pure_def,
        Option.some.injEq, Prod.mk.injEq] at h
      obtain ⟨⟨q, m₁⟩, ha, ⟨qs, m₂⟩, hrest, rfl, rfl⟩ := h
      obtain ⟨rfl, hblind⟩ := Ast.caseBlind_meaning a ha
      obtain ⟨hmode, hblinds⟩ := caseBlind_meanings rest hrest
      refine ⟨hmode, fun hm => ?_⟩
      rw [modesOfList, List.forall_mem_append] at hm
      exact List.forall_mem_cons.mpr ⟨hblind hm.1, hblinds hm.2⟩

end

end PullTriage.Regex
