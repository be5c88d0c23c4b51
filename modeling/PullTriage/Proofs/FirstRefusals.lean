import PullTriage.Proofs.BuiltConditions
import PullTriage.Proofs.PatternLists

/-!
  PullTriage.Proofs.FirstRefusals: a list is refused as the first of its members that is refused.

      as.mapM f = .error e   ↔   FirstRefused (fun a e => f a = .error e) as e

  Patterns for a text field are refused in this way.  So are globs, but when none of them is refused,
  their set still may be, with an error that names them all (`Written.GlobsRefusal`).

  Layers:
    * §1: the first failure;
    * §2: lists of patterns.
-/

namespace PullTriage

open Json

/-! ## §1. The first failure. -/

/-- The first member of a list that is refused at all is refused with `e`. -/
def FirstRefused {α ε : Type} (refused : α → ε → Prop) (as : List α) (e : ε) : Prop :=
  ∃ before a after, as = before ++ a :: after ∧ (∀ b ∈ before, ∀ e', ¬refused b e') ∧ refused a e

section First

variable {α β ε : Type} {refused : α → ε → Prop}

/-- Of no members none is refused. -/
theorem not_firstRefused_nil (e : ε) : ¬FirstRefused refused [] e := by
  rintro ⟨before, a, after, has, -⟩
  cases before <;> cases has

/-- Either the first member is refused, or it is not and the rest decides. -/
theorem firstRefused_cons {a : α} {as : List α} {e : ε} :
    FirstRefused refused (a :: as) e ↔
      refused a e ∨ (∀ e', ¬refused a e') ∧ FirstRefused refused as e := by
  constructor
  case mp =>
    rintro ⟨before, b, after, has, hbefore, hb⟩
    cases before with
    | nil =>
        obtain ⟨rfl, -⟩ := List.cons.inj has
        exact .inl hb
    | cons c before =>
        obtain ⟨rfl, rfl⟩ := List.cons.inj has
        obtain ⟨hc, hbefore⟩ := List.forall_mem_cons.mp hbefore
        exact .inr ⟨hc, before, b, after, rfl, hbefore, hb⟩
  case mpr =>
    rintro (ha | ⟨ha, before, b, after, rfl, hbefore, hb⟩)
    · exact ⟨[], a, as, rfl, List.forall_mem_nil _, ha⟩
    · exact ⟨a :: before, b, after, rfl, List.forall_mem_cons.mpr ⟨ha, hbefore⟩, hb⟩

/-- Some member of a list is the first to be refused, unless none is refused at all. -/
theorem forall_not_firstRefused_iff {as : List α} :
    (∀ e, ¬FirstRefused refused as e) ↔ ∀ a ∈ as, ∀ e, ¬refused a e := by
  induction as with
  | nil => exact iff_of_true not_firstRefused_nil fun _ h => nomatch h
  | cons a as ih =>
      simp only [firstRefused_cons, List.forall_mem_cons, ← ih]
      constructor
      · intro h
        have ha : ∀ e, ¬refused a e := fun e he => h e (.inl he)
        exact ⟨ha, fun e he => h e (.inr ⟨ha, he⟩)⟩
      · rintro ⟨ha, has⟩ e (he | ⟨-, he⟩)
        · exact ha e he
        · exact has e he

/-- Results in a row fail with the error of the first of them that fails. -/
theorem mapM_eq_error_iff {f : α → Except ε β} {as : List α} {e : ε} :
    as.mapM f = .error e ↔ FirstRefused (fun a e => f a = .error e) as e := by
  induction as with
  | nil => exact iff_of_false (fun h => nomatch h) (not_firstRefused_nil e)
  | cons a as ih =>
      rw [mapM_cons_eq, firstRefused_cons, ← ih]
      cases f a with
      | error e' => simp [Except.bind]
      | ok b => cases as.mapM f <;> simp [Except.bind, Except.map]

theorem except_map_eq_error_iff {f : α → β} {r : Except ε α} {e : ε} :
    r.map f = .error e ↔ r = .error e := by
  cases r <;> simp [Except.map]

theorem except_exists_ok_iff {r : Except ε α} : (∃ a, r = .ok a) ↔ ∀ e, r ≠ .error e := by
  cases r <;> simp

end First

/-! ## §2. Lists of patterns. -/

namespace Written

/-- A configuration that lists patterns: a string, or a list of strings. -/
inductive Patterns : Value → List String → Prop where
  | one (w : String) : Patterns (.string w) [w]
  | list (ws : List String) : Patterns (.array (ws.map .string)) ws

/-- Why globs are refused: one of them does not compile, or they cannot be used together. -/
inductive GlobsRefusal (ws : List String) : RuleError → Prop where
  | glob {e : RuleError} (first : FirstRefused (fun w e => PathGlob.compile w = .error e) ws e) :
      GlobsRefusal ws e
  | together {p : Glob.CombinationProblem} (each : ∀ w ∈ ws, ∀ e, PathGlob.compile w ≠ .error e)
      (problem : PathGlobs.combinationProblem? ws = some p) :
      GlobsRefusal ws (.invalidGlob (", ".intercalate ws) p.message)

end Written

/-- Values that all are strings are the strings of a list. -/
theorem mapM_string?_eq_some_iff {items : List Value} {ws : List String} :
    items.mapM Value.string? = some ws ↔ items = ws.map .string := by
  induction items generalizing ws with
  | nil => cases ws <;> simp
  | cons v items ih =>
      simp only [List.mapM_cons, Option.bind_eq_bind, Option.bind_eq_some_iff, Option.pure_def,
        Option.some.injEq, ih]
      constructor
      case mp =>
        rintro ⟨w, hw, us, rfl, rfl⟩
        cases v <;> simp_all [Value.string?]
      case mpr =>
        intro h
        cases ws with
        | nil => cases h
        | cons w us =>
            obtain ⟨rfl, rfl⟩ := List.cons.inj h
            exact ⟨w, rfl, us, rfl, rfl⟩

/-- The patterns that are read are those that are listed. -/
theorem Builder.patternList?_eq_some_iff {v : Value} {ws : List String} :
    Builder.patternList? v = some ws ↔ Written.Patterns v ws := by
  constructor
  case mp =>
    intro h
    cases v with
    | string w =>
        obtain rfl := Option.some.inj h
        exact .one w
    | array items =>
        obtain rfl := mapM_string?_eq_some_iff.mp h
        exact .list ws
    | _ => cases h
  case mpr =>
    rintro (w | ws)
    · rfl
    · exact mapM_string?_eq_some_iff.mpr rfl

/-- A list of patterns fails with the error of the first that does not compile. -/
theorem TextPatterns.ofStrings_eq_error_iff {ws : List String} {e : RuleError} :
    TextPatterns.ofStrings ws = .error e ↔
      FirstRefused (fun w e => TextPattern.compile w = .error e) ws e := by
  have hone : ∀ w e, TextPattern.ofString w = .error e ↔ TextPattern.compile w = .error e := by
    intro w e
    unfold TextPattern.ofString
    split
    case h_1 r h => simp [h]
    case h_2 e' h => simp [h]
  unfold TextPatterns.ofStrings
  simp only [except_map_eq_error_iff, mapM_eq_error_iff, hone]

/-- Globs fail to compile with the error of the first that does. -/
theorem PathGlob.mapM_ofString_eq_error_iff {ws : List String} {e : RuleError} :
    ws.mapM PathGlob.ofString = .error e ↔
      FirstRefused (fun w e => PathGlob.compile w = .error e) ws e := by
  have hone : ∀ w e, PathGlob.ofString w = .error e ↔ PathGlob.compile w = .error e := by
    intro w e
    unfold PathGlob.ofString
    split
    case h_1 g h => simp [h]
    case h_2 e' h => simp [h]
  simp only [mapM_eq_error_iff, hone]

/-- All globs compile if none of them has an error. -/
theorem PathGlob.all_compile_iff {ws : List String} :
    (ws.all fun w => (PathGlob.compile w).isOk) = true ↔
      ∀ w ∈ ws, ∀ e, PathGlob.compile w ≠ .error e := by
  simp only [List.all_eq_true, except_isOk_iff, except_exists_ok_iff]

/-- A list of globs fails with the error of the first that does not compile; if all of them do, it
fails when they cannot be used together. -/
theorem PathGlobs.ofStrings_eq_error_iff {ws : List String} {e : RuleError} :
    PathGlobs.ofStrings ws = .error e ↔ Written.GlobsRefusal ws e := by
  constructor
  case mp =>
    intro h
    cases hglobs : ws.mapM PathGlob.ofString with
    | error e' =>
        rw [PathGlobs.ofStrings_eq, hglobs] at h
        obtain rfl := Except.error.inj h
        exact .glob (PathGlob.mapM_ofString_eq_error_iff.mp hglobs)
    | ok globs =>
        -- each glob compiles, so only their combination is left to fail
        have hall : (ws.all fun w => (PathGlob.compile w).isOk) = true := by
          simp only [← PathGlob.isOk_ofString, ← isOk_mapM, hglobs]
          rfl
        have hok := PathGlobs.isOk_ofStrings ws
        cases hp : PathGlobs.combinationProblem? ws with
        | none =>
            rw [h, hall, hp] at hok
            cases hok
        | some p =>
            rw [PathGlobs.ofStrings_of_problem hall hp] at h
            obtain rfl := Except.error.inj h
            exact .together (PathGlob.all_compile_iff.mp hall) hp
  case mpr =>
    rintro (hfirst | ⟨heach, hp⟩)
    · rw [PathGlobs.ofStrings_eq, PathGlob.mapM_ofString_eq_error_iff.mpr hfirst]
      rfl
    · exact PathGlobs.ofStrings_of_problem (PathGlob.all_compile_iff.mpr heach) hp

/-- A pattern or glob that does not compile is too long or not well formed. -/
theorem TextPattern.compile_error {w : String} {e : RuleError} (h : compile w = .error e) :
    (∃ n most, e = .patternTooLong n most) ∨ ∃ p reason, e = .invalidPattern p reason := by
  unfold compile at h
  dsimp only at h
  split at h
  case isTrue => exact .inl ⟨_, _, (Except.error.inj h).symm⟩
  split at h
  case isTrue => exact .inr ⟨_, _, (Except.error.inj h).symm⟩
  split at h
  case h_1 => cases h
  case h_2 => exact .inr ⟨_, _, (Except.error.inj h).symm⟩

theorem PathGlob.compile_error {w : String} {e : RuleError} (h : compile w = .error e) :
    (∃ n most, e = .patternTooLong n most) ∨ ∃ g reason, e = .invalidGlob g reason := by
  unfold compile at h
  split at h
  case isTrue => exact .inl ⟨_, _, (Except.error.inj h).symm⟩
  split at h
  case h_1 => cases h
  case h_2 => exact .inr ⟨_, _, (Except.error.inj h).symm⟩

end PullTriage
