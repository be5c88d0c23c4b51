import PullTriage.Proofs.BuiltConditions
import PullTriage.Proofs.DistinctKeys
import PullTriage.Proofs.FirstMatch
import PullTriage.Proofs.PatternLists

/-!
  PullTriage.Proofs.WrittenConditions: what an entry of a document means by itself.

  `Written` reads a document without compiling it: it says by recursion on the value alone which entries
  are valid and which of them hold of a pull request.  For an entry that is no composite this is what
  building it and asking the condition comes to:

      b.make pr scope v = expected (valid v) (holds pr v)

  where `make` builds the condition and asks it, and `expected` is the answer, if the entry is valid.

  Layers:
    * §1: validity and truth of what is written;
    * §2: lists of strings;
    * §3: single conditions.
-/

namespace PullTriage

open Json

/-! ## §1. Validity and truth of what is written. -/

namespace Written

/-- The value is a string or a list of strings, and all of them pass a test. -/
def everyString (test : String → Bool) : Value → Bool
  | .string s => test s
  | .array items => items.all fun v => v.string?.any test
  | _ => false

/-- One of the strings of a value passes a test. -/
def someString (test : String → Bool) : Value → Bool
  | .string s => test s
  | .array items => items.any fun v => v.string?.any test
  | _ => false

/-- The strings of a value that is a string or a list. -/
def strings : Value → List String
  | .string s => [s]
  | .array items => items.filterMap Value.string?
  | _ => []

/-- Patterns for a text field: all of them have to compile. -/
def textValid (v : Value) : Bool := everyString (fun w => (TextPattern.compile w).isOk) v

/-- One of the patterns is found in the field. -/
def textHolds (pr : PullRequest) (f : TextField) (v : Value) : Bool :=
  someString (TextPattern.finds (f.read pr)) v

/-- Globs for the changed files: all of them have to compile and to go together. -/
def filesValid (v : Value) : Bool :=
  everyString (fun w => (PathGlob.compile w).isOk) v &&
    (PathGlobs.combinationProblem? (strings v)).isNone

/-- One of the globs matches a changed file. -/
def filesHold (pr : PullRequest) (v : Value) : Bool :=
  someString (fun w => pr.changedFiles.any (PathGlob.covers · w)) v

/-- A map in which whatever stands under the key of a text field is valid. -/
def orValid : Value → Bool
  | .object entries => entries.all fun e => (TextField.ofKey? e.1).all fun _ => textValid e.2
  | _ => false

/-- What stands under the key of one of the text fields holds. -/
def orHolds (pr : PullRequest) : Value → Bool
  | .object entries => entries.any fun e => (TextField.ofKey? e.1).any fun f => textHolds pr f e.2
  | _ => false

/-- Whether an entry that is no composite is valid. -/
def leafValid (key : String) (v : Value) : Bool :=
  if key = "or" then orValid v
  else if key = "changed-files" then filesValid v
  else (TextField.ofKey? key).any fun _ => textValid v

/-- Whether a valid entry that is no composite holds. -/
def leafHolds (pr : PullRequest) (key : String) (v : Value) : Bool :=
  if key = "or" then orHolds pr v
  else if key = "changed-files" then filesHold pr v
  else (TextField.ofKey? key).any fun f => textHolds pr f v

/-- The valid entries of the maps in a list, composites apart. -/
def members : Value → List (String × Value)
  | .array items => ((items.filterMap Value.object?).flatten).filter fun e => leafValid e.1 e.2
  | _ => []

/-- Whether an entry of a group is valid; a composite has between 1 and 256 members. -/
def entryValid (key : String) (v : Value) : Bool :=
  if key = "all" ∨ key = "any" then 1 ≤ (members v).length && (members v).length ≤ 256
  else leafValid key v

/-- Whether a valid entry of a group holds. -/
def entryHolds (pr : PullRequest) (key : String) (v : Value) : Bool :=
  if key = "all" then (members v).all fun e => leafHolds pr e.1 e.2
  else if key = "any" then (members v).any fun e => leafHolds pr e.1 e.2
  else leafHolds pr key v

/-- A group holds if it has a valid entry and all its valid entries hold. -/
def groupHolds (pr : PullRequest) : Value → Bool
  | .object entries =>
    (entries.any fun e => entryValid e.1 e.2) &&
      entries.all fun e => !entryValid e.1 e.2 || entryHolds pr e.1 e.2
  | _ => false

/-- What stands under a label is a list with a group that holds. -/
def labelHolds (pr : PullRequest) : Value → Bool
  | .array groups => groups.any (groupHolds pr)
  | _ => false

/-- The labels that the entries of a document give to a pull request. -/
def labels (pr : PullRequest) (entries : List (String × Value)) : List String :=
  (entries.filter fun e => labelHolds pr e.2).map Prod.fst

end Written

/-! ## §2. Lists of strings. -/

namespace Written

/-- Of values that all are strings, those that pass a test are the strings that do. -/
theorem string?_mapM_spec {test : String → Bool} (items : List Value) :
    ∀ {ws : List String}, items.mapM Value.string? = some ws →
      (items.all fun v => v.string?.any test) = ws.all test ∧
        (items.any fun v => v.string?.any test) = ws.any test := by
  induction items with
  | nil =>
      intro ws h
      rw [← Option.some.inj h]
      exact ⟨rfl, rfl⟩
  | cons v items ih =>
      intro ws h
      rw [List.mapM_cons] at h
      simp only [Option.bind_eq_bind, Option.bind_eq_some_iff, Option.pure_def,
        Option.some.injEq] at h
      obtain ⟨w, hw, ws', hws', rfl⟩ := h
      obtain ⟨hall, hany⟩ := ih hws'
      rw [List.all_cons, List.any_cons, hall, hany, hw]
      exact ⟨rfl, rfl⟩

/-- If not all of them are strings, not all pass. -/
theorem string?_mapM_none {test : String → Bool} (items : List Value)
    (h : items.mapM Value.string? = none) : (items.all fun v => v.string?.any test) = false := by
  induction items with
  | nil => cases h
  | cons v items ih =>
      rw [List.all_cons]
      cases hv : v.string? with
      | none => rfl
      | some w =>
          rw [List.mapM_cons, hv] at h
          cases hitems : items.mapM Value.string? with
          | none =>
              rw [ih hitems]
              exact Bool.and_false _
          | some ws =>
              rw [hitems] at h
              cases h

/-- Of values that all are strings, none is left out. -/
theorem filterMap_string? (items : List Value) : ∀ {ws : List String},
    items.mapM Value.string? = some ws → items.filterMap Value.string? = ws := by
  induction items with
  | nil => exact fun h => Option.some.inj h
  | cons v items ih =>
      intro ws h
      rw [List.mapM_cons] at h
      simp only [Option.bind_eq_bind, Option.bind_eq_some_iff, Option.pure_def,
        Option.some.injEq] at h
      obtain ⟨w, hw, ws', hws', rfl⟩ := h
      rw [List.filterMap_cons_some hw, ih hws']

/-- The strings of a value are the patterns that a builder finds in it. -/
theorem strings_of_patternList {v : Value} {ws : List String}
    (h : Builder.patternList? v = some ws) : strings v = ws := by
  unfold Builder.patternList? at h
  split at h
  case h_1 s => exact Option.some.inj h
  case h_2 items => exact filterMap_string? items h
  case h_3 => cases h

/-- What passes of the strings of a value that is a string or a list of strings. -/
theorem string_of_patternList {v : Value} {ws : List String}
    (h : Builder.patternList? v = some ws) (test : String → Bool) :
    everyString test v = ws.all test ∧ someString test v = ws.any test := by
  unfold Builder.patternList? at h
  split at h
  case h_1 s =>
    rw [← Option.some.inj h]
    exact ⟨(Bool.and_true _).symm, (Bool.or_false _).symm⟩
  case h_2 items => exact string?_mapM_spec items h
  case h_3 => cases h

/-- Where a builder finds no patterns, no test is passed by all strings. -/
theorem everyString_of_none {v : Value} (h : Builder.patternList? v = none)
    (test : String → Bool) : everyString test v = false := by
  unfold Builder.patternList? at h
  split at h
  case h_1 => cases h
  case h_2 items => exact string?_mapM_none items h
  case h_3 hstring harray =>
    cases v with
    | string s => exact absurd rfl (hstring s)
    | array items => exact absurd rfl (harray items)
    | _ => rfl

/-- Patterns are valid if the builder finds some and they compile. -/
theorem textValid_eq (v : Value) : textValid v =
    (Builder.patternList? v).any fun ws => (TextPatterns.ofStrings ws).isOk := by
  unfold textValid
  cases hws : Builder.patternList? v with
  | none => exact everyString_of_none hws _
  | some ws =>
      rw [(string_of_patternList hws _).1, Option.any_some, TextPatterns.isOk_ofStrings]

/-- So are globs; compiling includes putting them together. -/
theorem filesValid_eq (v : Value) : filesValid v =
    (Builder.patternList? v).any fun ws => (PathGlobs.ofStrings ws).isOk := by
  unfold filesValid
  cases hws : Builder.patternList? v with
  | none =>
      rw [everyString_of_none hws]
      rfl
  | some ws =>
      rw [(string_of_patternList hws _).1, strings_of_patternList hws, Option.any_some,
        PathGlobs.isOk_ofStrings]

end Written

/-! ## §3. Single conditions. -/

section Outcome

variable (pr : PullRequest)

/-- Whether the condition that is built holds, if one is built. -/
def outcome (r : Except RuleError Condition) : Option Bool := r.toOption.map (Condition.holds pr)

/-- The outcome of an entry that is valid or not. -/
def expected (valid holds : Bool) : Option Bool := if valid then some holds else none

/-- What a builder makes of a configuration. -/
def Builder.make (b : Builder) (scope : ScopeView) (v : Value) : Option Bool :=
  if b.accepts v then outcome pr (b.build v scope) else none

/-- Compiling the strings of a value: it fails unless there are strings that compile. -/
theorem strings_spec {α : Type} (compile : List String → Except RuleError α) (kind : String)
    (v : Value) :
    match (Builder.requirePatterns kind v).bind compile with
    | .error _ => ((Builder.patternList? v).any fun ws => (compile ws).isOk) = false
    | .ok a => ((Builder.patternList? v).any fun ws => (compile ws).isOk) = true ∧
        (Builder.patternList? v).isSome = true ∧
        ∃ ws, compile ws = .ok a ∧ ∀ test, Written.someString test v = ws.any test := by
  unfold Builder.requirePatterns
  cases hws : Builder.patternList? v with
  | none => exact rfl
  | some ws =>
      show match compile ws with
        | .error _ => (compile ws).isOk = false
        | .ok a => (compile ws).isOk = true ∧ _
      cases ha : compile ws with
      | error e => exact rfl
      | ok a => exact ⟨rfl, rfl, ws, ha, fun test => (Written.string_of_patternList hws test).2⟩

/-- A builder that compiles a list of strings: it makes a condition if they compile, and that holds if
one of them is found. -/
theorem make_strings {α : Type} {b : Builder} (kind : String)
    {compile : List String → Except RuleError α} (condition : α → Condition) {found : String → Bool}
    (haccepts : ∀ v, b.accepts v = (Builder.patternList? v).isSome)
    (hbuild : ∀ v scope, b.build v scope
      = (Builder.requirePatterns kind v).bind fun ws => (compile ws).map condition)
    (hholds : ∀ ws a, compile ws = .ok a → (condition a).holds pr = ws.any found)
    (scope : ScopeView) (v : Value) :
    b.make pr scope v = expected ((Builder.patternList? v).any fun ws => (compile ws).isOk)
      (Written.someString found v) := by
  -- reading the strings and compiling them fails as one step
  have hmap : b.build v scope = ((Builder.requirePatterns kind v).bind compile).map condition := by
    rw [hbuild]
    cases Builder.requirePatterns kind v <;> rfl
  have hspec := strings_spec compile kind v
  unfold Builder.make
  rw [haccepts, hmap]
  cases ha : (Builder.requirePatterns kind v).bind compile with
  | error e =>
      rw [ha] at hspec
      rw [show Option.any _ _ = false from hspec]
      exact ite_self none
  | ok a =>
      rw [ha] at hspec
      obtain ⟨hvalid, hlist, ws, hws, hsome⟩ := hspec
      rw [hvalid, hlist, hsome, ← hholds ws a hws]
      rfl

/-- **A text field.** -/
theorem make_text (f : TextField) (scope : ScopeView) (v : Value) :
    (Builder.text f).make pr scope v
      = expected (Written.textValid v) (Written.textHolds pr f v) := by
  rw [Written.textValid_eq]
  refine make_strings pr f.key (.text f) (fun _ => rfl) (fun _ _ => rfl) ?_ scope v
  intro ws ps hps
  show ps.foundIn (f.read pr) = _
  rw [TextPatterns.foundIn_eq_any, TextPatterns.written_ofStrings hps]

/-- **The changed files.** -/
theorem make_files (scope : ScopeView) (v : Value) :
    Builder.files.make pr scope v = expected (Written.filesValid v) (Written.filesHold pr v) := by
  rw [Written.filesValid_eq]
  refine make_strings pr "changed-files" .files (fun _ => rfl) (fun _ _ => rfl) ?_ scope v
  intro ws gs hgs
  show pr.changedFiles.any gs.accepts = _
  have haccepts : ∀ path, gs.accepts path = ws.any (PathGlob.covers path) := by
    intro path
    rw [PathGlobs.accepts_eq_any, PathGlobs.written_ofStrings hgs]
  rw [Bool.eq_iff_iff]
  simp only [List.any_eq_true, haccepts]
  constructor
  · rintro ⟨path, hpath, w, hw, hcovers⟩
    exact ⟨w, hw, path, hpath, hcovers⟩
  · rintro ⟨w, hw, path, hpath, hcovers⟩
    exact ⟨path, hpath, w, hw, hcovers⟩

/-! ### Several text fields. -/

/-- Whether one of the patterns for a field is found in it. -/
def FieldPatterns.foundIn (m : FieldPatterns) (f : TextField) : Bool :=
  (m.get f).any fun ps => ps.foundIn (f.read pr)

/-- An `or` holds if some field has a pattern that is found. -/
theorem holds_or_eq_any (m : FieldPatterns) :
    (Condition.or m).holds pr = TextField.all.any (m.foundIn pr) := by
  rw [holds_or_eq]
  unfold FieldPatterns.toList
  rw [List.any_filterMap]
  congr 1
  funext f
  unfold FieldPatterns.foundIn
  cases m.get f <;> rfl

/-- Setting the patterns for a field changes that field only. -/
theorem foundIn_set (m : FieldPatterns) (f g : TextField) (ps : TextPatterns) :
    (m.set f ps).foundIn pr g = if g = f then ps.foundIn (g.read pr) else m.foundIn pr g := by
  unfold FieldPatterns.foundIn
  rw [FieldPatterns.get_set]
  split <;> rfl

/-- A field that a key stands for has that key. -/
theorem TextField.key_of_ofKey? {key : String} {f : TextField}
    (h : TextField.ofKey? key = some f) : key = f.key := by
  unfold TextField.ofKey? at h
  split at h
  case isTrue hkey => rw [← Option.some.inj h, hkey]; rfl
  split at h
  case isTrue hkey => rw [← Option.some.inj h, hkey]; rfl
  split at h
  case isTrue hkey => rw [← Option.some.inj h, hkey]; rfl
  case isFalse => cases h

/-- What adding entries comes to: an error unless all that name a field are valid, and then each field
finds what it found before or what the entries that name it find. -/
def Adds (m : FieldPatterns) (entries : List (String × Value)) : Except RuleError FieldPatterns → Prop
  | .error _ => Written.orValid (.object entries) = false
  | .ok m' => Written.orValid (.object entries) = true ∧ ∀ f, m'.foundIn pr f
      = (m.foundIn pr f || entries.any fun e =>
          decide (TextField.ofKey? e.1 = some f) && Written.textHolds pr f e.2)

theorem orValid_cons (key : String) (v : Value) (entries : List (String × Value)) :
    Written.orValid (.object ((key, v) :: entries))
      = (((TextField.ofKey? key).all fun _ => Written.textValid v)
        && Written.orValid (.object entries)) := rfl

/-- An entry that names no field is passed over. -/
theorem Adds.cons_other {m : FieldPatterns} {entries : List (String × Value)}
    {r : Except RuleError FieldPatterns} {key : String} (hkey : TextField.ofKey? key = none)
    (v : Value) (h : Adds pr m entries r) : Adds pr m ((key, v) :: entries) r := by
  have hvalid : Written.orValid (.object ((key, v) :: entries)) = Written.orValid (.object entries) := by
    rw [orValid_cons, hkey]
    rfl
  cases r with
  | error e => exact hvalid.trans h
  | ok m' =>
      refine ⟨hvalid.trans h.1, fun f => ?_⟩
      rw [h.2, List.any_cons, hkey]
      rfl

/-- An entry that names a field without patterns gives it some. -/
theorem Adds.cons_field {m : FieldPatterns} {entries : List (String × Value)}
    {r : Except RuleError FieldPatterns} {key : String} {f : TextField} {v : Value} {ps : TextPatterns}
    (hkey : TextField.ofKey? key = some f) (hm : m.get f = none) (hvalid : Written.textValid v = true)
    (hfound : ∀ g, ps.foundIn (TextField.read g pr) = Written.textHolds pr g v)
    (h : Adds pr (m.set f ps) entries r) : Adds pr m ((key, v) :: entries) r := by
  have hcons : Written.orValid (.object ((key, v) :: entries)) = Written.orValid (.object entries) := by
    rw [orValid_cons, hkey, Option.all_some, hvalid, Bool.true_and]
  cases r with
  | error e => exact hcons.trans h
  | ok m' =>
      refine ⟨hcons.trans h.1, fun g => ?_⟩
      rw [h.2, foundIn_set, List.any_cons, hkey, hfound]
      by_cases hg : g = f
      case pos =>
        subst hg
        -- no earlier entry has set this field, so only this one is searched for
        have hnone : m.foundIn pr g = false := by
          unfold FieldPatterns.foundIn
          rw [hm]
          rfl
        rw [hnone, if_pos rfl, decide_eq_true rfl]
        rfl
      case neg =>
        have hne : ¬some f = some g := fun e => hg (Option.some.inj e).symm
        rw [if_neg hg, decide_eq_false hne]
        rfl

/-- Adding entries, where the fields that are named have no patterns yet and are named once. -/
theorem adds_addFields (entries : List (String × Value)) :
    ∀ m : FieldPatterns, (Entries.keys entries).Nodup →
      (∀ e ∈ entries, ∀ f, TextField.ofKey? e.1 = some f → m.get f = none) →
      Adds pr m entries (Builder.addFields m entries) := by
  induction entries with
  | nil =>
      intro m _ _
      exact ⟨rfl, fun f => (Bool.or_false _).symm⟩
  | cons e entries ih =>
      obtain ⟨key, v⟩ := e
      intro m hnodup hget
      obtain ⟨hkey, hnodup⟩ := List.nodup_cons.mp hnodup
      obtain ⟨hfirst, hget⟩ := List.forall_mem_cons.mp hget
      cases hf : TextField.ofKey? key with
      | none =>
          rw [Builder.addFields, hf]
          exact (ih m hnodup hget).cons_other pr hf v
      | some f =>
          have hadd : Builder.addFields m ((key, v) :: entries)
              = ((Builder.requirePatterns key v).bind TextPatterns.ofStrings).bind fun ps =>
                Builder.addFields (m.set f ps) entries := by
            rw [Builder.addFields, hf]
            cases Builder.requirePatterns key v <;> rfl
          have hspec := strings_spec TextPatterns.ofStrings key v
          rw [← Written.textValid_eq] at hspec
          rw [hadd]
          cases hps : (Builder.requirePatterns key v).bind TextPatterns.ofStrings with
          | error e =>
              rw [hps] at hspec
              show Written.orValid _ = false
              rw [orValid_cons, hf, Option.all_some]
              rw [show Written.textValid v = false from hspec, Bool.false_and]
          | ok ps =>
              rw [hps] at hspec
              obtain ⟨hvalid, -, ws, hws, hsome⟩ := hspec
              -- the keys are distinct, so no later entry names the field again
              have hother : ∀ e ∈ entries, ∀ g, TextField.ofKey? e.1 = some g →
                  (m.set f ps).get g = none := by
                intro e he g hg
                rw [FieldPatterns.get_set, if_neg, hget e he g hg]
                rintro rfl
                have hsame : key = e.1 :=
                  (TextField.key_of_ofKey? hf).trans (TextField.key_of_ofKey? hg).symm
                have hmem : e.1 ∈ entries.map Prod.fst := List.mem_map_of_mem he
                exact hkey (hsame ▸ hmem)
              have hfound : ∀ g, ps.foundIn (TextField.read g pr) = Written.textHolds pr g v := by
                intro g
                rw [TextPatterns.foundIn_eq_any, TextPatterns.written_ofStrings hws]
                exact (hsome _).symm
              exact (ih (m.set f ps) hnodup hother).cons_field pr hf (hfirst f hf) hvalid hfound

/-- **An `or`.** -/
theorem make_or {v : Value} (h : v.DistinctKeys) (scope : ScopeView) :
    Builder.or.make pr scope v = expected (Written.orValid v) (Written.orHolds pr v) := by
  cases v with
  | object entries =>
      have hspec := adds_addFields pr entries {} h.nodup fun _ _ f _ => by cases f <;> rfl
      have hmake : Builder.or.make pr scope (.object entries)
          = outcome pr ((Builder.addFields {} entries).map .or) := rfl
      rw [hmake]
      -- the fields are filled in order, and `adds_addFields` says what they then search for
      cases hadd : Builder.addFields {} entries with
      | error e =>
          rw [hadd] at hspec
          rw [show Written.orValid (.object entries) = false from hspec]
          rfl
      | ok m =>
          rw [hadd] at hspec
          obtain ⟨hvalid, hfound⟩ := hspec
          have hempty : ∀ f, ({} : FieldPatterns).foundIn pr f = false := by
            intro f
            cases f <;> rfl
          have hholds : (Condition.or m).holds pr = Written.orHolds pr (.object entries) := by
            rw [holds_or_eq_any, Bool.eq_iff_iff]
            simp only [Written.orHolds, List.any_eq_true, Option.any_eq_true, hfound, hempty,
              Bool.false_or, Bool.and_eq_true, decide_eq_true_eq]
            constructor
            · rintro ⟨f, -, e, he, hf, hholds⟩
              exact ⟨e, he, f, hf, hholds⟩
            · rintro ⟨e, he, f, hf, hholds⟩
              exact ⟨f, f.mem_all, e, he, hf, hholds⟩
          rw [hvalid, ← hholds]
          rfl
  | _ => rfl

end Outcome
end PullTriage
