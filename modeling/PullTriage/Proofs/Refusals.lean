import PullTriage.Proofs.DroppedFragments
import PullTriage.Proofs.FirstRefusals
import PullTriage.Proofs.LargeGlobSets
import PullTriage.Proofs.WrittenConditions

/-!
  PullTriage.Proofs.Refusals: when a fragment is refused, and with which error.

  Building a fragment directly inside a rule group, with the built-in kinds, can go wrong in several
  ways, and which of them is reported is decided by an order: the kind comes before the shape of the
  configuration, and the shape before what is in it:

    text fields                  the first pattern that does not compile
    changed files                the first glob that does not compile, or the globs cannot be used
                                 together
    `or`                         the first entry under a text field that lists no patterns or has one
                                 that does not compile
    `all`, `any`                 more than 256 members, or none

  What is wrong inside a composite is never reported.  Such an entry is left out, and shows only in the
  number of members; so does a composite inside a composite, and no depth of nesting is an error of
  its own.

  `Refusal` lists the ways without mention of builders.  The registry refuses a fragment with `e`
  exactly when `e` is on the list (`core_create_eq_error_iff`): no fragment is refused in two ways, and
  whatever is not refused is built.
-/

namespace PullTriage

open Json

/-! ## §1. What is refused. -/

namespace Written

/-- The kinds for one text field, which are also the keys that count in an `or`. -/
def textKinds : List String := ["body", "head-branch", "title"]

/-- The built-in kinds, in increasing order. -/
def kinds : List String := ["all", "any", "body", "changed-files", "head-branch", "or", "title"]

/-- The kinds of composites. -/
def compositeKinds : List String := ["all", "any"]

/-- The outer shape of a configuration for a kind. -/
inductive Shape : String → Value → Prop where
  | patterns {kind : String} {v : Value} {ws : List String}
      (kind_mem : kind ∈ "changed-files" :: textKinds) (listed : Patterns v ws) : Shape kind v
  | map {kind : String} {entries : List (String × Value)} (kind_eq : kind = "or") :
      Shape kind (.object entries)
  | list {kind : String} {items : List Value} (kind_mem : kind ∈ compositeKinds) :
      Shape kind (.array items)

/-- Why an entry of an `or` is refused; entries under other keys never are. -/
inductive FieldRefusal : String × Value → RuleError → Prop where
  | shape {key : String} {v : Value} (key_mem : key ∈ textKinds) (unlisted : ∀ ws, ¬Patterns v ws) :
      FieldRefusal (key, v) (.invalidConfig key "expected a string or a list of strings")
  | pattern {key : String} {v : Value} {ws : List String} {e : RuleError} (key_mem : key ∈ textKinds)
      (listed : Patterns v ws)
      (first : FirstRefused (fun w e => TextPattern.compile w = .error e) ws e) :
      FieldRefusal (key, v) e

/-- How many entries of the items of a composite can be built inside it. -/
def builtInside (items : List Value) : Nat :=
  (items.filterMap Value.object?).flatten.countP fun p =>
    ((Scope.mk Registry.core 0).create p.1 p.2).isOk

/-- Why what is in a configuration of the right shape is refused. -/
inductive ContentRefusal : String → Value → RuleError → Prop where
  | text {kind : String} {v : Value} {ws : List String} {e : RuleError} (kind_mem : kind ∈ textKinds)
      (listed : Patterns v ws)
      (first : FirstRefused (fun w e => TextPattern.compile w = .error e) ws e) :
      ContentRefusal kind v e
  | files {kind : String} {v : Value} {ws : List String} {e : RuleError}
      (kind_eq : kind = "changed-files") (listed : Patterns v ws) (refused : GlobsRefusal ws e) :
      ContentRefusal kind v e
  | or {kind : String} {entries : List (String × Value)} {e : RuleError} (kind_eq : kind = "or")
      (first : FirstRefused FieldRefusal entries e) : ContentRefusal kind (.object entries) e
  | tooMany {kind : String} {items : List Value} (kind_mem : kind ∈ compositeKinds)
      (many : 256 < builtInside items) :
      ContentRefusal kind (.array items) (.tooManyConditions (builtInside items) 256)
  | empty {kind : String} {items : List Value} (kind_mem : kind ∈ compositeKinds)
      (none : builtInside items = 0) : ContentRefusal kind (.array items) (.emptyComposite kind)

/-- Why a fragment directly inside a rule group is refused. -/
inductive Refusal (kind : String) (v : Value) : RuleError → Prop where
  | unknown (unregistered : kind ∉ kinds) : Refusal kind v (.unknownKind kind kinds)
  | shape (registered : kind ∈ kinds) (misshapen : ¬Shape kind v) :
      Refusal kind v (.invalidConfig kind ("unsupported shape: " ++ v.compact))
  | content {e : RuleError} (refused : ContentRefusal kind v e) : Refusal kind v e

end Written

/-! ## §2. Entries of an `or`. -/

/-- A key stands for a field if it is the kind of a text field. -/
theorem isSome_ofKey?_iff {key : String} :
    (TextField.ofKey? key).isSome ↔ key ∈ Written.textKinds := by
  unfold TextField.ofKey? Written.textKinds
  by_cases hbranch : key = "head-branch"
  case pos => simp [hbranch]
  by_cases htitle : key = "title"
  case pos => simp [htitle]
  by_cases hbody : key = "body"
  case pos => simp [hbody]
  simp [hbranch, htitle, hbody]

/-- Reading the patterns of an entry and compiling them fails as the list says. -/
theorem fieldPatterns_eq_error_iff {key : String} (hkey : key ∈ Written.textKinds) {v : Value}
    {e : RuleError} :
    (Builder.requirePatterns key v).bind TextPatterns.ofStrings = .error e ↔
      Written.FieldRefusal (key, v) e := by
  unfold Builder.requirePatterns
  cases hws : Builder.patternList? v with
  | none =>
      -- a value that lists no patterns has the wrong shape
      have hunlisted : ∀ ws, ¬Written.Patterns v ws := by
        intro ws h
        rw [Builder.patternList?_eq_some_iff.mpr h] at hws
        cases hws
      constructor
      case mp =>
        intro h
        rw [← Except.error.inj h]
        exact .shape hkey hunlisted
      case mpr =>
        rintro (⟨-, -⟩ | ⟨-, hlisted, -⟩)
        · rfl
        · exact absurd hlisted (hunlisted _)
  | some ws =>
      have hlisted := Builder.patternList?_eq_some_iff.mp hws
      refine TextPatterns.ofStrings_eq_error_iff.trans ⟨.pattern hkey hlisted, ?_⟩
      rintro (⟨-, hunlisted⟩ | ⟨-, hlisted', hfirst⟩)
      · exact absurd hlisted (hunlisted ws)
      · rw [Builder.patternList?_eq_some_iff.mpr hlisted'] at hws
        obtain rfl := Option.some.inj hws
        exact hfirst

/-- What is refused in an `or` stands under the key of a field. -/
theorem Written.FieldRefusal.key_mem {p : String × Value} {e : RuleError} (h : Written.FieldRefusal p e) :
    p.1 ∈ Written.textKinds := by
  cases h with
  | shape key_mem => exact key_mem
  | pattern key_mem => exact key_mem

/-- The entries of an `or` fail with the error of the first that is refused. -/
theorem Builder.addFields_eq_error_iff {entries : List (String × Value)} {e : RuleError}
    (m : FieldPatterns) :
    Builder.addFields m entries = .error e ↔ FirstRefused Written.FieldRefusal entries e := by
  induction entries generalizing m with
  | nil => exact iff_of_false (fun h => nomatch h) (not_firstRefused_nil e)
  | cons p entries ih =>
      obtain ⟨key, v⟩ := p
      rw [firstRefused_cons]
      cases hf : TextField.ofKey? key with
      -- an unknown key is passed over, and refuses nothing
      | none =>
          have hkey : key ∉ Written.textKinds := by
            rw [← isSome_ofKey?_iff, hf]
            exact Bool.false_ne_true
          have hnot : ∀ e', ¬Written.FieldRefusal (key, v) e' := fun e' h => hkey h.key_mem
          rw [Builder.addFields, hf]
          refine (ih m).trans ⟨fun h => .inr ⟨hnot, h⟩, ?_⟩
          rintro (h | ⟨-, h⟩)
          · exact absurd h (hnot e)
          · exact h
      | some f =>
          have hkey : key ∈ Written.textKinds := by
            rw [← isSome_ofKey?_iff, hf]
            rfl
          -- a known key is read before the others, so its error comes first
          have hadd : Builder.addFields m ((key, v) :: entries)
              = ((Builder.requirePatterns key v).bind TextPatterns.ofStrings).bind fun ps =>
                Builder.addFields (m.set f ps) entries := by
            rw [Builder.addFields, hf]
            cases Builder.requirePatterns key v <;> rfl
          rw [hadd]
          simp only [← fieldPatterns_eq_error_iff hkey]
          cases (Builder.requirePatterns key v).bind TextPatterns.ofStrings with
          | error e' => simp [Except.bind]
          | ok ps => simp [Except.bind, ih]

/-! ## §3. One kind at a time. -/

namespace Written

variable {kind : String} {v : Value} {e : RuleError}

theorem compositeKinds_disjoint (h : kind ∈ compositeKinds) :
    kind ∉ "changed-files" :: textKinds ∧ kind ≠ "or" := by
  simp only [compositeKinds, List.mem_cons, List.not_mem_nil, or_false] at h
  rcases h with rfl | rfl <;> decide

theorem textKinds_disjoint (h : kind ∈ textKinds) :
    kind ≠ "changed-files" ∧ kind ≠ "or" ∧ kind ∉ compositeKinds := by
  simp only [textKinds, List.mem_cons, List.not_mem_nil, or_false] at h
  rcases h with rfl | rfl | rfl <;> decide

/-- The shape of a list of patterns. -/
theorem shape_patterns_iff (h : kind ∈ "changed-files" :: textKinds) :
    Shape kind v ↔ ∃ ws, Patterns v ws := by
  constructor
  case mp =>
    rintro (⟨-, hlisted⟩ | rfl | hcomposite)
    · exact ⟨_, hlisted⟩
    · exact absurd h (by decide)
    · exact absurd h (compositeKinds_disjoint hcomposite).1
  case mpr =>
    rintro ⟨ws, hlisted⟩
    exact .patterns h hlisted

/-- The shape of an `or`. -/
theorem shape_or_iff : Shape "or" v ↔ ∃ entries, v = .object entries := by
  constructor
  case mp =>
    rintro (⟨hkind, -⟩ | - | hcomposite)
    · exact absurd hkind (by decide)
    · exact ⟨_, rfl⟩
    · exact absurd hcomposite (by decide)
  case mpr =>
    rintro ⟨entries, rfl⟩
    exact .map rfl

/-- The shape of a composite. -/
theorem shape_composite_iff (h : kind ∈ compositeKinds) :
    Shape kind v ↔ ∃ items, v = .array items := by
  constructor
  case mp =>
    rintro (⟨hkind, -⟩ | hor | -)
    · exact absurd hkind (compositeKinds_disjoint h).1
    · exact absurd hor (compositeKinds_disjoint h).2
    · exact ⟨_, rfl⟩
  case mpr =>
    rintro ⟨items, rfl⟩
    exact .list h

/-- What is wrong with patterns for a text field. -/
theorem content_text_iff (h : kind ∈ textKinds) :
    ContentRefusal kind v e ↔
      ∃ ws, Patterns v ws ∧ FirstRefused (fun w e => TextPattern.compile w = .error e) ws e := by
  obtain ⟨hfiles, hor, hcomposite⟩ := textKinds_disjoint h
  constructor
  case mp =>
    rintro (⟨-, hlisted, hfirst⟩ | hkind | hkind | hkind | hkind)
    · exact ⟨_, hlisted, hfirst⟩
    · exact absurd hkind hfiles
    · exact absurd hkind hor
    · exact absurd hkind hcomposite
    · exact absurd hkind hcomposite
  case mpr =>
    rintro ⟨ws, hlisted, hfirst⟩
    exact .text h hlisted hfirst

/-- What is wrong with globs. -/
theorem content_files_iff :
    ContentRefusal "changed-files" v e ↔
      ∃ ws, Patterns v ws ∧ GlobsRefusal ws e := by
  constructor
  case mp =>
    rintro (hkind | ⟨-, hlisted, hrefused⟩ | hkind | hkind | hkind)
    · exact absurd hkind (by decide)
    · exact ⟨_, hlisted, hrefused⟩
    · exact absurd hkind (by decide)
    · exact absurd hkind (by decide)
    · exact absurd hkind (by decide)
  case mpr =>
    rintro ⟨ws, hlisted, hrefused⟩
    exact .files rfl hlisted hrefused

/-- What is wrong with an `or`. -/
theorem content_or_iff {entries : List (String × Value)} :
    ContentRefusal "or" (.object entries) e ↔ FirstRefused FieldRefusal entries e := by
  refine ⟨?_, .or rfl⟩
  rintro (hkind | hkind | ⟨-, hfirst⟩)
  · exact absurd hkind (by decide)
  · exact absurd hkind (by decide)
  · exact hfirst

/-- What is wrong with a composite. -/
theorem content_composite_iff (h : kind ∈ compositeKinds) {items : List Value} :
    ContentRefusal kind (.array items) e ↔
      256 < builtInside items ∧ e = .tooManyConditions (builtInside items) 256 ∨
        builtInside items = 0 ∧ e = .emptyComposite kind := by
  obtain ⟨hpatterns, -⟩ := compositeKinds_disjoint h
  constructor
  case mp =>
    rintro (hkind | hkind | - | ⟨-, hmany⟩ | ⟨-, hnone⟩)
    · exact absurd (List.mem_cons_of_mem _ hkind) hpatterns
    · exact absurd (hkind ▸ List.mem_cons_self ..) hpatterns
    · exact .inl ⟨hmany, rfl⟩
    · exact .inr ⟨hnone, rfl⟩
  case mpr =>
    rintro (⟨hmany, rfl⟩ | ⟨hnone, rfl⟩)
    · exact .tooMany h hmany
    · exact .empty h hnone

end Written

/-! ## §4. Builders. -/

namespace BuiltInKind

/-- A built-in kind is found under its name. -/
theorem core_find?_name (k : BuiltInKind) : Registry.core.find? k.name = some k.builder := by
  cases k with
  | text f => cases f <;> rfl
  | _ => rfl

/-- The kinds are the names of those that are built in. -/
theorem mem_kinds_iff {kind : String} : kind ∈ Written.kinds ↔ ∃ k : BuiltInKind, k.name = kind := by
  constructor
  case mp =>
    intro h
    simp only [Written.kinds, List.mem_cons, List.not_mem_nil, or_false] at h
    rcases h with rfl | rfl | rfl | rfl | rfl | rfl | rfl
    · exact ⟨.all, rfl⟩
    · exact ⟨.any, rfl⟩
    · exact ⟨.text .body, rfl⟩
    · exact ⟨.files, rfl⟩
    · exact ⟨.text .branch, rfl⟩
    · exact ⟨.or, rfl⟩
    · exact ⟨.text .title, rfl⟩
  case mpr =>
    rintro ⟨k, rfl⟩
    cases k with
    | text f => cases f <;> decide
    | _ => decide

/-- Nothing else is found. -/
theorem core_find?_eq_none {kind : String} (h : kind ∉ Written.kinds) :
    Registry.core.find? kind = none := by
  cases hfind : Registry.core.find? kind with
  | none => rfl
  | some b =>
      obtain ⟨k, hk⟩ := core_named (Registry.find?_mem hfind)
      exact absurd (mem_kinds_iff.mpr ⟨k, (congrArg Prod.fst hk).symm⟩) h

theorem key_mem_textKinds (f : TextField) : f.key ∈ Written.textKinds := by
  cases f <;> decide

/-- A builder finds patterns in a configuration of the right shape. -/
theorem isSome_patternList?_iff {kind : String} (h : kind ∈ "changed-files" :: Written.textKinds)
    {v : Value} : (Builder.patternList? v).isSome ↔ Written.Shape kind v := by
  rw [Option.isSome_iff_exists, Written.shape_patterns_iff h]
  simp only [Builder.patternList?_eq_some_iff]

/-- A builder accepts the configurations of the outer shape of its kind. -/
theorem accepts_iff_shape (k : BuiltInKind) {v : Value} :
    k.builder.accepts v = true ↔ Written.Shape k.name v := by
  have hobject : v.object?.isSome ↔ ∃ entries, v = .object entries := by
    cases v <;> simp [Value.object?]
  have harray : v.array?.isSome ↔ ∃ items, v = .array items := by
    cases v <;> simp [Value.array?]
  cases k with
  | text f => exact isSome_patternList?_iff (List.mem_cons_of_mem _ (key_mem_textKinds f))
  | files => exact isSome_patternList?_iff (List.mem_cons_self ..)
  | or => exact hobject.trans Written.shape_or_iff.symm
  | all => exact harray.trans (Written.shape_composite_iff (by decide)).symm
  | any => exact harray.trans (Written.shape_composite_iff (by decide)).symm

/-- Compiling the patterns of a configuration of the right shape. -/
theorem requirePatterns_bind_eq_error_iff {α : Type} (kind : String) {v : Value}
    {compile : List String → Except RuleError α} {condition : α → Condition} {e : RuleError}
    (hv : ∃ ws, Written.Patterns v ws) :
    ((Builder.requirePatterns kind v).bind fun ws => (compile ws).map condition) = .error e ↔
      ∃ ws, Written.Patterns v ws ∧ compile ws = .error e := by
  obtain ⟨ws, hlisted⟩ := hv
  have hws := Builder.patternList?_eq_some_iff.mpr hlisted
  rw [Builder.requirePatterns_eq_ok_iff.mpr hws]
  refine except_map_eq_error_iff.trans ⟨fun h => ⟨ws, hlisted, h⟩, ?_⟩
  rintro ⟨us, hlisted', h⟩
  rw [Builder.patternList?_eq_some_iff.mpr hlisted'] at hws
  obtain rfl := Option.some.inj hws
  exact h

/-- A builder of no composite refuses the same configurations in every scope. -/
theorem build_leaf_eq_error_iff (k : BuiltInKind) (hk : k.name ∉ Written.compositeKinds) {v : Value}
    (hv : Written.Shape k.name v) (scope : ScopeView) {e : RuleError} :
    k.builder.build v scope = .error e ↔ Written.ContentRefusal k.name v e := by
  cases k with
  | text f =>
      have hkind := key_mem_textKinds f
      refine (requirePatterns_bind_eq_error_iff f.key
        ((Written.shape_patterns_iff (List.mem_cons_of_mem _ hkind)).mp hv)).trans ?_
      simp only [TextPatterns.ofStrings_eq_error_iff]
      exact (Written.content_text_iff hkind).symm
  | files =>
      refine (requirePatterns_bind_eq_error_iff "changed-files"
        ((Written.shape_patterns_iff (List.mem_cons_self ..)).mp hv)).trans ?_
      simp only [PathGlobs.ofStrings_eq_error_iff]
      exact Written.content_files_iff.symm
  | or =>
      obtain ⟨entries, rfl⟩ := Written.shape_or_iff.mp hv
      exact except_map_eq_error_iff.trans
        ((Builder.addFields_eq_error_iff {}).trans Written.content_or_iff.symm)
  | all => exact absurd (by decide) hk
  | any => exact absurd (by decide) hk

/-- A composite has as many members as entries that can be built inside it. -/
theorem length_members (items : List Value) :
    (Builder.members (Registry.core.viewIn 0) items).length
      = Written.builtInside items := by
  unfold Builder.members Written.builtInside
  rw [List.flatMap, ← List.filterMap_flatten, List.length_filterMap_eq_countP]
  simp only [except_isSome_toOption]
  rfl

/-- The members of a composite are refused for their number alone. -/
theorem requireMembers_eq_error_iff {kind : String} (hkind : kind ∈ Written.compositeKinds)
    {items : List Value} {e : RuleError} :
    Builder.requireMembers kind (.array items) (.ok (Registry.core.viewIn 0))
      = .error e ↔ Written.ContentRefusal kind (.array items) e := by
  rw [Builder.requireMembers_array, Written.content_composite_iff hkind, ← length_members]
  -- only the number of members counts
  generalize Builder.members _ items = cs
  by_cases hmany : cs.length > 256
  case pos =>
    have hsome : cs.length ≠ 0 := by omega
    rw [if_pos hmany, Except.error.injEq]
    constructor
    · intro h
      exact .inl ⟨hmany, h.symm⟩
    · rintro (⟨-, h⟩ | ⟨hnone, -⟩)
      · exact h.symm
      · exact absurd hnone hsome
  case neg =>
    rw [if_neg hmany]
    simp only [List.isEmpty_iff_length_eq_zero]
    split
    case isTrue hnone =>
      rw [Except.error.injEq]
      constructor
      · intro h
        exact .inr ⟨hnone, h.symm⟩
      · rintro (⟨hmany', -⟩ | ⟨-, h⟩)
        · exact absurd hmany' hmany
        · exact h.symm
    case isFalse hsome =>
      refine iff_of_false (fun h => nomatch h) ?_
      rintro (⟨hmany', -⟩ | ⟨hnone, -⟩)
      · exact hmany hmany'
      · exact hsome hnone

/-- **What a builder refuses directly inside a rule group.** -/
theorem build_eq_error_iff (k : BuiltInKind) {v : Value} (hv : Written.Shape k.name v)
    {e : RuleError} :
    k.builder.build v (Registry.core.viewInside maxNesting) = .error e ↔
      Written.ContentRefusal k.name v e := by
  cases k with
  | all =>
      obtain ⟨items, rfl⟩ := (Written.shape_composite_iff (by decide)).mp hv
      have hkind : "all" ∈ Written.compositeKinds := by decide
      exact except_map_eq_error_iff.trans (requireMembers_eq_error_iff hkind)
  | any =>
      obtain ⟨items, rfl⟩ := (Written.shape_composite_iff (by decide)).mp hv
      have hkind : "any" ∈ Written.compositeKinds := by decide
      exact except_map_eq_error_iff.trans (requireMembers_eq_error_iff hkind)
  | text f =>
      exact build_leaf_eq_error_iff (.text f) (Written.textKinds_disjoint (key_mem_textKinds f)).2.2 hv _
  | files => exact build_leaf_eq_error_iff .files (by decide) hv _
  | or => exact build_leaf_eq_error_iff .or (by decide) hv _

end BuiltInKind

/-! ## §5. The registry. -/

namespace Written

variable {kind : String} {v : Value} {e : RuleError}

/-- Contents are refused only in a configuration of the right shape for a built-in kind. -/
theorem ContentRefusal.shape (h : ContentRefusal kind v e) : kind ∈ kinds ∧ Shape kind v := by
  cases h with
  | text kind_mem listed =>
      have hkinds : ∀ k ∈ textKinds, k ∈ kinds := by decide
      exact ⟨hkinds kind kind_mem, .patterns (List.mem_cons_of_mem _ kind_mem) listed⟩
  | files kind_eq listed =>
      subst kind_eq
      exact ⟨by decide, .patterns (List.mem_cons_self ..) listed⟩
  | or kind_eq =>
      subst kind_eq
      exact ⟨by decide, .map rfl⟩
  | tooMany kind_mem =>
      have hkinds : ∀ k ∈ compositeKinds, k ∈ kinds := by decide
      exact ⟨hkinds kind kind_mem, .list kind_mem⟩
  | empty kind_mem =>
      have hkinds : ∀ k ∈ compositeKinds, k ∈ kinds := by decide
      exact ⟨hkinds kind kind_mem, .list kind_mem⟩

/-- The errors of contents. -/
inductive ContentError : RuleError → Prop where
  | tooLong (length most : Nat) : ContentError (.patternTooLong length most)
  | pattern (pattern : String) (reason : PatternReason) :
      ContentError (.invalidPattern pattern reason)
  | glob (glob reason : String) : ContentError (.invalidGlob glob reason)
  | field (key : String) :
      ContentError (.invalidConfig key "expected a string or a list of strings")
  | tooMany (count most : Nat) : ContentError (.tooManyConditions count most)
  | empty (kind : String) : ContentError (.emptyComposite kind)

/-- The error of a pattern is none of the registry. -/
theorem contentError_of_text {ws : List String}
    (h : FirstRefused (fun w e => TextPattern.compile w = .error e) ws e) : ContentError e := by
  obtain ⟨_, w, _, -, -, hw⟩ := h
  rcases TextPattern.compile_error hw with ⟨n, most, rfl⟩ | ⟨p, reason, rfl⟩
  · exact .tooLong n most
  · exact .pattern p reason

/-- Nor is any error of the contents. -/
theorem ContentRefusal.error (h : ContentRefusal kind v e) : ContentError e := by
  cases h with
  | text _ _ first => exact contentError_of_text first
  | files _ _ refused =>
      cases refused with
      | glob first =>
          obtain ⟨_, w, _, -, -, hw⟩ := first
          rcases PathGlob.compile_error hw with ⟨n, most, rfl⟩ | ⟨g, reason, rfl⟩
          · exact .tooLong n most
          · exact .glob g reason
      | together => exact .glob _ _
  | or _ first =>
      obtain ⟨_, p, _, -, -, hp⟩ := first
      cases hp with
      | shape => exact .field _
      | pattern _ _ first => exact contentError_of_text first
  | tooMany => exact .tooMany _ _
  | empty => exact .empty _

/-- The reasons for a wrong shape, of a fragment and of an entry of an `or`, differ. -/
theorem unsupported_ne_expected (text : String) :
    "unsupported shape: " ++ text ≠ "expected a string or a list of strings" := by
  intro h
  have hhead := congrArg (fun s => s.toList.head?) h
  rw [String.toList_append] at hhead
  exact absurd (Option.some.inj hhead : 'u' = 'e') (by decide)

/-- A kind is refused as unknown if it is none of the built-in kinds. -/
theorem refusal_unknownKind_iff : Refusal kind v (.unknownKind kind kinds) ↔ kind ∉ kinds := by
  refine ⟨?_, .unknown⟩
  rintro (hkind | - | hrefused)
  · exact hkind
  · cases hrefused.error

/-- A configuration is refused as unsupported if it has not the shape for its kind. -/
theorem refusal_unsupported_iff :
    Refusal kind v (.invalidConfig kind ("unsupported shape: " ++ v.compact)) ↔
      kind ∈ kinds ∧ ¬Shape kind v := by
  refine ⟨?_, fun h => .shape h.1 h.2⟩
  intro h
  generalize he : RuleError.invalidConfig kind ("unsupported shape: " ++ v.compact) = e at h
  cases h with
  | unknown => cases he
  | shape hkind hshape => exact ⟨hkind, hshape⟩
  | content hrefused =>
      subst he
      generalize htext : "unsupported shape: " ++ v.compact = text at hrefused
      cases hrefused.error
      exact absurd htext (unsupported_ne_expected _)

/-- A list under the kind of a composite is refused for its contents or not at all. -/
theorem refusal_composite_iff (h : kind ∈ compositeKinds) {items : List Value} :
    Refusal kind (.array items) e ↔
      256 < builtInside items ∧ e = .tooManyConditions (builtInside items) 256 ∨
        builtInside items = 0 ∧ e = .emptyComposite kind := by
  have hkinds : ∀ k ∈ compositeKinds, k ∈ kinds := by decide
  rw [← content_composite_iff h]
  refine ⟨?_, .content⟩
  rintro (hunregistered | ⟨-, hmisshapen⟩ | hrefused)
  · exact absurd (hkinds kind h) hunregistered
  · exact absurd (.list h) hmisshapen
  · exact hrefused

/-- Nesting is never the reason. -/
theorem not_refusal_nestingTooDeep (depth most : Nat) :
    ¬Refusal kind v (.nestingTooDeep depth most) := by
  rintro (- | - | hrefused)
  cases hrefused.error

end Written

/-- A registry of the built-in kinds refuses what is on the list wherever its builders do. -/
theorem core_createWith_eq_error_iff {scope : ScopeView} {kind : String}
    {v : Value} {e : RuleError}
    (hbuild : ∀ k : BuiltInKind, k.name = kind → Written.Shape k.name v →
      (k.builder.build v scope = .error e ↔ Written.ContentRefusal k.name v e)) :
    Registry.core.createWith scope kind v = .error e ↔ Written.Refusal kind v e := by
  unfold Registry.createWith
  -- in the order of the checks: the name, the outer shape, the content
  by_cases hkind : kind ∈ Written.kinds
  case neg =>
    rw [BuiltInKind.core_find?_eq_none hkind, Except.error.injEq]
    constructor
    · rintro rfl
      exact .unknown hkind
    · rintro (- | hregistered | hrefused)
      · rfl
      · exact absurd hregistered hkind
      · exact absurd hrefused.shape.1 hkind
  case pos =>
    obtain ⟨k, rfl⟩ := BuiltInKind.mem_kinds_iff.mp hkind
    rw [BuiltInKind.core_find?_name]
    dsimp only
    by_cases hshape : Written.Shape k.name v
    case pos =>
      rw [if_pos (k.accepts_iff_shape.mpr hshape), hbuild k rfl hshape]
      refine ⟨.content, ?_⟩
      rintro (hunregistered | ⟨-, hmisshapen⟩ | hrefused)
      · exact absurd hkind hunregistered
      · exact absurd hshape hmisshapen
      · exact hrefused
    case neg =>
      rw [if_neg (mt k.accepts_iff_shape.mp hshape), Except.error.injEq]
      constructor
      · rintro rfl
        exact .shape hkind hshape
      · rintro (hunregistered | - | hrefused)
        · exact absurd hkind hunregistered
        · rfl
        · exact absurd hrefused.shape.2 hshape

/-- **A fragment is refused with the errors that are listed**, and with no others. -/
theorem core_create_eq_error_iff {kind : String} {v : Value} {e : RuleError} :
    Registry.core.create kind v = .error e ↔ Written.Refusal kind v e :=
  core_createWith_eq_error_iff fun k _ hshape => k.build_eq_error_iff hshape

/-- Inside a composite an entry is built unless it is a composite or refused in a group as well. -/
theorem isOk_create_inside_iff {key : String} {v : Value} :
    ((Scope.mk Registry.core 0).create key v).isOk = true ↔
      key ∉ Written.compositeKinds ∧ ∀ e, ¬Written.Refusal key v e := by
  show (Registry.core.createWith (Registry.core.viewInside 0) key v).isOk = true ↔ _
  by_cases hkey : key ∈ Written.compositeKinds
  case pos =>
    refine iff_of_false ?_ fun h => h.1 hkey
    simp only [Written.compositeKinds, List.mem_cons, List.not_mem_nil, or_false] at hkey
    -- a list is refused for standing where it stands, anything else for its shape
    rcases hkey with rfl | rfl <;> cases v <;> exact Bool.false_ne_true
  case neg =>
    have hrefused : ∀ e, Registry.core.createWith (Registry.core.viewInside 0) key v = .error e ↔
        Written.Refusal key v e := fun e =>
      core_createWith_eq_error_iff fun k hk hshape =>
        k.build_leaf_eq_error_iff (hk ▸ hkey) hshape _
    simp only [hkey, not_false_eq_true, true_and, ← hrefused]
    cases Registry.core.createWith _ key v <;> simp [Except.isOk, Except.toBool]

/-- **The outcome of building a fragment directly inside a rule group with the built-in kinds.**

It is an error exactly when `Refusal` has it, and a condition when there is none.  A kind that is not
registered comes before a wrong shape, and that before the contents; a composite is refused for the
number of entries that can be built inside it and for nothing else, and those are the entries that are
no composites themselves and would not be refused in a group.  No depth of nesting is an error. -/
theorem core_create_outcome (kind : String) (v : Value) :
    (∀ e, Registry.core.create kind v = .error e ↔ Written.Refusal kind v e) ∧
    ((∃ c, Registry.core.create kind v = .ok c) ↔ ∀ e, ¬Written.Refusal kind v e) ∧
    (Registry.core.kinds = Written.kinds ∧ Registry.core.kinds.Pairwise (· < ·)) ∧
    (Registry.core.create kind v = .error (.unknownKind kind Registry.core.kinds) ↔
      kind ∉ Registry.core.kinds) ∧
    (Registry.core.create kind v = .error (.invalidConfig kind ("unsupported shape: " ++ v.compact)) ↔
      kind ∈ Registry.core.kinds ∧ ¬Written.Shape kind v) ∧
    (∀ items, kind ∈ Written.compositeKinds → v = .array items →
      (∀ n, Registry.core.create kind v = .error (.tooManyConditions n 256) ↔
        n = Written.builtInside items ∧ 256 < n) ∧
      (Registry.core.create kind v = .error (.emptyComposite kind) ↔ Written.builtInside items = 0)) ∧
    (∀ key w, ((Scope.mk Registry.core 0).create key w).isOk = true ↔
      key ∉ Written.compositeKinds ∧ ∀ e, ¬Written.Refusal key w e) ∧
    ∀ depth most, Registry.core.create kind v ≠ .error (.nestingTooDeep depth most) := by
  have hkinds : Registry.core.kinds = Written.kinds := rfl
  have hcreate : ∀ e, Registry.core.create kind v = .error e ↔ Written.Refusal kind v e :=
    fun _ => core_create_eq_error_iff
  -- every part is about the refusals alone, since `hcreate` says that they are the errors
  refine ⟨hcreate, ?_, ⟨hkinds, by decide +kernel⟩, ?_, ?_, ?_, fun _ _ => isOk_create_inside_iff, ?_⟩
  · simp only [except_exists_ok_iff, ← hcreate, ne_eq]
  · rw [hcreate, hkinds]
    exact Written.refusal_unknownKind_iff
  · rw [hcreate, hkinds]
    exact Written.refusal_unsupported_iff
  · rintro items hkind rfl
    simp only [hcreate, Written.refusal_composite_iff hkind]
    constructor
    · intro n
      simp only [RuleError.tooManyConditions.injEq, and_true, reduceCtorEq, and_false, or_false]
      exact ⟨fun h => ⟨h.2, h.2 ▸ h.1⟩, fun h => ⟨h.1 ▸ h.2, h.1⟩⟩
    · simp
  · exact fun depth most h => Written.not_refusal_nestingTooDeep depth most ((hcreate _).mp h)

/-- A composite around a composite has no member, however good the inner one would be in a group. -/
theorem core_create_outcome_nested :
    Registry.core.create "all"
      (.array [.object [("any", .array [.object [("title", .string "fix")]])]])
      = .error (.emptyComposite "all") :=
  ((core_create_outcome "all" _).2.2.2.2.2.1 _ (by decide) rfl).2.mpr (by rfl)

/-- Globs of which none fails are refused together, because they are too large. -/
theorem core_create_globs_tooLarge :
    let globs := List.replicate 50 (questionMarks 4096)
    Written.Shape "changed-files" (.ofStrings globs) ∧
      (∀ e, ¬FirstRefused (fun w e => PathGlob.compile w = .error e) globs e) ∧
      Registry.core.create "changed-files" (.ofStrings globs)
        = .error (.invalidGlob (", ".intercalate globs) "error building NFA") := by
  intro globs
  have heach : ∀ w ∈ globs, ∀ e, PathGlob.compile w ≠ .error e := by
    intro w hw e he
    rw [List.eq_of_mem_replicate hw, PathGlob.compile_questionMarks (Nat.le_refl 4096)] at he
    cases he
  have hproblem : PathGlobs.combinationProblem? globs = some .tooLarge :=
    PathGlobs.combinationProblem?_questionMarks (Nat.le_refl 4096) (by decide)
  refine ⟨.patterns (by decide) (.list globs), forall_not_firstRefused_iff.mpr heach, ?_⟩
  exact core_create_eq_error_iff.mpr (.content (.files rfl (.list globs) (.together heach hproblem)))

end PullTriage
