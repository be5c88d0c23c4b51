import PullTriage.Proofs.CombinedGlobs
import PullTriage.Proofs.ExplicitConjunctions
import PullTriage.Proofs.Normalization

/-!
  PullTriage.Proofs.PatternAlternatives: a list of patterns is the disjunction of its patterns.

  The kinds that list patterns read them one by one and then keep them together in one condition.  That
  condition has the verdict of the disjunction of what each pattern makes alone.  `ListedKind` says so
  once for the text fields and the changed files, and everything else is read off it:

      create kind ps                                      all or nothing
      create "any" [{kind: [p₁]}, …, {kind: [pₙ]}]        the same verdict, for 1 ≤ n ≤ 256

  Patterns for a text field are refused as the first of them that is refused.  So are globs, but globs of
  which each is accepted may still be refused as a set.  An `any` would leave out a pattern that is
  refused, so the two differ where one is.
-/

namespace PullTriage

open Json

/-! ## §1. Verdicts of lists. -/

section Verdicts

variable (pr : PullRequest)

/-- The verdict of one pattern for a text field. -/
def TextPattern.verdict (f : TextField) (p : TextPattern) : Verdict := ⟨p.foundIn (f.read pr), ∅⟩

/-- The verdict of one glob over the changed files. -/
def PathGlob.verdict (g : PathGlob) : Verdict :=
  ⟨pr.changedFiles.any g.accepts, {path | path ∈ pr.changedFiles ∧ g.accepts path = true}⟩

/-- The patterns of a text field are alternatives. -/
theorem verdict_textPatterns (f : TextField) (ps : TextPatterns) :
    (Condition.text f ps).verdict pr = .ofAny (ps.patterns.map (TextPattern.verdict pr f)) := by
  rw [Condition.verdict_text]
  refine Verdict.ext ?_ (by simp [Verdict.ofAny, TextPattern.verdict])
  show (ps.patterns.any fun p => p.foundIn (f.read pr)) = (ps.patterns.map _).any Verdict.holds
  rw [List.any_map]
  rfl

/-- The globs over changed files are alternatives: of the files and the globs either may be chosen
first. -/
theorem verdict_pathGlobs (gs : PathGlobs) :
    (Condition.files gs).verdict pr = .ofAny (gs.globs.map (PathGlob.verdict pr)) := by
  rw [Condition.verdict_files]
  refine Verdict.ext ?_ (Set.ext fun path => ?_)
  · show (pr.changedFiles.any fun path => gs.globs.any (·.accepts path)) =
      (gs.globs.map _).any Verdict.holds
    rw [List.any_map, Bool.eq_iff_iff]
    simp only [List.any_eq_true, Function.comp_apply, PathGlob.verdict]
    constructor
    · rintro ⟨path, hpath, g, hg, haccepts⟩
      exact ⟨g, hg, path, hpath, haccepts⟩
    · rintro ⟨g, hg, path, hpath, haccepts⟩
      exact ⟨path, hpath, g, hg, haccepts⟩
  · simp only [Verdict.ofAny, PathGlobs.accepts, Set.mem_ofPred_eq, List.any_eq_true, List.mem_map]
    constructor
    · rintro ⟨hpath, g, hg, haccepts⟩
      exact ⟨_, ⟨g, hg, rfl⟩, hpath, haccepts⟩
    · rintro ⟨_, ⟨g, hg, rfl⟩, hpath, haccepts⟩
      exact ⟨hpath, g, hg, haccepts⟩

end Verdicts

/-! ## §2. Kinds that list patterns. -/

/-- A kind whose conditions are made of a list of patterns: each is read by itself and has a verdict of
its own, and what can be kept with others can be kept alone. -/
structure ListedKind (kind : String) where
  Pattern : Type
  read : String → Except RuleError Pattern
  keep : List Pattern → Except RuleError Condition
  verdict : PullRequest → Pattern → Verdict
  create_ofStrings : ∀ scope ws,
    Registry.core.createWith scope kind (.ofStrings ws) = (ws.mapM read).bind keep
  keep_alone : ∀ {ps c p}, keep ps = .ok c → p ∈ ps → ∃ d, keep [p] = .ok d
  verdict_keep : ∀ {ps c}, keep ps = .ok c → ∀ pr, c.verdict pr = .ofAny (ps.map (verdict pr))

theorem Builder.requirePatterns_ofStrings (kind : String) (ws : List String) :
    Builder.requirePatterns kind (.ofStrings ws) = .ok ws :=
  Builder.requirePatterns_eq_ok_iff.mpr (Builder.patternList?_ofStrings ws)

namespace ListedKind

/-- Patterns that are compiled to one condition, wherever they stand. -/
theorem createWith_ofStrings {k : BuiltInKind} {compile : List String → Except RuleError Condition}
    (haccepts : ∀ v, k.builder.accepts v = (Builder.patternList? v).isSome)
    (hbuild : ∀ v scope, k.builder.build v scope = (Builder.requirePatterns k.name v).bind compile)
    (scope : ScopeView) (ws : List String) :
    Registry.core.createWith scope k.name (.ofStrings ws) = compile ws := by
  have hlisted : k.builder.accepts (.ofStrings ws) = true := by
    rw [haccepts, Builder.patternList?_ofStrings]
    rfl
  rw [Registry.createWith_of_accepts k.core_find?_name hlisted, hbuild,
    Builder.requirePatterns_ofStrings]
  rfl

/-- A text field. -/
def text (f : TextField) : ListedKind f.key where
  Pattern := TextPattern
  read := TextPattern.ofString
  keep ps := .ok (.text f ⟨ps⟩)
  verdict pr := TextPattern.verdict pr f
  create_ofStrings scope ws := by
    refine (createWith_ofStrings (k := .text f) (fun _ => rfl) (fun _ _ => rfl) scope ws).trans ?_
    unfold TextPatterns.ofStrings
    cases ws.mapM TextPattern.ofString <;> rfl
  keep_alone _ _ := ⟨_, rfl⟩
  verdict_keep h pr := by
    rw [← Except.ok.inj h]
    exact verdict_textPatterns pr f _

/-- The changed files. -/
def files : ListedKind "changed-files" where
  Pattern := PathGlob
  read := PathGlob.ofString
  keep gs := (PathGlobs.ofGlobs gs).map .files
  verdict := PathGlob.verdict
  create_ofStrings scope ws := by
    refine (createWith_ofStrings (k := .files) (fun _ => rfl) (fun _ _ => rfl) scope ws).trans ?_
    rw [PathGlobs.ofStrings_eq]
    cases ws.mapM PathGlob.ofString with
    | error e => rfl
    | ok globs =>
        show (PathGlobs.ofGlobs globs).bind _ = (PathGlobs.ofGlobs globs).map _
        cases PathGlobs.ofGlobs globs <;> rfl
  keep_alone h hp := by
    obtain ⟨gs, hgs, -⟩ := except_map_eq_ok_iff.mp h
    rw [← PathGlobs.ofGlobs_eq_ok_iff.mp hgs] at hp
    obtain ⟨gs', hgs', -⟩ := PathGlobs.ofGlobs_singleton hp
    exact ⟨_, except_map_eq_ok_iff.mpr ⟨gs', hgs', rfl⟩⟩
  verdict_keep h pr := by
    obtain ⟨gs, hgs, rfl⟩ := except_map_eq_ok_iff.mp h
    rw [verdict_pathGlobs, PathGlobs.ofGlobs_eq_ok_iff.mp hgs]

/-- The kinds that list patterns are the changed files and the text fields. -/
theorem kind_cases {kind : String} (h : kind ∈ "changed-files" :: Written.textKinds) :
    kind = "changed-files" ∨ ∃ f : TextField, kind = f.key := by
  simp only [Written.textKinds, List.mem_cons, List.not_mem_nil, or_false] at h
  rcases h with rfl | rfl | rfl | rfl
  · exact .inl rfl
  · exact .inr ⟨.body, rfl⟩
  · exact .inr ⟨.branch, rfl⟩
  · exact .inr ⟨.title, rfl⟩

theorem nonempty {kind : String} (h : kind ∈ "changed-files" :: Written.textKinds) :
    Nonempty (ListedKind kind) := by
  obtain rfl | ⟨f, rfl⟩ := kind_cases h
  · exact ⟨files⟩
  · exact ⟨text f⟩

/-! ## §3. All or nothing. -/

/-- A list of patterns for a text field is refused as the first of them that is refused alone. -/
theorem create_text_eq_error_iff {f : TextField} {ws : List String} {e : RuleError} :
    Registry.core.create f.key (.ofStrings ws) = .error e ↔
      FirstRefused (fun w e => Registry.core.create f.key (.ofStrings [w]) = .error e) ws e := by
  have hlist : ∀ ws e, Registry.core.create f.key (.ofStrings ws) = .error e ↔
      ws.mapM TextPattern.ofString = .error e := by
    intro ws e
    show Registry.core.createWith _ f.key (.ofStrings ws) = _ ↔ _
    rw [(text f).create_ofStrings]
    show (ws.mapM TextPattern.ofString).map _ = _ ↔ _
    exact except_map_eq_error_iff
  have hone : ∀ w e, [w].mapM TextPattern.ofString = .error e ↔ TextPattern.ofString w = .error e := by
    intro w e
    rw [mapM_cons_eq]
    cases TextPattern.ofString w <;> simp [Except.bind, Except.map, pure, Except.pure]
  simp only [hlist, hone, mapM_eq_error_iff]

/-- The changed files are made of globs. -/
theorem create_files_eq {ws : List String} :
    Registry.core.create "changed-files" (.ofStrings ws) = (PathGlobs.ofStrings ws).map .files :=
  createWith_ofStrings (k := .files) (fun _ => rfl) (fun _ _ => rfl) _ ws

variable {kind : String} (K : ListedKind kind)

include K

/-- Patterns that are kept one by one make conditions one by one, which say what the patterns say. -/
theorem exists_kept {ws : List String} {ps : List K.Pattern}
    (hread : List.Forall₂ (fun w p => K.read w = .ok p) ws ps)
    (halone : ∀ p ∈ ps, ∃ d, K.keep [p] = .ok d) :
    ∃ ds, List.Forall₂ (fun w d => ∀ scope,
        Registry.core.createWith scope kind (.ofStrings [w]) = .ok d) ws ds ∧
      ∀ pr, ds.map (Condition.verdict pr) = ps.map (K.verdict pr) := by
  induction hread with
  | nil => exact ⟨[], .nil, fun _ => rfl⟩
  | @cons w p ws ps hw _ ih =>
      obtain ⟨⟨d, hd⟩, hrest⟩ := List.forall_mem_cons.mp halone
      obtain ⟨ds, hds, hverdicts⟩ := ih hrest
      refine ⟨d :: ds, .cons (fun scope => ?_) hds, fun pr => ?_⟩
      · rw [K.create_ofStrings, mapM_cons_eq, hw]
        exact hd
      · have hverdict : d.verdict pr = K.verdict pr p := by
          rw [K.verdict_keep hd, List.map_singleton, Verdict.ofAny_singleton]
        rw [List.map_cons, List.map_cons, hverdict, hverdicts]

/-- A list that is accepted: each of its patterns is accepted alone, in any place, and what the list says
is the disjunction of what they say. -/
theorem exists_each {ws : List String} {c : Condition}
    (h : Registry.core.create kind (.ofStrings ws) = .ok c) :
    ∃ ds, List.Forall₂ (fun w d => ∀ scope,
        Registry.core.createWith scope kind (.ofStrings [w]) = .ok d) ws ds ∧
      ∀ pr, c.verdict pr = .ofAny (ds.map (Condition.verdict pr)) := by
  have hcreate : (ws.mapM K.read).bind K.keep = .ok c := (K.create_ofStrings _ ws).symm.trans h
  cases hread : ws.mapM K.read with
  | error e => rw [hread] at hcreate; cases hcreate
  | ok ps =>
      rw [hread] at hcreate
      -- what is kept together may also be kept alone
      obtain ⟨ds, hds, hverdicts⟩ :=
        K.exists_kept (forall₂_of_mapM hread) fun _ => K.keep_alone hcreate
      refine ⟨ds, hds, fun pr => ?_⟩
      rw [K.verdict_keep hcreate, hverdicts]

end ListedKind

/-! ## §4. One by one. -/

section Each

variable {kind : String} {ws : List String} {ds : List Condition}
  (heach : List.Forall₂ (fun w d => ∀ scope,
    Registry.core.createWith scope kind (.ofStrings [w]) = .ok d) ws ds)

include heach

theorem exists_create_each (w : String) (hw : w ∈ ws) :
    ∃ d, Registry.core.create kind (.ofStrings [w]) = .ok d := by
  induction heach with
  | nil => cases hw
  | @cons w' d ws ds hd _ ih =>
      rcases List.mem_cons.mp hw with rfl | hw
      · exact ⟨d, hd _⟩
      · exact ih hw

/-- Some condition holds if some pattern makes a condition that does. -/
theorem any_holds_iff (pr : PullRequest) :
    ds.any (·.holds pr) = true ↔
      ∃ w ∈ ws, ∃ d, Registry.core.create kind (.ofStrings [w]) = .ok d ∧ d.holds pr = true := by
  induction heach with
  | nil => simp
  | @cons w d ws ds hw _ ih =>
      have hfirst : (∃ d, Registry.core.create kind (.ofStrings [w]) = .ok d ∧ d.holds pr = true) ↔
          d.holds pr = true := by
        have hcreate : Registry.core.create kind (.ofStrings [w]) = .ok d := hw _
        simp [hcreate]
      rw [List.any_cons, Bool.or_eq_true, List.exists_mem_cons_iff]
      exact or_congr hfirst.symm ih

/-- As items of a composite the patterns build one member each. -/
theorem members_each :
    Builder.members (Registry.core.viewIn 0)
      (ws.map fun w => .object [(kind, .ofStrings [w])]) = ds := by
  induction heach with
  | nil => rfl
  | @cons w d ws ds hw _ ih =>
      have hmember : Builder.members (Registry.core.viewIn 0)
          [.object [(kind, .ofStrings [w])]] = [d] := by
        rw [Builder.members_singleton_object]
        exact List.filterMap_cons_some (congrArg Except.toOption (hw _))
      rw [List.map_cons, ← List.singleton_append, Builder.members_append, ih, hmember]
      rfl

/-- The composite of the patterns one by one, where there are some and not too many. -/
theorem create_any_each (hsome : 1 ≤ ws.length) (hfew : ws.length ≤ 256) :
    Registry.core.create "any" (.array (ws.map fun w => .object [(kind, .ofStrings [w])]))
      = .ok (.any ds) := by
  have hlength : ds.length = ws.length := heach.length_eq.symm
  have hnonempty : ¬ds.isEmpty = true := by
    rw [List.isEmpty_iff_length_eq_zero, hlength]
    omega
  rw [Registry.create_any rfl, Builder.requireMembers_array, members_each heach,
    if_neg (by omega), if_neg hnonempty]
  rfl

end Each

/-! ## §5. Lists. -/

/-- A list is accepted if each of its patterns is and, if they are globs, they can be used together. -/
theorem exists_create_iff {kind : String} (hkind : kind ∈ "changed-files" :: Written.textKinds)
    {ws : List String} :
    (∃ c, Registry.core.create kind (.ofStrings ws) = .ok c) ↔
      (∀ w ∈ ws, ∃ c, Registry.core.create kind (.ofStrings [w]) = .ok c) ∧
        (kind = "changed-files" → PathGlobs.combinationProblem? ws = none) := by
  obtain rfl | ⟨f, rfl⟩ := ListedKind.kind_cases hkind
  case inl =>
    -- globs are compiled one by one and then together
    have hok : ∀ ws, (∃ c, Registry.core.create "changed-files" (.ofStrings ws) = .ok c) ↔
        (∀ w ∈ ws, (PathGlob.compile w).isOk = true) ∧ PathGlobs.combinationProblem? ws = none := by
      intro ws
      have hglobs : (∃ c, Registry.core.create "changed-files" (.ofStrings ws) = .ok c) ↔
          ∃ gs, PathGlobs.ofStrings ws = .ok gs := by
        simp only [ListedKind.create_files_eq, except_map_eq_ok_iff]
        exact ⟨fun ⟨_, gs, hgs, _⟩ => ⟨gs, hgs⟩, fun ⟨gs, hgs⟩ => ⟨_, gs, hgs, rfl⟩⟩
      rw [hglobs, ← except_isOk_iff, PathGlobs.isOk_ofStrings, Bool.and_eq_true, List.all_eq_true,
        Option.isNone_iff_eq_none]
    constructor
    · intro h
      refine ⟨fun w hw => ?_, fun _ => ((hok ws).mp h).2⟩
      obtain ⟨c, hc⟩ := h
      obtain ⟨ds, heach, -⟩ := ListedKind.files.exists_each hc
      exact exists_create_each heach w hw
    · rintro ⟨heach, htogether⟩
      refine (hok ws).mpr ⟨fun w hw => ?_, htogether rfl⟩
      exact ((hok [w]).mp (heach w hw)).1 w List.mem_cons_self
  case inr =>
    -- texts are only compiled one by one
    have htext : f.key ≠ "changed-files" := by cases f <;> decide
    rw [and_iff_left fun h => absurd h htext]
    calc (∃ c, Registry.core.create f.key (.ofStrings ws) = .ok c)
      _ ↔ ∀ e, ¬Registry.core.create f.key (.ofStrings ws) = .error e := except_exists_ok_iff
      _ ↔ ∀ e, ¬FirstRefused (fun w e => Registry.core.create f.key (.ofStrings [w]) = .error e) ws e :=
          forall_congr' fun _ => not_congr ListedKind.create_text_eq_error_iff
      _ ↔ ∀ w ∈ ws, ∀ e, ¬Registry.core.create f.key (.ofStrings [w]) = .error e :=
          forall_not_firstRefused_iff
      _ ↔ ∀ w ∈ ws, ∃ c, Registry.core.create f.key (.ofStrings [w]) = .ok c :=
          forall₂_congr fun _ _ => except_exists_ok_iff.symm

/-- **A list of patterns is the disjunction of its patterns.** -/
theorem create_ofStrings_disjunction {kind : String}
    (hkind : kind ∈ "changed-files" :: Written.textKinds) (ws : List String) :
    let create := fun ws => Registry.core.create kind (.ofStrings ws)
    (kind ≠ "changed-files" → ∀ e,
      create ws = .error e ↔ FirstRefused (fun w e => create [w] = .error e) ws e) ∧
    (kind = "changed-files" → ∀ e, create ws = .error e ↔ Written.GlobsRefusal ws e) ∧
    ((∃ c, create ws = .ok c) ↔ (∀ w ∈ ws, ∃ c, create [w] = .ok c) ∧
      (kind = "changed-files" → PathGlobs.combinationProblem? ws = none)) ∧
    ∀ c, create ws = .ok c →
      (∀ pr, c.holds pr = true ↔ ∃ w ∈ ws, ∃ d, create [w] = .ok d ∧ d.holds pr = true) ∧
      (1 ≤ ws.length → ws.length ≤ 256 → ∃ a,
        Registry.core.create "any" (.array (ws.map fun w => .object [(kind, .ofStrings [w])]))
          = .ok a ∧
        ∀ pr, a.holds pr = c.holds pr ∧
          ∀ path, path ∈ (a.trace pr).matchedFiles ↔ path ∈ (c.trace pr).matchedFiles) := by
  refine ⟨fun htext e => ?_, fun hfiles e => ?_, exists_create_iff hkind, fun c hc => ?_⟩
  · obtain rfl | ⟨f, rfl⟩ := ListedKind.kind_cases hkind
    · exact absurd rfl htext
    · exact ListedKind.create_text_eq_error_iff
  · subst hfiles
    show Registry.core.create "changed-files" (.ofStrings ws) = _ ↔ _
    rw [ListedKind.create_files_eq, except_map_eq_error_iff, PathGlobs.ofStrings_eq_error_iff]
  · obtain ⟨K⟩ := ListedKind.nonempty hkind
    obtain ⟨ds, heach, hverdict⟩ := K.exists_each hc
    constructor
    · intro pr
      have hholds : c.holds pr = (ds.map (Condition.verdict pr)).any Verdict.holds :=
        congrArg Verdict.holds (hverdict pr)
      rw [hholds, List.any_map]
      exact any_holds_iff heach pr
    · intro hsome hfew
      refine ⟨_, create_any_each heach hsome hfew, fun pr => ?_⟩
      have hsame : (Condition.any ds).verdict pr = c.verdict pr := by
        rw [Condition.verdict_any, hverdict]
      refine ⟨congrArg Verdict.holds hsame, fun path => ?_⟩
      -- each file is listed once, but the same ones are
      rw [Trace.matchedFiles, Trace.matchedFiles, List.mem_eraseDups, List.mem_eraseDups]
      exact Set.ext_iff.mp (congrArg Verdict.files hsame) path

/-- Two globs, and the files that either of them accepts.  Of three patterns the second is refused, and
nothing is said of the third. -/
theorem create_ofStrings_disjunction_sources :
    let globs := ["*.rs", "docs/**"]
    let pr : PullRequest := { changedFiles := ["docs/lib.rs", "docs/a.md", "a.py", "docs/lib.rs"] }
    "changed-files" ∈ "changed-files" :: Written.textKinds ∧
      "title" ∈ "changed-files" :: Written.textKinds ∧
      (∃ c a, Registry.core.create "changed-files" (.ofStrings globs) = .ok c ∧
        Registry.core.create "any"
          (.array (globs.map fun w => .object [("changed-files", .ofStrings [w])])) = .ok a ∧
        c.holds pr = true ∧ a.holds pr = c.holds pr ∧
        (c.trace pr).matchedFiles = ["docs/lib.rs", "docs/a.md"] ∧
        ∀ path, path ∈ (a.trace pr).matchedFiles ↔ path ∈ (c.trace pr).matchedFiles) ∧
      Registry.core.create "title" (.ofStrings ["fix", "[", "("])
        = .error (.invalidPattern "[" .malformed) := by
  intro globs pr
  have hfiles : "changed-files" ∈ "changed-files" :: Written.textKinds := by decide
  have htitle : "title" ∈ "changed-files" :: Written.textKinds := by decide
  have hseen : ((Registry.core.create "changed-files" (.ofStrings globs)).toOption.map fun c =>
      (c.holds pr, (c.trace pr).matchedFiles)) = some (true, ["docs/lib.rs", "docs/a.md"]) := by
    decide +kernel
  obtain ⟨c, hc, hseen⟩ := Option.map_eq_some_iff.mp hseen
  obtain ⟨hholds, hmatched⟩ := Prod.mk.inj hseen
  have hok := except_toOption_eq_some_iff.mp hc
  obtain ⟨a, ha, hsame⟩ :=
    ((create_ofStrings_disjunction hfiles globs).2.2.2 c hok).2 (by decide) (by decide)
  refine ⟨hfiles, htitle, ⟨c, a, hok, ha, hholds, (hsame pr).1, hmatched, (hsame pr).2⟩, ?_⟩
  have hfix : (Registry.core.create "title" (.ofStrings ["fix"])).isOk = true := by decide +kernel
  refine ((create_ofStrings_disjunction htitle _).1 (by decide) _).mpr
    ⟨["fix"], "[", ["("], rfl, fun w hw e he => ?_, by rfl⟩
  dsimp only at he
  rw [List.mem_singleton.mp hw] at he
  rw [he] at hfix
  cases hfix

/-- A list of globs is refused with an error that names all of them, although each makes a condition
alone. -/
theorem create_ofStrings_globs_tooLarge :
    let globs := List.replicate 50 (questionMarks 4096)
    (∀ w ∈ globs, ∃ c, Registry.core.create "changed-files" (.ofStrings [w]) = .ok c) ∧
      Registry.core.create "changed-files" (.ofStrings globs)
        = .error (.invalidGlob (", ".intercalate globs) "error building NFA") := by
  intro globs
  constructor
  · intro w hw
    obtain ⟨gs, hgs⟩ := PathGlobs.exists_ofStrings_questionMarks (Nat.le_refl 4096)
    rw [List.eq_of_mem_replicate hw, ListedKind.create_files_eq, hgs]
    exact ⟨_, rfl⟩
  · rw [ListedKind.create_files_eq, PathGlobs.ofStrings_questionMarks (Nat.le_refl 4096) (by decide)]
    rfl

end PullTriage
