import PullTriage.Proofs.DocumentMeaning

/-!
  PullTriage.Proofs.Normalization: writing compiled rules down and compiling them again.

  What is written for a condition is read back as that condition: the patterns as they are written, an
  `or` field by field, a composite member by member.  As the keys of a map are distinct, so are the
  kinds of the conditions in a group and the names of the labels, and nothing is merged when they are
  written as maps.  So compiling what was written gives the same rules:

      Registry.core.compile ⟨entries of S.toValue⟩ = S      where S = Registry.core.compile d
-/

namespace PullTriage

open Json

/-! ## §1. Patterns. -/

theorem mapM_eq_ok_of_forall {ε α β : Type} {f : α → Except ε β} {g : β → α} {bs : List β}
    (h : ∀ b ∈ bs, f (g b) = .ok b) : (bs.map g).mapM f = .ok bs := by
  induction bs with
  | nil => rfl
  | cons b bs ih =>
      obtain ⟨hb, hbs⟩ := List.forall_mem_cons.mp h
      rw [List.map_cons, mapM_cons_eq, hb, ih hbs]
      rfl

theorem TextPattern.ofString_written (p : TextPattern) : ofString p.written = .ok p := by
  obtain ⟨written, regex, compiled⟩ := p
  unfold ofString
  split
  case h_1 regex' h =>
    obtain rfl : regex' = regex := Except.ok.inj (h.symm.trans compiled)
    rfl
  case h_2 e h => cases h.symm.trans compiled

theorem PathGlob.ofString_written (g : PathGlob) : ofString g.written = .ok g := by
  obtain ⟨written, glob, compiled⟩ := g
  unfold ofString
  split
  case h_1 glob' h =>
    obtain rfl : glob' = glob := Except.ok.inj (h.symm.trans compiled)
    rfl
  case h_2 e h => cases h.symm.trans compiled

/-- Patterns as they are written compile to themselves. -/
theorem TextPatterns.ofStrings_written (ps : TextPatterns) : ofStrings ps.written = .ok ps := by
  unfold ofStrings written
  rw [mapM_eq_ok_of_forall fun p _ => p.ofString_written]
  rfl

/-- A list of globs reads back from what it was written as: the parts are accepted one by one, and so is
the set, since it was accepted when it was built. -/
theorem PathGlobs.ofStrings_written (gs : PathGlobs) : ofStrings gs.written = .ok gs := by
  rw [ofStrings_eq_ok_iff]
  unfold written
  rw [mapM_eq_ok_of_forall fun g _ => g.ofString_written]

/-! ## §2. Conditions. -/

/-- Fields that are written with patterns are set one after the other. -/
theorem addFields_written (fields : List (TextField × TextPatterns)) :
    ∀ m : FieldPatterns,
      Builder.addFields m (fields.map fun e => (e.1.key, Value.ofStrings e.2.written))
        = .ok (fields.foldl (fun m e => m.set e.1 e.2) m) := by
  induction fields with
  | nil => exact fun _ => rfl
  | cons e fields ih =>
      intro m
      rw [List.map_cons, List.foldl_cons, ← ih (m.set e.1 e.2), Builder.addFields,
        TextField.ofKey?_key]
      dsimp only
      rw [Builder.requirePatterns, Builder.patternList?_ofStrings]
      show (TextPatterns.ofStrings e.2.written).bind _ = _
      rw [e.2.ofStrings_written]
      rfl

/-- The fields of an `or` are read back into their places. -/
theorem addFields_toList (m : FieldPatterns) :
    Builder.addFields {} (m.toList.map fun e => (e.1.key, Value.ofStrings e.2.written)) = .ok m := by
  rw [addFields_written, m.toList_eq]
  obtain ⟨branch, title, body⟩ := m
  cases branch <;> cases title <;> cases body <;> rfl

/-- Members are read back when each of them is. -/
theorem members_toValues {scope : ScopeView} {cs : List Condition}
    (h : ∀ c ∈ cs, scope.create c.kind c.config = .ok c) :
    Builder.members scope (Condition.toValues cs) = cs := by
  induction cs with
  | nil => rfl
  | cons c cs ih =>
      obtain ⟨hc, hcs⟩ := List.forall_mem_cons.mp h
      have hcons : Condition.toValues (c :: cs) = [c.toValue] ++ Condition.toValues cs := rfl
      have hmember : Builder.members scope [c.toValue] = [c] := by
        rw [Condition.toValue, Builder.members_singleton_object]
        exact List.filterMap_cons_some (congrArg Except.toOption hc)
      rw [hcons, Builder.members_append, ih hcs, hmember]
      rfl

/-- What a scope builds, it builds again from what is written for it. -/
def ScopeView.Rereads (scope : ScopeView) : Prop :=
  ∀ name v c, scope.create name v = .ok c → scope.create c.kind c.config = .ok c

/-- The members of a composite read back from their written form, in the scope that built them. -/
theorem ScopeView.Rereads.members {scope : ScopeView} (h : scope.Rereads) (items : List Value) :
    Builder.members scope (Condition.toValues (Builder.members scope items))
      = Builder.members scope items := by
  refine members_toValues fun c hc => ?_
  obtain ⟨-, name, v, -, -, hcreate⟩ := Builder.mem_members.mp hc
  exact h name v c hcreate

namespace Makes

variable {nested : Except RuleError ScopeView} {v : Value} {k : BuiltInKind} {c : Condition}

theorem kind_eq (h : Makes nested v k c) : c.kind = k.name := by
  cases h <;> rfl

theorem accepts (h : Makes nested v k c) : k.builder.accepts v = true := by
  cases h with
  | text listed | files listed =>
      show (Builder.patternList? v).isSome = true
      rw [listed]
      rfl
  | or map =>
      subst map
      rfl
  | all _ list | any _ list =>
      subst list
      rfl

/-- **What a builder makes, it makes again from what is written for it.** -/
theorem config (h : Makes nested v k c) (hscope : ∀ scope, nested = .ok scope → scope.Rereads) :
    Makes nested c.config k c := by
  cases h with
  | text => exact .text (Builder.patternList?_ofStrings _) (TextPatterns.ofStrings_written _)
  | files => exact .files (Builder.patternList?_ofStrings _) (PathGlobs.ofStrings_written _)
  | or => exact .or rfl (addFields_toList _)
  | all opened _ built some few =>
      subst built
      exact .all opened rfl ((hscope _ opened).members _) some few
  | any opened _ built some few =>
      subst built
      exact .any opened rfl ((hscope _ opened).members _) some few

end Makes

/-- One level: if the scope below builds its conditions again, so does this one. -/
theorem createWith_config {scope : ScopeView} {name : String} {v : Value}
    {c : Condition} (hinner : ∀ inner, scope.nested = .ok inner → inner.Rereads)
    (h : Registry.core.createWith scope name v = .ok c) :
    c.kind = name ∧ Registry.core.createWith scope c.kind c.config = .ok c := by
  obtain ⟨b, hfind, -, hbuild⟩ := Registry.createWith_eq_ok_iff.mp h
  obtain ⟨k, hk⟩ := core_named (Registry.find?_mem hfind)
  obtain ⟨rfl, rfl⟩ := Prod.mk.inj hk
  have hmakes := BuiltInKind.build_eq_ok_iff.mp hbuild
  have hagain := hmakes.config hinner
  refine ⟨hmakes.kind_eq, Registry.createWith_eq_ok_iff.mpr ?_⟩
  rw [hmakes.kind_eq]
  exact ⟨_, hfind, hagain.accepts, BuiltInKind.build_eq_ok_iff.mpr hagain⟩

/-- However many composites may still be opened, a condition stands under its kind and is built again
from what is written for it. -/
theorem createIn_config (levels : Nat) :
    ∀ {name : String} {v : Value} {c : Condition}, Registry.core.createIn levels name v = .ok c →
      c.kind = name ∧ Registry.core.createIn levels c.kind c.config = .ok c := by
  induction levels with
  | zero =>
      intro name v c h
      exact createWith_config (fun _ hscope => nomatch hscope) h
  | succ levels ih =>
      intro name v c h
      refine createWith_config (fun scope hscope => ?_) h
      rw [← Except.ok.inj hscope]
      exact fun _ _ _ hc => (ih hc).2

/-! ## §3. Groups and labels. -/

/-- Conditions that are built again from their kinds and values all come back, in their order. -/
theorem filterMap_create_config {cs : List Condition}
    (h : ∀ c ∈ cs, Registry.core.create c.kind c.config = .ok c) :
    ((cs.map fun c => (c.kind, c.config)).filterMap fun e =>
      (Registry.core.create e.1 e.2).toOption) = cs := by
  rw [List.filterMap_map]
  induction cs with
  | nil => rfl
  | cons c cs ih =>
      obtain ⟨hc, hcs⟩ := List.forall_mem_cons.mp h
      rw [List.filterMap_cons, Function.comp_apply, hc, ih hcs]
      rfl

/-- The kinds of the conditions that entries build are keys of the entries, in their order. -/
theorem sublist_kinds (entries : List (String × Value)) :
    ((entries.filterMap fun e => (Registry.core.create e.1 e.2).toOption).map Condition.kind).Sublist
      (Entries.keys entries) := by
  induction entries with
  | nil => exact .slnil
  | cons e entries ih =>
      rw [List.filterMap_cons]
      cases hc : Registry.core.create e.1 e.2 with
      | error => exact ih.cons e.1
      | ok c =>
          have hkind : c.kind = e.1 := (createIn_config maxNesting hc).1
          show (c.kind :: _).Sublist (e.1 :: Entries.keys entries)
          rw [hkind]
          exact ih.cons_cons e.1

/-- A group is compiled again from what is written for it. -/
theorem compileGroup?_toValue {v : Value} {g : RuleGroup} (h : v.DistinctKeys)
    (hg : Registry.core.compileGroup? v = some g) :
    Registry.core.compileGroup? g.toValue = some g := by
  obtain ⟨entries, rfl, hconditions, hfew⟩ := Registry.compileGroup?_eq_some_iff.mp hg
  have hkinds : (g.conditions.map Condition.kind).Nodup := by
    rw [← hconditions]
    exact h.nodup.sublist (sublist_kinds entries)
  have hself : Entries.ofList (g.conditions.map fun c => (c.kind, c.config))
      = g.conditions.map fun c => (c.kind, c.config) := by
    apply Entries.ofList_eq_self
    rw [Entries.keys, List.map_map]
    exact hkinds
  refine Registry.compileGroup?_eq_some_iff.mpr
    ⟨g.conditions.map fun c => (c.kind, c.config), congrArg Value.object hself, ?_, hfew⟩
  refine filterMap_create_config fun c hc => ?_
  obtain ⟨-, name, w, -, -, hcreate⟩ := Registry.exists_entry_of_mem_conditions hg hc
  exact (createIn_config maxNesting hcreate).2

/-- Compiling what the compiled groups are written as gives these groups. -/
theorem compileGroups_toValue {v : Value} (h : v.DistinctKeys) :
    Registry.core.compileGroups (.array ((Registry.core.compileGroups v).map RuleGroup.toValue))
      = Registry.core.compileGroups v := by
  have hgroups : ∀ g ∈ Registry.core.compileGroups v,
      Registry.core.compileGroup? g.toValue = some g := by
    intro g hg
    obtain ⟨items, w, rfl, hw, hgroup⟩ := Registry.mem_compileGroups.mp hg
    exact compileGroup?_toValue (h.item w hw) hgroup
  show ((Registry.core.compileGroups v).map RuleGroup.toValue).filterMap
    Registry.core.compileGroup? = _
  rw [List.filterMap_map]
  generalize Registry.core.compileGroups v = groups at hgroups
  induction groups with
  | nil => rfl
  | cons g gs ih =>
      obtain ⟨hg, hgs⟩ := List.forall_mem_cons.mp hgroups
      rw [List.filterMap_cons, Function.comp_apply, hg, ih hgs]

/-- What is written for a label. -/
def LabelRules.entry (l : LabelRules) : String × Value :=
  (l.name, .array (l.groups.map RuleGroup.toValue))

/-- Labels whose groups are compiled again are compiled again. -/
theorem compile_entries {ls : List LabelRules}
    (h : ∀ l ∈ ls, Registry.core.compileGroups l.entry.2 = l.groups ∧ l.groups ≠ []) :
    Registry.core.compile ⟨ls.map LabelRules.entry⟩ = ⟨ls⟩ := by
  unfold Registry.compile
  rw [RuleSet.mk.injEq]
  dsimp only
  induction ls with
  | nil => rfl
  | cons l ls ih =>
      obtain ⟨⟨hgroups, hne⟩, hls⟩ := List.forall_mem_cons.mp h
      rw [List.map_cons, List.filterMap_cons, hgroups, ih hls]
      obtain ⟨name, groups⟩ := l
      cases groups with
      | nil => exact absurd rfl hne
      | cons g gs => rfl

/-- **Compiled rules that are written down compile to the same rules.** -/
theorem compile_toValue {v : Value} (h : v.DistinctKeys) {d : RuleDescription}
    (hd : RuleDescription.ofValue v = .ok d) :
    ∃ d', RuleDescription.ofValue (Registry.core.compile d).toValue = .ok d' ∧
      Registry.core.compile d' = Registry.core.compile d ∧
      (Registry.core.compile d').toValue = (Registry.core.compile d).toValue ∧
      ∀ pr, (Registry.core.compile d').classify pr = (Registry.core.compile d).classify pr := by
  have hlabels : (Entries.keys d.labels).Nodup ∧ ∀ e ∈ d.labels, e.2.DistinctKeys := by
    cases v with
    | object entries =>
        rw [← Except.ok.inj hd]
        exact ⟨h.nodup, h.entry⟩
    | null =>
        rw [← Except.ok.inj hd]
        exact ⟨List.nodup_nil, fun _ he => nomatch he⟩
    | bool | number | string | array => cases hd
  -- the labels of a compiled document are distinct, so no entry is overwritten when they are read
  have hself : Entries.ofList ((Registry.core.compile d).labels.map LabelRules.entry)
      = (Registry.core.compile d).labels.map LabelRules.entry := by
    apply Entries.ofList_eq_self
    rw [Entries.keys, List.map_map]
    exact hlabels.1.sublist (Registry.sublist_names_compile d)
  -- each label is compiled by itself, and its groups read back
  have hagain : Registry.core.compile ⟨(Registry.core.compile d).labels.map LabelRules.entry⟩
      = Registry.core.compile d := by
    refine compile_entries fun l hl => ?_
    obtain ⟨w, hw, hgroups, hne⟩ := Registry.mem_compile.mp hl
    refine ⟨?_, hne⟩
    rw [LabelRules.entry, ← hgroups]
    exact compileGroups_toValue (hlabels.2 _ hw)
  refine ⟨_, ?_, hagain, congrArg RuleSet.toValue hagain,
    fun pr => congrArg (RuleSet.classify · pr) hagain⟩
  show RuleDescription.ofValue (.object (Entries.ofList
    ((Registry.core.compile d).labels.map LabelRules.entry))) = _
  rw [hself]
  rfl

/-- A group of two entries, a third one being left out.  The item of two entries becomes two items, and
the fields of the `or` change places. -/
theorem compile_toValue_docs :
    let v : Value := .object [("bug", .null), ("docs", .array [.object [
      ("all", .array [.object [("title", .string "a"), ("changed-files", .string "*.md")], .bool true]),
      ("reviewer", .string "b"),
      ("or", .object [("body", .string "c"), ("title", .array []), ("label", .null)])]])]
    let d : RuleDescription := ⟨v.object?.getD []⟩
    v.DistinctKeys ∧ RuleDescription.ofValue v = .ok d ∧
      (Registry.core.compile d).toValue = .object [("docs", .array [.object [
        ("all", .array [.object [("title", .ofStrings ["a"])],
          .object [("changed-files", .ofStrings ["*.md"])]]),
        ("or", .object [("title", .ofStrings []), ("body", .ofStrings ["c"])])]])] ∧
      ∃ d', RuleDescription.ofValue (Registry.core.compile d).toValue = .ok d' ∧
        Registry.core.compile d' = Registry.core.compile d := by
  intro v d
  have hkeys : v.DistinctKeys := by simp [v, Entries.keys]
  have hd : RuleDescription.ofValue v = .ok d := rfl
  obtain ⟨d', hd', hagain, -⟩ := compile_toValue hkeys hd
  exact ⟨hkeys, hd, by rfl, d', hd', hagain⟩

end PullTriage
