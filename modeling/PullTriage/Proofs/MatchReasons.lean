import PullTriage.Proofs.Normalization

/-!
  PullTriage.Proofs.MatchReasons: a label that is reported has a reason.

  No condition of a compiled label holds for want of something to check.  So in the trace of a label that
  is reported there is a leaf that really matched, and what matched there is written in the document:

      r ∈ (classify ..).results  →  Reason pr r.trace (patterns under the label) (globs under the label)

  Main definitions:
    * `Written.Pattern`, `Written.Glob`: what is written under a label;
    * `Condition.Searches`, `Condition.Globs`: the same in a compiled condition;
    * `Reason`: a trace with a leaf that matched.
-/

namespace PullTriage

open Json

/-! ## §1. What is written under a label. -/

namespace Written

/-- The string `w` is the value or an item of the list that the value is. -/
def Lists (v : Value) (w : String) : Prop :=
  v = .string w ∨ ∃ items, v = .array items ∧ .string w ∈ items

/-- The entry `key: v` is the given one or stands in an item of the composite that the given one is. -/
inductive InEntry (key : String) (v : Value) : String → Value → Prop where
  | here : InEntry key v key v
  | member {kind k : String} {items : List Value} {entries : List (String × Value)} {w : Value}
      (composite : kind = "all" ∨ kind = "any") (item : .object entries ∈ items)
      (entry : (k, w) ∈ entries) (inside : InEntry key v k w) : InEntry key v kind (.array items)

/-- The entry `key: v` stands in one of the groups of a label, perhaps inside a composite. -/
def InLabel (key : String) (v : Value) (rules : Value) : Prop :=
  ∃ groups entries k w, rules = .array groups ∧ .object entries ∈ groups ∧ (k, w) ∈ entries ∧
    InEntry key v k w

/-- The pattern `w` is written for a text field, under the field itself or under the field in an
`or`. -/
def Pattern (rules : Value) (f : TextField) (w : String) : Prop :=
  ∃ v, Lists v w ∧ (InLabel f.key v rules ∨
    ∃ entries, (f.key, v) ∈ entries ∧ InLabel "or" (.object entries) rules)

/-- The glob `w` is written for the changed files. -/
def Glob (rules : Value) (w : String) : Prop := ∃ v, Lists v w ∧ InLabel "changed-files" v rules

theorem lists_of_patternList {v : Value} {ws : List String}
    (h : Builder.patternList? v = some ws) {w : String} (hw : w ∈ ws) : Lists v w := by
  cases v with
  | string s =>
      rw [← Option.some.inj h] at hw
      exact .inl (congrArg Value.string (List.mem_singleton.mp hw).symm)
  | array items =>
      refine .inr ⟨items, rfl, ?_⟩
      -- the test that singles out `w` is passed by a string of the list and so by an item
      have hsome := (@string?_mapM_spec (· == w) items ws h).2
      have hany : (ws.any fun x => x == w) = true := List.any_eq_true.mpr ⟨w, hw, beq_self_eq_true w⟩
      obtain ⟨item, hitem, htest⟩ := List.any_eq_true.mp (hsome.trans hany)
      cases item with
      | string s =>
          obtain rfl : s = w := by simpa [Value.string?] using htest
          exact hitem
      | _ => simp [Value.string?] at htest
  | _ => cases h

end Written

/-! ## §2. What a compiled condition asks for. -/

namespace Condition

/-- The pattern `w` is searched for in a text field, by a node for the field or by an `or`. -/
def Searches (c : Condition) (f : TextField) (w : String) : Prop :=
  ∃ ps : TextPatterns, w ∈ ps.written ∧
    ((text f ps).IsNode c ∨ ∃ m : FieldPatterns, m.get f = some ps ∧ (or m).IsNode c)

/-- The glob `w` is matched against the changed files by some node. -/
def Globs (c : Condition) (w : String) : Prop :=
  ∃ gs : PathGlobs, w ∈ gs.written ∧ (files gs).IsNode c

/-- Whether a node is a composite without members or of a kind from outside. -/
def IsVacuous : Condition → Prop
  | all cs => cs = []
  | custom _ => True
  | _ => False

end Condition

/-- Some label of the name searches for the pattern in the field. -/
def RuleSet.Searches (s : RuleSet) (label : String) (f : TextField) (w : String) : Prop :=
  ∃ l ∈ s.labels, l.name = label ∧ ∃ g ∈ l.groups, ∃ c ∈ g.conditions, c.Searches f w

/-- Some label of the name matches the glob against the changed files. -/
def RuleSet.Globs (s : RuleSet) (label : String) (w : String) : Prop :=
  ∃ l ∈ s.labels, l.name = label ∧ ∃ g ∈ l.groups, ∃ c ∈ g.conditions, c.Globs w

/-! ## §3. Reasons. -/

/-- `n` is a node of a trace. -/
inductive Trace.IsNode (n : Trace) : Trace → Prop where
  | root : IsNode n n
  | all {m : Bool} {ts : List Trace} {t : Trace} (h : t ∈ ts) (node : IsNode n t) :
      IsNode n (.all m ts)
  | any {m : Bool} {ts : List Trace} {t : Trace} (h : t ∈ ts) (node : IsNode n t) :
      IsNode n (.any m ts)
  | or {m : Bool} {ts : List Trace} {t : Trace} (h : t ∈ ts) (node : IsNode n t) :
      IsNode n (.or m ts)

/-- A trace has a leaf that really matched: a text node with one of some patterns, which by itself is
found in the field, or a files node with files, each of them changed and matched by one of some globs by
itself. -/
def Reason (pr : PullRequest) (t : Trace) (pattern : TextField → String → Prop)
    (glob : String → Prop) : Prop :=
  (∃ f w, (Trace.text f true (some w)).IsNode t ∧ pattern f w ∧
    TextPattern.finds (f.read pr) w = true) ∨
  ∃ fs, (Trace.files true fs).IsNode t ∧ fs ≠ [] ∧
    ∀ path ∈ fs, path ∈ pr.changedFiles ∧ ∃ w, glob w ∧ PathGlob.covers path w = true

section Reasons

variable {pr : PullRequest}

theorem Reason.imp {t t' : Trace} {pattern pattern' : TextField → String → Prop}
    {glob glob' : String → Prop} (h : Reason pr t pattern glob)
    (node : ∀ n : Trace, n.IsNode t → n.IsNode t') (hpattern : ∀ f w, pattern f w → pattern' f w)
    (hglob : ∀ w, glob w → glob' w) : Reason pr t' pattern' glob' := by
  rcases h with ⟨f, w, hnode, hw, hfinds⟩ | ⟨fs, hnode, hne, hfs⟩
  · exact .inl ⟨f, w, node _ hnode, hpattern f w hw, hfinds⟩
  · refine .inr ⟨fs, node _ hnode, hne, fun path hpath => ?_⟩
    obtain ⟨hchanged, w, hw, hcovers⟩ := hfs path hpath
    exact ⟨hchanged, w, hglob w hw, hcovers⟩

/-- The reason of a member is one of the composite. -/
theorem Reason.lift {c c' : Condition} {t t' : Trace} (h : Reason pr t c.Searches c.Globs)
    (node : ∀ n : Trace, n.IsNode t → n.IsNode t')
    (below : ∀ n : Condition, n.IsNode c → n.IsNode c') :
    Reason pr t' c'.Searches c'.Globs := by
  refine h.imp node ?_ ?_
  · rintro f w ⟨ps, hw, hnode | ⟨m, hm, hnode⟩⟩
    · exact ⟨ps, hw, .inl (below _ hnode)⟩
    · exact ⟨ps, hw, .inr ⟨m, hm, below _ hnode⟩⟩
  · rintro w ⟨gs, hw, hnode⟩
    exact ⟨gs, hw, below _ hnode⟩

/-- Patterns that are found give a text node with one of them. -/
theorem traceText_of_foundIn {f : TextField} {ps : TextPatterns}
    (h : ps.foundIn (f.read pr) = true) :
    ∃ w ∈ ps.written, Condition.traceText pr f ps = .text f true (some w) ∧
      TextPattern.finds (f.read pr) w = true := by
  rw [← ps.isSome_find?, Option.isSome_iff_exists] at h
  obtain ⟨w, hw⟩ := h
  obtain ⟨before, p, after, hpatterns, rfl, hfound, -⟩ := TextPatterns.isEarliest_find? hw
  refine ⟨p.written, ?_, ?_, (p.foundIn_eq_finds _).symm.trans hfound⟩
  · rw [TextPatterns.written, hpatterns]
    exact List.mem_map_of_mem (List.mem_append_right _ List.mem_cons_self)
  · rw [Condition.traceText, hw]
    rfl

theorem reason_text {f : TextField} {ps : TextPatterns}
    (h : (Condition.text f ps).holds pr = true) :
    Reason pr ((Condition.text f ps).trace pr) (Condition.text f ps).Searches
      (Condition.text f ps).Globs := by
  obtain ⟨w, hw, htrace, hfinds⟩ := traceText_of_foundIn h
  refine .inl ⟨f, w, ?_, ⟨ps, hw, .inl .root⟩, hfinds⟩
  show (Trace.text f true (some w)).IsNode (Condition.traceText pr f ps)
  rw [htrace]
  exact .root

theorem reason_files {gs : PathGlobs} (h : (Condition.files gs).holds pr = true) :
    Reason pr ((Condition.files gs).trace pr) (Condition.files gs).Searches
      (Condition.files gs).Globs := by
  have hne : gs.accepted pr.changedFiles ≠ [] := (gs.accepted_ne_nil _).mpr h
  have hmatched : (!(gs.accepted pr.changedFiles).isEmpty) = true := by simpa using hne
  refine .inr ⟨gs.accepted pr.changedFiles, ?_, hne, fun path hpath => ?_⟩
  · show (Trace.files true (gs.accepted pr.changedFiles)).IsNode
      (.files (!(gs.accepted pr.changedFiles).isEmpty) (gs.accepted pr.changedFiles))
    rw [hmatched]
    exact .root
  · rw [PathGlobs.accepted, List.mem_eraseDups, List.mem_filter, gs.accepts_eq_any,
      List.any_eq_true] at hpath
    obtain ⟨hchanged, w, hw, hcovers⟩ := hpath
    exact ⟨hchanged, w, ⟨gs, hw, .root⟩, hcovers⟩

theorem reason_or {m : FieldPatterns} (h : (Condition.or m).holds pr = true) :
    Reason pr ((Condition.or m).trace pr) (Condition.or m).Searches (Condition.or m).Globs := by
  rw [holds_or_eq, List.any_eq_true] at h
  obtain ⟨⟨f, ps⟩, hmem, hfound⟩ := h
  obtain ⟨w, hw, htrace, hfinds⟩ := traceText_of_foundIn hfound
  have hget : m.get f = some ps := by
    obtain ⟨g, -, hg⟩ := List.mem_filterMap.mp hmem
    obtain ⟨ps', hps', heq⟩ := Option.map_eq_some_iff.mp hg
    obtain ⟨rfl, rfl⟩ := Prod.mk.inj heq
    exact hps'
  refine .inl ⟨f, w, .or (List.mem_map_of_mem hmem) ?_, ⟨ps, hw, .inr ⟨m, hget, .root⟩⟩, hfinds⟩
  show (Trace.text f true (some w)).IsNode (Condition.traceText pr f ps)
  rw [htrace]
  exact .root

mutual

/-- A condition that holds has a reason, unless some node of it is vacuous. -/
theorem reason_of_holds (pr : PullRequest) : ∀ c : Condition,
    (∀ n : Condition, n.IsNode c → ¬n.IsVacuous) → c.holds pr = true →
      Reason pr (c.trace pr) c.Searches c.Globs
  | .text _ _, _, h => reason_text h
  | .files _, _, h => reason_files h
  | .or _, _, h => reason_or h
  | .custom _, hsolid, _ => absurd trivial (hsolid _ .root)
  | .all [], hsolid, _ => absurd rfl (hsolid _ .root)
  | .all (c :: cs), hsolid, h => by
      -- all members hold, so the first does
      obtain ⟨hc, -⟩ := (Bool.and_eq_true _ _).mp h
      have hreason := reason_of_holds pr c (fun n hn => hsolid n (.all List.mem_cons_self hn)) hc
      exact hreason.lift (fun n hn => .all List.mem_cons_self hn)
        fun n hn => .all List.mem_cons_self hn
  | .any cs, hsolid, h => by
      obtain ⟨c, hmem, htrace, hreason⟩ :=
        reason_of_anyHolds pr cs (fun c hc n hn => hsolid n (.any hc hn)) h
      exact hreason.lift (fun n hn => .any htrace hn) fun n hn => .any hmem hn

theorem reason_of_anyHolds (pr : PullRequest) : ∀ cs : List Condition,
    (∀ c ∈ cs, ∀ n : Condition, n.IsNode c → ¬n.IsVacuous) → Condition.anyHolds pr cs = true →
      ∃ c ∈ cs, c.trace pr ∈ Condition.traces pr cs ∧ Reason pr (c.trace pr) c.Searches c.Globs
  | [], _, h => absurd h Bool.false_ne_true
  | c :: cs, hsolid, h => by
      obtain ⟨hc, hcs⟩ := List.forall_mem_cons.mp hsolid
      rcases (Bool.or_eq_true _ _).mp h with h | h
      · exact ⟨c, List.mem_cons_self, List.mem_cons_self, reason_of_holds pr c hc h⟩
      · obtain ⟨c', hmem, htrace, hreason⟩ := reason_of_anyHolds pr cs hcs h
        exact ⟨c', List.mem_cons_of_mem _ hmem, List.mem_cons_of_mem _ htrace, hreason⟩

end

end Reasons

/-! ## §4. What is compiled is written. -/

/-- Every node of a condition that is built from an entry is itself built from an entry that stands in
it. -/
theorem built_of_isNode (levels : Nat) :
    ∀ {key : String} {v : Value} {c n : Condition}, Registry.core.createIn levels key v = .ok c →
      n.IsNode c → ∃ scope k w, Written.InEntry k w key v ∧
        Registry.core.createWith scope k w = .ok n := by
  -- a node that is not the root is a node of a member, which is built one level below
  have hmember : ∀ {levels : Nat} {kind : String} {items : List Value} {m n : Condition},
      (∀ {key : String} {v : Value} {c : Condition}, Registry.core.createIn levels key v = .ok c →
        n.IsNode c → ∃ scope k w, Written.InEntry k w key v ∧
          Registry.core.createWith scope k w = .ok n) →
      kind = "all" ∨ kind = "any" →
      m ∈ Builder.members (Registry.core.viewIn levels) items → n.IsNode m →
      ∃ scope k w, Written.InEntry k w kind (.array items) ∧
        Registry.core.createWith scope k w = .ok n := by
    intro levels kind items m n ih hkind hm hn
    obtain ⟨entries, key, v, hitem, hentry, hcreate⟩ := Builder.mem_members.mp hm
    obtain ⟨scope, k, w, hinside, hbuilt⟩ := ih hcreate hn
    exact ⟨scope, k, w, .member hkind hitem hentry hinside, hbuilt⟩
  induction levels with
  | zero =>
      intro key v c n h hn
      obtain rfl := hn.eq_of_not_composite (builtIn_core.not_composite h)
      exact ⟨_, key, v, .here, h⟩
  | succ levels ih =>
      intro key v c n h hn
      have hkind := (createIn_config (levels + 1) h).1
      obtain ⟨k, -, hmakes⟩ := builtIn_core.makes h
      cases hn with
      | root => exact ⟨_, key, v, .here, h⟩
      | all hm hn =>
          cases hmakes with
          | all opened list built =>
              subst built list
              rw [Registry.nested_viewInside_succ] at opened
              obtain rfl := Except.ok.inj opened
              exact hmember ih (.inl hkind.symm) hm hn
      | any hm hn =>
          cases hmakes with
          | any opened list built =>
              subst built list
              rw [Registry.nested_viewInside_succ] at opened
              obtain rfl := Except.ok.inj opened
              exact hmember ih (.inr hkind.symm) hm hn

theorem not_isVacuous_of_createWith {scope : ScopeView} {key : String} {v : Value}
    {c : Condition} (h : Registry.core.createWith scope key v = .ok c) : ¬c.IsVacuous := by
  obtain ⟨k, -, hmakes⟩ := builtIn_core.makes h
  cases hmakes with
  | text | files | or | any => exact id
  | all _ _ _ some => exact some

/-- The patterns of an `or` stand under the keys of their fields. -/
theorem get_of_addFields {entries : List (String × Value)} :
    ∀ {m m' : FieldPatterns}, Builder.addFields m entries = .ok m' →
      ∀ {f : TextField} {ps : TextPatterns}, m'.get f = some ps → m.get f = some ps ∨
        ∃ v ws, (f.key, v) ∈ entries ∧ Builder.patternList? v = some ws ∧
          TextPatterns.ofStrings ws = .ok ps := by
  induction entries with
  | nil =>
      intro m m' h f ps hget
      rw [← Except.ok.inj h] at hget
      exact .inl hget
  | cons e entries ih =>
      obtain ⟨key, v⟩ := e
      intro m m' h f ps hget
      rw [Builder.addFields] at h
      cases hkey : TextField.ofKey? key with
      | none =>
          rw [hkey] at h
          refine (ih h hget).imp_right ?_
          rintro ⟨w, ws, hmem, hws⟩
          exact ⟨w, ws, List.mem_cons_of_mem _ hmem, hws⟩
      | some g =>
          rw [hkey] at h
          obtain ⟨ws, hws, h⟩ := except_bind_eq_ok_iff.mp h
          obtain ⟨qs, hqs, h⟩ := except_bind_eq_ok_iff.mp h
          -- what stands under a field was set by a later entry, by this one, or before
          rcases ih h hget with hset | ⟨w, ws', hmem, hws'⟩
          · rw [FieldPatterns.get_set] at hset
            split at hset
            case isTrue hfg =>
              obtain rfl := Option.some.inj hset
              rw [hfg, ← TextField.key_of_ofKey? hkey]
              exact .inr ⟨v, ws, List.mem_cons_self, Builder.requirePatterns_eq_ok_iff.mp hws, hqs⟩
            case isFalse => exact .inl hset
          · exact .inr ⟨w, ws', List.mem_cons_of_mem _ hmem, hws'⟩

/-- The name of a built-in kind in the core registry, with what its builder makes. -/
theorem core_makes {scope : ScopeView} {key : String} {v : Value} {c : Condition}
    (h : Registry.core.createWith scope key v = .ok c) : ∃ k : BuiltInKind, key = k.name ∧
      Makes scope.nested v k c := by
  obtain ⟨b, hfind, -, hbuild⟩ := Registry.createWith_eq_ok_iff.mp h
  obtain ⟨k, hk⟩ := core_named (Registry.find?_mem hfind)
  obtain ⟨rfl, rfl⟩ := Prod.mk.inj hk
  exact ⟨k, rfl, BuiltInKind.build_eq_ok_iff.mp hbuild⟩

section Label

variable {rules : Value} {g : RuleGroup} {c : Condition}

/-- Every node of a condition of a label is built from an entry that stands in its groups. -/
theorem inLabel_of_isNode (hg : g ∈ Registry.core.compileGroups rules) (hc : c ∈ g.conditions)
    {n : Condition} (hn : n.IsNode c) :
    ∃ scope k w, Written.InLabel k w rules ∧ Registry.core.createWith scope k w = .ok n := by
  obtain ⟨groups, w, rfl, hw, hgroup⟩ := Registry.mem_compileGroups.mp hg
  obtain ⟨entries, key, v, rfl, he, hcreate⟩ := Registry.exists_entry_of_mem_conditions hgroup hc
  obtain ⟨scope, k, w, hinside, hbuilt⟩ := built_of_isNode maxNesting hcreate hn
  exact ⟨scope, k, w, ⟨groups, entries, key, v, rfl, hw, he, hinside⟩, hbuilt⟩

/-- A pattern that a compiled condition searches for is written under the label for the same field. -/
theorem pattern_of_searches (hg : g ∈ Registry.core.compileGroups rules) (hc : c ∈ g.conditions)
    {f : TextField} {w : String} (h : c.Searches f w) : Written.Pattern rules f w := by
  obtain ⟨ps, hw, hn | ⟨m, hm, hn⟩⟩ := h
  · obtain ⟨scope, key, v, hinside, hbuilt⟩ := inLabel_of_isNode hg hc hn
    obtain ⟨k, rfl, hmakes⟩ := core_makes hbuilt
    cases hmakes with
    | text listed compiled =>
        rw [TextPatterns.written_ofStrings compiled] at hw
        exact ⟨v, Written.lists_of_patternList listed hw, .inl hinside⟩
  · obtain ⟨scope, key, v, hinside, hbuilt⟩ := inLabel_of_isNode hg hc hn
    obtain ⟨k, rfl, hmakes⟩ := core_makes hbuilt
    cases hmakes with
    | or map added =>
        subst map
        rcases get_of_addFields added hm with hnone | ⟨v', ws, hentry, listed, compiled⟩
        · cases f <;> cases hnone
        · rw [TextPatterns.written_ofStrings compiled] at hw
          exact ⟨v', Written.lists_of_patternList listed hw, .inr ⟨_, hentry, hinside⟩⟩

/-- A glob that a compiled condition matches is written under the label. -/
theorem glob_of_globs (hg : g ∈ Registry.core.compileGroups rules) (hc : c ∈ g.conditions)
    {w : String} (h : c.Globs w) : Written.Glob rules w := by
  obtain ⟨gs, hw, hn⟩ := h
  obtain ⟨scope, key, v, hinside, hbuilt⟩ := inLabel_of_isNode hg hc hn
  obtain ⟨k, rfl, hmakes⟩ := core_makes hbuilt
  cases hmakes with
  | files listed compiled =>
      rw [PathGlobs.written_ofStrings compiled] at hw
      exact ⟨v, Written.lists_of_patternList listed hw, hinside⟩

/-- A group of a label that holds has a reason in one of its conditions. -/
theorem reason_of_group {pr : PullRequest} (hg : g ∈ Registry.core.compileGroups rules)
    (h : g.holds pr = true) :
    Reason pr (g.trace pr) (fun f w => ∃ c ∈ g.conditions, c.Searches f w)
      (fun w => ∃ c ∈ g.conditions, c.Globs w) := by
  obtain ⟨c, cs, hconditions⟩ := List.exists_cons_of_ne_nil g.nonempty
  have hc : c ∈ g.conditions := by
    rw [hconditions]
    exact List.mem_cons_self
  have hholds : c.holds pr = true := by
    rw [RuleGroup.holds, hconditions] at h
    exact ((Bool.and_eq_true _ _).mp h).1
  have hsolid : ∀ n : Condition, n.IsNode c → ¬n.IsVacuous := by
    intro n hn
    obtain ⟨scope, k, w, -, hbuilt⟩ := inLabel_of_isNode hg hc hn
    exact not_isVacuous_of_createWith hbuilt
  -- the group reports its only condition itself, and several as members of a conjunction
  have hnode : ∀ n : Trace, n.IsNode (c.trace pr) → n.IsNode (g.trace pr) := by
    intro n hn
    rw [RuleGroup.trace, hconditions]
    cases cs with
    | nil => exact hn
    | cons c' cs => exact .all List.mem_cons_self hn
  exact (reason_of_holds pr c hsolid hholds).imp hnode (fun f w hw => ⟨c, hc, hw⟩)
    fun w hw => ⟨c, hc, hw⟩

end Label

/-! ## §5. Labels that are reported. -/

/-- A result of a classification is that of a label some group of which holds, and reports that group. -/
theorem exists_group_of_mem_classify {s : RuleSet} {pr : PullRequest} {r : MatchResult}
    (h : r ∈ (s.classify pr).results) : ∃ l ∈ s.labels, r.label = l.name ∧ ∃ g ∈ l.groups,
      g.holds pr = true ∧ ∃ i, r.winner = some ⟨i, g.trace pr⟩ := by
  obtain ⟨hmem, hmatched⟩ := List.mem_filter.mp h
  obtain ⟨l, hl, rfl⟩ := List.mem_map.mp hmem
  refine ⟨l, hl, label_evaluate l.name pr l.groups, ?_⟩
  obtain ⟨before, g, after, hgroups, hholds, hbefore⟩ :=
    exists_split pr ((matched_evaluate_iff l.name pr l.groups).mp hmatched)
  refine ⟨g, ?_, hholds, before.length, ?_⟩
  · rw [hgroups]
    exact List.mem_append_right _ List.mem_cons_self
  · rw [LabelRules.evaluate, hgroups, evaluate_of_split l.name pr hbefore hholds]

/-- The trace of a result has a reason among the patterns and globs of the compiled label, which are
written under the label in the document. -/
theorem reason_of_mem_classify {entries : List (String × Value)} {pr : PullRequest} {r : MatchResult}
    (h : r ∈ ((Registry.core.compile ⟨entries⟩).classify pr).results) :
    ∃ i t rules, r.winner = some ⟨i, t⟩ ∧ (r.label, rules) ∈ entries ∧
      Reason pr t
        (fun f w => (Registry.core.compile ⟨entries⟩).Searches r.label f w ∧
          Written.Pattern rules f w)
        (fun w => (Registry.core.compile ⟨entries⟩).Globs r.label w ∧ Written.Glob rules w) := by
  obtain ⟨l, hl, hlabel, g, hg, hholds, i, hwinner⟩ := exists_group_of_mem_classify h
  obtain ⟨rules, hentry, hgroups, -⟩ := Registry.mem_compile.mp hl
  have hcompiled : g ∈ Registry.core.compileGroups rules := by rwa [hgroups]
  rw [hlabel]
  refine ⟨i, g.trace pr, rules, hwinner, hentry, ?_⟩
  refine (reason_of_group hcompiled hholds).imp (fun _ hn => hn) ?_ ?_
  · rintro f w ⟨c, hc, hw⟩
    exact ⟨⟨l, hl, rfl, g, hg, c, hc, hw⟩, pattern_of_searches hcompiled hc hw⟩
  · rintro w ⟨c, hc, hw⟩
    exact ⟨⟨l, hl, rfl, g, hg, c, hc, hw⟩, glob_of_globs hcompiled hc hw⟩

/-- **Every label that is reported has a reason that is written under it; so a label is not reported if
nothing that was accepted under it matches.** -/
theorem classify_has_reason (entries : List (String × Value)) (pr : PullRequest) :
    (∀ r ∈ ((Registry.core.compile ⟨entries⟩).classify pr).results,
      ∃ i t rules, r.winner = some ⟨i, t⟩ ∧ (r.label, rules) ∈ entries ∧
        Reason pr t (Written.Pattern rules) (Written.Glob rules)) ∧
    ∀ label,
      (∀ f w, (Registry.core.compile ⟨entries⟩).Searches label f w →
        TextPattern.finds (f.read pr) w = false) →
      (∀ w, (Registry.core.compile ⟨entries⟩).Globs label w →
        ∀ path ∈ pr.changedFiles, PathGlob.covers path w = false) →
      label ∉ ((Registry.core.compile ⟨entries⟩).classify pr).labels := by
  constructor
  · intro r hr
    obtain ⟨i, t, rules, hwinner, hentry, hreason⟩ := reason_of_mem_classify hr
    exact ⟨i, t, rules, hwinner, hentry,
      hreason.imp (fun _ hn => hn) (fun _ _ hw => hw.2) fun _ hw => hw.2⟩
  · -- a match would have a reason, and that reason is excluded by one of the hypotheses
    intro label htexts hglobs hmem
    obtain ⟨r, hr, rfl⟩ := List.mem_map.mp hmem
    obtain ⟨i, t, rules, -, -, hreason⟩ := reason_of_mem_classify hr
    rcases hreason with ⟨f, w, -, ⟨hw, -⟩, hfinds⟩ | ⟨fs, -, hne, hfs⟩
    · rw [htexts f w hw] at hfinds
      cases hfinds
    · obtain ⟨path, hpath⟩ := List.exists_mem_of_ne_nil fs hne
      obtain ⟨hchanged, w, ⟨hw, -⟩, hcovers⟩ := hfs path hpath
      rw [hglobs w hw path hchanged] at hcovers
      cases hcovers

/-- The label `docs` is given for a changed file, which the second member of a composite matches; the
pattern that was accepted for `bug` is not found. -/
theorem classify_has_reason_docs :
    let entries : List (String × Value) := [
      ("bug", .array [.object [("title", .string "fix")]]),
      ("docs", .array [.object [("title", .ofStrings [])], .object [("reviewer", .null),
        ("any", .array [.object [("body", .string "docs")],
          .object [("changed-files", .string "*.md")]])]])]
    let pr : PullRequest := { title := "Update", changedFiles := ["a.md", "b.rs"] }
    ((Registry.core.compile ⟨entries⟩).classify pr).labels = ["docs"] ∧
      (∃ r ∈ ((Registry.core.compile ⟨entries⟩).classify pr).results, r.label = "docs" ∧
        ∃ i t rules, r.winner = some ⟨i, t⟩ ∧ ("docs", rules) ∈ entries ∧
          Reason pr t (Written.Pattern rules) (Written.Glob rules)) ∧
      (∀ f w, (Registry.core.compile ⟨entries⟩).Searches "bug" f w →
        TextPattern.finds (f.read pr) w = false) ∧
      (∀ w, (Registry.core.compile ⟨entries⟩).Globs "bug" w →
        ∀ path ∈ pr.changedFiles, PathGlob.covers path w = false) ∧
      "bug" ∉ ((Registry.core.compile ⟨entries⟩).classify pr).labels := by
  intro entries pr
  have hlabels : ((Registry.core.compile ⟨entries⟩).classify pr).labels = ["docs"] := by
    decide +kernel
  obtain ⟨r, hr, hlabel⟩ := List.mem_map.mp (hlabels ▸ List.mem_singleton_self "docs")
  -- what is compiled for `bug` stands in its only entry
  have hbug : ∀ n : Condition, (∃ l ∈ (Registry.core.compile ⟨entries⟩).labels, l.name = "bug" ∧
      ∃ g ∈ l.groups, ∃ c ∈ g.conditions, n.IsNode c) →
      ∃ scope, Registry.core.createWith scope "title" (.string "fix") = .ok n := by
    rintro n ⟨l, hl, hname, g, hg, c, hc, hn⟩
    obtain ⟨rules, hentry, hgroups, -⟩ := Registry.mem_compile.mp hl
    rw [hname] at hentry
    obtain rfl : rules = .array [.object [("title", .string "fix")]] := by
      simpa [entries] using hentry
    rw [← hgroups] at hg
    obtain ⟨scope, k, w, ⟨groups, es, key, v, hrules, hes, he, hinside⟩, hbuilt⟩ :=
      inLabel_of_isNode hg hc hn
    obtain rfl := Value.array.inj hrules
    obtain rfl := Value.object.inj (List.mem_singleton.mp hes)
    obtain ⟨rfl, rfl⟩ := Prod.mk.inj (List.mem_singleton.mp he)
    cases hinside with
    | here => exact ⟨scope, hbuilt⟩
  have htexts : ∀ f w, (Registry.core.compile ⟨entries⟩).Searches "bug" f w →
      TextPattern.finds (f.read pr) w = false := by
    rintro f w ⟨l, hl, hname, g, hg, c, hc, ps, hw, hn | ⟨m, -, hn⟩⟩
    · obtain ⟨scope, hbuilt⟩ := hbug _ ⟨l, hl, hname, g, hg, c, hc, hn⟩
      obtain ⟨k, hkey, hmakes⟩ := core_makes hbuilt
      cases hmakes with
      | text listed compiled =>
          rw [TextPatterns.written_ofStrings compiled, ← Option.some.inj listed] at hw
          obtain rfl := List.mem_singleton.mp hw
          cases f with
          | title => decide +kernel
          | branch | body => exact absurd hkey (by decide)
    · obtain ⟨scope, hbuilt⟩ := hbug _ ⟨l, hl, hname, g, hg, c, hc, hn⟩
      obtain ⟨k, hkey, hmakes⟩ := core_makes hbuilt
      cases hmakes with
      | or => exact absurd hkey (by decide)
  have hglobs : ∀ w, (Registry.core.compile ⟨entries⟩).Globs "bug" w →
      ∀ path ∈ pr.changedFiles, PathGlob.covers path w = false := by
    rintro w ⟨l, hl, hname, g, hg, c, hc, gs, -, hn⟩
    obtain ⟨scope, hbuilt⟩ := hbug _ ⟨l, hl, hname, g, hg, c, hc, hn⟩
    obtain ⟨k, hkey, hmakes⟩ := core_makes hbuilt
    cases hmakes with
    | files => exact absurd hkey (by decide)
  obtain ⟨hreasons, habsent⟩ := classify_has_reason entries pr
  refine ⟨hlabels, ⟨r, hr, hlabel, ?_⟩, htexts, hglobs, habsent "bug" htexts hglobs⟩
  rw [← hlabel]
  exact hreasons r hr

end PullTriage
