import Mathlib.Data.List.Induction
import Mathlib.Data.List.Pairwise
import PullTriage.Proofs.Normalization
import PullTriage.Proofs.ReportedFiles

/-!
  PullTriage.Proofs.MergedKinds: which conditions of a group survive being written down.

  A group is written as a map from kinds to configurations, and a map has one entry for a key.  The kind
  under which a condition is written is that of its builder, whatever name the builder was registered
  under.  So conditions that stand under two names in the rules are merged if the names have one builder:
  the later condition takes the place of the earlier one.

      g.WrittenInFull  ↔  no two entries of the group are built under names of one builder

  With one name for each builder, as in the core registry, nothing is ever merged.
-/

namespace PullTriage

open Json

/-! ## §1. Inserting pairs. -/

theorem firstOccurrences_concat (l : List String) (key : String) :
    firstOccurrences (l ++ [key])
      = if key ∈ l then firstOccurrences l else firstOccurrences l ++ [key] := by
  induction l with
  | nil => rfl
  | cons a l ih =>
      rw [List.cons_append, firstOccurrences, firstOccurrences, ih]
      by_cases hkey : key ∈ l
      case pos => rw [if_pos hkey, if_pos (List.mem_cons_of_mem a hkey)]
      case neg =>
        rw [if_neg hkey, List.filter_append]
        by_cases ha : key = a
        · simp [ha]
        · simp [ha, hkey]

namespace Json.Entries

variable {α : Type}

theorem ofList_concat (pairs : List (String × α)) (p : String × α) :
    ofList (pairs ++ [p]) = insert (ofList pairs) p.1 p.2 := by
  unfold ofList
  rw [List.foldl_append]
  rfl

/-- The keys stand where they first occur. -/
theorem keys_ofList (pairs : List (String × α)) :
    keys (ofList pairs) = firstOccurrences (keys pairs) := by
  induction pairs using List.reverseRecOn with
  | nil => rfl
  | append_singleton pairs p ih =>
      have hkeys : keys (pairs ++ [p]) = keys pairs ++ [p.1] := List.map_append
      rw [ofList_concat, keys_insert, hkeys, firstOccurrences_concat, ih]
      simp only [mem_firstOccurrences]

/-- Among distinct keys an insertion replaces one entry at most. -/
theorem mem_insert_iff {entries : Entries α} (h : (keys entries).Nodup) {key : String} {value : α}
    {e : String × α} :
    e ∈ insert entries key value ↔ e = (key, value) ∨ e ∈ entries ∧ e.1 ≠ key := by
  induction entries with
  | nil => simp [insert]
  | cons p rest ih =>
      obtain ⟨k, v⟩ := p
      obtain ⟨hk, hrest⟩ := List.nodup_cons.mp h
      rw [insert]
      split
      case isTrue hkey =>
        subst hkey
        -- no later entry has this key, since the keys are distinct
        have hother : e ∈ rest → e.1 ≠ k := by
          rintro he rfl
          exact hk (List.mem_map.mpr ⟨e, he, rfl⟩)
        simp only [List.mem_cons]
        constructor
        · rintro (rfl | he)
          · exact .inl rfl
          · exact .inr ⟨.inr he, hother he⟩
        · rintro (rfl | ⟨rfl | he, hne⟩)
          · exact .inl rfl
          · exact absurd rfl hne
          · exact .inr he
      case isFalse hkey =>
        rw [List.mem_cons, ih hrest, List.mem_cons]
        constructor
        · rintro (rfl | rfl | ⟨he, hne⟩)
          · exact .inr ⟨.inl rfl, hkey⟩
          · exact .inl rfl
          · exact .inr ⟨.inr he, hne⟩
        · rintro (rfl | ⟨rfl | he, hne⟩)
          · exact .inr (.inl rfl)
          · exact .inl rfl
          · exact .inr (.inr ⟨he, hne⟩)

/-- Of the pairs with one key the last remains. -/
theorem mem_ofList_iff {pairs : List (String × α)} {key : String} {value : α} :
    (key, value) ∈ ofList pairs ↔
      ∃ before after, pairs = before ++ (key, value) :: after ∧ key ∉ keys after := by
  induction pairs using List.reverseRecOn with
  | nil => simp [ofList]
  | append_singleton pairs p ih =>
      obtain ⟨k, v⟩ := p
      rw [ofList_concat, mem_insert_iff (nodup_keys_ofList pairs), ih]
      constructor
      · rintro (⟨rfl, rfl⟩ | ⟨⟨before, after, rfl, hafter⟩, hne⟩)
        · exact ⟨pairs, [], rfl, List.not_mem_nil⟩
        · refine ⟨before, after ++ [(k, v)], by simp, ?_⟩
          rw [keys, List.map_append, List.mem_append, not_or]
          exact ⟨hafter, mt List.mem_singleton.mp hne⟩
      · rintro ⟨before, after, hsplit, hafter⟩
        -- the last pair is the one asked for, or stands behind it
        rcases List.eq_nil_or_concat after with rfl | ⟨after, q, rfl⟩
        · exact .inl (List.append_singleton_inj.mp hsplit).2.symm
        · rw [List.concat_eq_append, ← List.cons_append, ← List.append_assoc] at hsplit
          obtain ⟨rfl, rfl⟩ := List.append_singleton_inj.mp hsplit
          rw [List.concat_eq_append, keys, List.map_append, List.mem_append, not_or] at hafter
          exact .inr ⟨⟨before, after, rfl, hafter.1⟩, mt List.mem_singleton.mpr hafter.2⟩

/-- Nothing is merged exactly when the keys are distinct. -/
theorem length_ofList_eq_iff {pairs : List (String × α)} :
    (ofList pairs).length = pairs.length ↔ (keys pairs).Nodup := by
  constructor
  case mpr =>
    intro h
    rw [ofList_eq_self h]
  case mp =>
    intro hlength
    have hkeys : (keys (ofList pairs)).Subperm (keys pairs) := by
      refine List.subperm_of_subset (nodup_keys_ofList pairs) fun key hkey => ?_
      rw [keys_ofList] at hkey
      exact mem_firstOccurrences.mp hkey
    have hperm := hkeys.perm_of_length_le (by simp [keys, hlength])
    exact hperm.nodup_iff.mp (nodup_keys_ofList pairs)

end Json.Entries

/-! ## §2. Names of one builder. -/

/-- What a builder says of a configuration without shape names its kind. -/
theorem BuiltInKind.build_null (k : BuiltInKind) (scope : ScopeView) :
    ∃ reason, k.builder.build .null scope = .error (.invalidConfig k.name reason) := by
  cases k <;> exact ⟨_, rfl⟩

theorem BuiltInKind.name_eq_of_builder_eq {k k' : BuiltInKind} (h : k.builder = k'.builder) :
    k.name = k'.name := by
  obtain ⟨reason, hbuild⟩ := k.build_null (Registry.empty.viewIn 0)
  obtain ⟨reason', hbuild'⟩ := k'.build_null (Registry.empty.viewIn 0)
  rw [h, hbuild', Except.error.injEq] at hbuild
  exact (RuleError.invalidConfig.inj hbuild).1.symm

theorem BuiltInKind.name_injective : Function.Injective BuiltInKind.name := by
  intro k k' h
  cases k with
  | text f =>
      cases k' with
      | text g => rw [Option.some.inj ((f.ofKey?_key).symm.trans ((congrArg _ h).trans g.ofKey?_key))]
      | _ => cases f <;> exact absurd h (by decide)
  | _ =>
      cases k' with
      | text g => cases g <;> exact absurd h (by decide)
      | _ => first | rfl | exact absurd h (by decide)

namespace Registry

/-- Two names that one built-in builder is registered under. -/
def SameBuilder (r : Registry) (a b : String) : Prop :=
  ∃ k : BuiltInKind, r.find? a = some k.builder ∧ r.find? b = some k.builder

variable {r : Registry}

/-- In the core registry a builder has one name. -/
theorem core_eq_of_sameBuilder {a b : String} (h : core.SameBuilder a b) : a = b := by
  have hname : ∀ {name : String} {k : BuiltInKind}, core.find? name = some k.builder → name = k.name := by
    intro name k hfind
    obtain ⟨k', hk'⟩ := core_named (find?_mem hfind)
    obtain ⟨rfl, hbuilder⟩ := Prod.mk.inj hk'
    exact BuiltInKind.name_eq_of_builder_eq hbuilder.symm
  obtain ⟨k, ha, hb⟩ := h
  rw [hname ha, hname hb]

/-- Conditions are written under one key exactly when they are built by one builder. -/
theorem BuiltIn.kind_eq_iff (hr : r.BuiltIn) {a b : String × Value} {c d : Condition}
    (hc : r.create a.1 a.2 = .ok c) (hd : r.create b.1 b.2 = .ok d) :
    c.kind = d.kind ↔ r.SameBuilder a.1 b.1 := by
  obtain ⟨k, hk, hmakes⟩ := hr.makes hc
  obtain ⟨l, hl, hmakes'⟩ := hr.makes hd
  rw [hmakes.kind_eq, hmakes'.kind_eq]
  constructor
  · intro hname
    obtain rfl := BuiltInKind.name_injective hname
    exact ⟨k, hk, hl⟩
  · rintro ⟨m, ha, hb⟩
    rw [ha] at hk
    rw [hb] at hl
    rw [BuiltInKind.name_eq_of_builder_eq (Option.some.inj hk).symm,
      BuiltInKind.name_eq_of_builder_eq (Option.some.inj hl).symm]

end Registry

/-! ## §3. Groups. -/

namespace RuleGroup

/-- What is written for a group has one entry for each condition, in their order, with what is written
for the condition. -/
def WrittenInFull (g : RuleGroup) : Prop :=
  ∃ written, g.toValue = .object written ∧
    List.Forall₂ (fun c e => e.2 = Condition.config c) g.conditions written

/-- The condition is the last of its kind in the group. -/
def IsLastOfKind (g : RuleGroup) (c : Condition) : Prop :=
  ∃ before after, g.conditions = before ++ c :: after ∧ ∀ d ∈ after, d.kind ≠ c.kind

theorem writtenInFull_iff_nodup (g : RuleGroup) :
    g.WrittenInFull ↔ (g.conditions.map Condition.kind).Nodup := by
  have hkeys : Entries.keys (g.conditions.map fun c => (c.kind, c.config))
      = g.conditions.map Condition.kind := by
    rw [Entries.keys, List.map_map]
    rfl
  rw [← hkeys]
  constructor
  case mp =>
    rintro ⟨written, hwritten, hpairs⟩
    obtain rfl := Value.object.inj hwritten
    rw [← Entries.length_ofList_eq_iff, List.length_map]
    exact hpairs.length_eq.symm
  case mpr =>
    intro h
    refine ⟨_, rfl, ?_⟩
    rw [Entries.ofList_eq_self h, List.forall₂_map_right_iff]
    exact List.forall₂_same.mpr fun _ _ => rfl

end RuleGroup

/-- A pair that is written is that of the last condition of its kind. -/
theorem RuleGroup.isLastOfKind_iff (g : RuleGroup) {kind : String} {v : Value} :
    (∃ before after, (g.conditions.map fun c => (c.kind, c.config)) = before ++ (kind, v) :: after ∧
      kind ∉ Entries.keys after) ↔ ∃ c, g.IsLastOfKind c ∧ c.kind = kind ∧ c.config = v := by
  constructor
  · rintro ⟨before, after, hsplit, hafter⟩
    obtain ⟨front, rest, hconditions, -, hrest⟩ := List.map_eq_append_iff.mp hsplit
    obtain ⟨c, last, rfl, hc, rfl⟩ := List.map_eq_cons_iff.mp hrest
    obtain ⟨rfl, rfl⟩ := Prod.mk.inj hc
    refine ⟨c, ⟨front, last, hconditions, fun d hd hkind => hafter ?_⟩, rfl, rfl⟩
    rw [Entries.keys, List.map_map]
    exact List.mem_map.mpr ⟨d, hd, hkind⟩
  · rintro ⟨c, ⟨before, after, hconditions, hafter⟩, rfl, rfl⟩
    refine ⟨_, _, by rw [hconditions, List.map_append, List.map_cons], ?_⟩
    rw [Entries.keys, List.map_map]
    rintro hmem
    obtain ⟨d, hd, hkind⟩ := List.mem_map.mp hmem
    exact hafter d hd hkind

/-- The conditions of a group are of different kinds exactly when no two of its entries are built by one
builder. -/
theorem Registry.BuiltIn.nodup_kinds_iff {r : Registry} (hr : r.BuiltIn)
    {entries : List (String × Value)} (hkeys : (Entries.keys entries).Nodup) :
    ((entries.filterMap fun e => (r.create e.1 e.2).toOption).map Condition.kind).Nodup ↔
      ∀ a ∈ entries, ∀ b ∈ entries, (r.create a.1 a.2).isOk = true →
        (r.create b.1 b.2).isOk = true → r.SameBuilder a.1 b.1 → a = b := by
  rw [List.Nodup, List.pairwise_map, List.pairwise_filterMap]
  simp only [except_toOption_eq_some_iff]
  constructor
  case mp =>
    intro h a ha b hb hac hbd hsame
    by_contra hne
    obtain ⟨c, hc⟩ := except_isOk_iff.mp hac
    obtain ⟨d, hd⟩ := except_isOk_iff.mp hbd
    -- the pairs are ordered, but having different kinds is symmetric
    have hsymm : Std.Symm fun a b : String × Value => ∀ c, r.create a.1 a.2 = .ok c →
        ∀ d, r.create b.1 b.2 = .ok d → c.kind ≠ d.kind :=
      ⟨fun a b h d hd c hc hkind => h c hc d hd hkind.symm⟩
    exact h.forall ha hb hne c hc d hd ((hr.kind_eq_iff hc hd).mpr hsame)
  case mpr =>
    intro h
    refine hkeys.of_map.pairwise_of_forall_ne fun a ha b hb hne c hc d hd hkind => hne ?_
    refine h a ha b hb ?_ ?_ ((hr.kind_eq_iff hc hd).mp hkind)
    · exact except_isOk_iff.mpr ⟨c, hc⟩
    · exact except_isOk_iff.mpr ⟨d, hd⟩

/-- **What is written for a group.**

Its keys are the kinds of the conditions, each where it first occurs, and of the conditions of one kind
the last is written.  So there is one entry for each condition exactly when no two entries of the group
are built under names of one builder, and always if every builder has one name. -/
theorem toValue_writes_last {r : Registry} (hr : r.BuiltIn) {entries : List (String × Value)}
    (hkeys : (Entries.keys entries).Nodup) {g : RuleGroup}
    (hg : r.compileGroup? (.object entries) = some g) :
    (∃ written, g.toValue = .object written ∧
      Entries.keys written = firstOccurrences (g.conditions.map Condition.kind) ∧
      ∀ kind v, (kind, v) ∈ written ↔ ∃ c, g.IsLastOfKind c ∧ c.kind = kind ∧ c.config = v) ∧
    (g.WrittenInFull ↔ ∀ a ∈ entries, ∀ b ∈ entries, (r.create a.1 a.2).isOk = true →
      (r.create b.1 b.2).isOk = true → r.SameBuilder a.1 b.1 → a = b) ∧
    ((∀ a b, r.SameBuilder a b → a = b) → g.WrittenInFull) := by
  obtain ⟨_, hobject, hconditions, -⟩ := Registry.compileGroup?_eq_some_iff.mp hg
  obtain rfl := Value.object.inj hobject
  have hfull : g.WrittenInFull ↔ ∀ a ∈ entries, ∀ b ∈ entries, (r.create a.1 a.2).isOk = true →
      (r.create b.1 b.2).isOk = true → r.SameBuilder a.1 b.1 → a = b := by
    rw [g.writtenInFull_iff_nodup, ← hconditions, hr.nodup_kinds_iff hkeys]
  refine ⟨⟨_, rfl, ?_, fun kind v => ?_⟩, hfull, fun hnames => ?_⟩
  · rw [Entries.keys_ofList, Entries.keys, List.map_map]
    rfl
  · rw [Entries.mem_ofList_iff, g.isLastOfKind_iff]
  · refine hfull.mpr fun a ha b hb _ _ hsame => ?_
    exact List.inj_on_of_nodup_map hkeys ha hb (hnames a.1 b.1 hsame)

/-- A registry in which the title has two names. -/
def Registry.twoTitles : Registry := Registry.core.register "subject" (BuiltInKind.text .title).builder

theorem Registry.builtIn_twoTitles : Registry.twoTitles.BuiltIn :=
  builtIn_core.register "subject" (.text .title)

/-- With two names for the title one of two conditions is lost, and the one that is left takes its place.
With one name nothing is. -/
theorem toValue_writes_last_title :
    let entries : List (String × Value) :=
      [("subject", .string "x"), ("body", .string "b"), ("title", .string "y")]
    Registry.twoTitles.BuiltIn ∧ Registry.core.BuiltIn ∧ (Entries.keys entries).Nodup ∧
      (∃ g, Registry.twoTitles.compileGroup? (.object entries) = some g ∧
        g.toValue = .object [("title", .ofStrings ["y"]), ("body", .ofStrings ["b"])] ∧
        ¬g.WrittenInFull) ∧
      ∃ g, Registry.core.compileGroup? (.object entries) = some g ∧
        g.toValue = .object [("body", .ofStrings ["b"]), ("title", .ofStrings ["y"])] ∧
        g.WrittenInFull := by
  intro entries
  have hkeys : (Entries.keys entries).Nodup := by decide
  have htwo : (Registry.twoTitles.compileGroup? (.object entries)).map RuleGroup.toValue
      = some (.object [("title", .ofStrings ["y"]), ("body", .ofStrings ["b"])]) := by rfl
  have hcore : (Registry.core.compileGroup? (.object entries)).map RuleGroup.toValue
      = some (.object [("body", .ofStrings ["b"]), ("title", .ofStrings ["y"])]) := by rfl
  obtain ⟨g, hg, hvalue⟩ := Option.map_eq_some_iff.mp htwo
  obtain ⟨g', hg', hvalue'⟩ := Option.map_eq_some_iff.mp hcore
  refine ⟨Registry.builtIn_twoTitles, builtIn_core, hkeys, ⟨g, hg, hvalue, fun hfull => ?_⟩, g', hg',
    hvalue', ?_⟩
  · have hsame := (toValue_writes_last Registry.builtIn_twoTitles hkeys hg).2.1.mp hfull
      ("subject", .string "x") (by simp [entries]) ("title", .string "y") (by simp [entries])
      (by decide +kernel) (by decide +kernel) ⟨.text .title, rfl, rfl⟩
    exact absurd (Prod.mk.inj hsame).1 (by decide)
  · exact (toValue_writes_last builtIn_core hkeys hg').2.2 fun _ _ => Registry.core_eq_of_sameBuilder

/-- Two conditions of a group are written as one entry. -/
theorem twoTitles_written_once :
    let entries : List (String × Value) := [("subject", .string "x"), ("title", .string "y")]
    Registry.twoTitles.BuiltIn ∧ (Entries.keys entries).Nodup ∧
      ∃ g, Registry.twoTitles.compileGroup? (.object entries) = some g ∧
        g.conditions.length = 2 ∧ g.toValue = .object [("title", .ofStrings ["y"])] ∧
        ¬g.WrittenInFull := by
  intro entries
  have hgroup : (Registry.twoTitles.compileGroup? (.object entries)).map
      (fun g => (g.conditions.length, g.toValue))
        = some (2, .object [("title", .ofStrings ["y"])]) := by rfl
  obtain ⟨g, hg, hwritten⟩ := Option.map_eq_some_iff.mp hgroup
  obtain ⟨hlength, hvalue⟩ := Prod.mk.inj hwritten
  refine ⟨Registry.builtIn_twoTitles, by decide, g, hg, hlength, hvalue, ?_⟩
  rintro ⟨written, hobject, hpairs⟩
  obtain rfl := Value.object.inj (hvalue.symm.trans hobject)
  have hone := hpairs.length_eq
  rw [hlength] at hone
  cases hone

end PullTriage
