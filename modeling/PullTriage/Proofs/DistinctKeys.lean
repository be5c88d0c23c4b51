import Mathlib.Data.List.Nodup
import PullTriage.Json.Reader
import PullTriage.Yaml.Reader

/-!
  PullTriage.Proofs.DistinctKeys: no map gives a key twice.

  The entries of a map are a list, and `Entries.insert` is the one way they are added.  So whatever is
  read, from JSON or from YAML, holds maps whose keys are distinct, at every depth.
-/

namespace PullTriage.Json

/-! ## §1. Entries. -/

namespace Entries

variable {α : Type}

/-- Inserting an entry keeps the keys distinct. -/
theorem nodup_keys_insert {entries : Entries α} (h : (keys entries).Nodup) (key : String)
    (value : α) : (keys (insert entries key value)).Nodup := by
  rw [keys_insert]
  split
  case isTrue => exact h
  case isFalse hkey =>
    rw [← List.concat_eq_append]
    exact h.concat hkey

/-- What is there after an insertion was inserted or was there before. -/
theorem mem_insert {entries : Entries α} {key : String} {value : α} {e : String × α}
    (h : e ∈ insert entries key value) : e = (key, value) ∨ e ∈ entries := by
  induction entries with
  | nil => exact .inl (List.mem_singleton.mp h)
  | cons p rest ih =>
      obtain ⟨k, v⟩ := p
      rw [insert] at h
      split at h
      case isTrue hk =>
        subst hk
        rcases List.mem_cons.mp h with rfl | h
        · exact .inl rfl
        · exact .inr (List.mem_cons_of_mem _ h)
      case isFalse =>
        rcases List.mem_cons.mp h with rfl | h
        · exact .inr List.mem_cons_self
        · exact (ih h).imp_right (List.mem_cons_of_mem _)

/-- Inserting pairs into entries keeps the keys distinct and adds no other entry. -/
theorem foldl_insert_spec (pairs : List (String × α)) :
    ∀ entries : Entries α, (keys entries).Nodup →
      (keys (pairs.foldl (fun acc p => insert acc p.1 p.2) entries)).Nodup ∧
        ∀ e ∈ pairs.foldl (fun acc p => insert acc p.1 p.2) entries, e ∈ pairs ∨ e ∈ entries := by
  induction pairs with
  | nil =>
      intro entries h
      exact ⟨h, fun e he => .inr he⟩
  | cons p pairs ih =>
      intro entries h
      obtain ⟨hnodup, hmem⟩ := ih _ (nodup_keys_insert h p.1 p.2)
      refine ⟨hnodup, fun e he => ?_⟩
      rcases hmem e he with he | he
      · exact .inl (List.mem_cons_of_mem _ he)
      · rcases mem_insert he with rfl | he
        · exact .inl List.mem_cons_self
        · exact .inr he

/-- **The keys of a map are distinct, whatever pairs it is made of.** -/
theorem nodup_keys_ofList (pairs : List (String × α)) : (keys (ofList pairs)).Nodup :=
  (foldl_insert_spec pairs [] List.nodup_nil).1

/-- A new key is entered behind the others. -/
theorem insert_of_notMem {entries : Entries α} {key : String} (hkey : key ∉ keys entries) (value : α) :
    insert entries key value = entries ++ [(key, value)] := by
  induction entries with
  | nil => rfl
  | cons p rest ih =>
      obtain ⟨hne, hrest⟩ := not_or.mp (mt List.mem_cons.mpr hkey)
      rw [insert, if_neg (Ne.symm hne), ih hrest]
      rfl

/-- So pairs with new keys are entered behind the others, in their order. -/
theorem foldl_insert_of_nodup {ps entries : List (String × α)} (h : (keys (entries ++ ps)).Nodup) :
    ps.foldl (fun acc p => insert acc p.1 p.2) entries = entries ++ ps := by
  induction ps generalizing entries with
  | nil => exact (List.append_nil entries).symm
  | cons p ps ih =>
      have hkey : p.1 ∉ keys entries := by
        intro hmem
        rw [keys, List.map_append, List.map_cons] at h
        exact List.disjoint_of_nodup_append h hmem List.mem_cons_self
      rw [List.foldl_cons, insert_of_notMem hkey, ih, List.append_assoc]
      · rfl
      · rw [List.append_assoc]
        exact h

/-- Entries whose keys are distinct stand as they are inserted. -/
theorem ofList_eq_self {pairs : List (String × α)} (h : (keys pairs).Nodup) :
    ofList pairs = pairs :=
  foldl_insert_of_nodup h

/-- Every entry of a map is one of the pairs. -/
theorem mem_of_mem_ofList {pairs : List (String × α)} {e : String × α} (h : e ∈ ofList pairs) :
    e ∈ pairs :=
  ((foldl_insert_spec pairs [] List.nodup_nil).2 e h).resolve_right List.not_mem_nil

end Entries

/-! ## §2. Values. -/

/-- Every map in the value gives each of its keys once. -/
inductive Value.DistinctKeys : Value → Prop where
  | null : DistinctKeys .null
  | bool (b : Bool) : DistinctKeys (.bool b)
  | number (n : Number) : DistinctKeys (.number n)
  | string (s : String) : DistinctKeys (.string s)
  | array {items : List Value} (h : ∀ v ∈ items, DistinctKeys v) : DistinctKeys (.array items)
  | object {entries : List (String × Value)} (hkeys : (Entries.keys entries).Nodup)
      (h : ∀ e ∈ entries, DistinctKeys e.2) : DistinctKeys (.object entries)

namespace Value

/-- The items of a list have distinct keys if the list does. -/
theorem DistinctKeys.item {items : List Value} (h : (Value.array items).DistinctKeys) :
    ∀ v ∈ items, v.DistinctKeys := by
  cases h with
  | array h => exact h

/-- The keys of a map with distinct keys are distinct. -/
theorem DistinctKeys.nodup {entries : List (String × Value)}
    (h : (Value.object entries).DistinctKeys) : (Entries.keys entries).Nodup := by
  cases h with
  | object hkeys h => exact hkeys

/-- What stands under the keys of such a map has distinct keys. -/
theorem DistinctKeys.entry {entries : List (String × Value)}
    (h : (Value.object entries).DistinctKeys) : ∀ e ∈ entries, e.2.DistinctKeys := by
  cases h with
  | object hkeys h => exact h

@[simp] theorem distinctKeys_null : Value.null.DistinctKeys := .null

@[simp] theorem distinctKeys_bool (b : Bool) : (Value.bool b).DistinctKeys := .bool b

@[simp] theorem distinctKeys_number (n : Number) : (Value.number n).DistinctKeys := .number n

@[simp] theorem distinctKeys_string (s : String) : (Value.string s).DistinctKeys := .string s

@[simp] theorem distinctKeys_array {items : List Value} :
    (Value.array items).DistinctKeys ↔ ∀ v ∈ items, v.DistinctKeys := ⟨fun h => h.item, .array⟩

@[simp] theorem distinctKeys_object {entries : List (String × Value)} :
    (Value.object entries).DistinctKeys
      ↔ (Entries.keys entries).Nodup ∧ ∀ e ∈ entries, e.2.DistinctKeys :=
  ⟨fun h => ⟨h.nodup, h.entry⟩, fun h => .object h.1 h.2⟩

/-- Entries that are inserted one after the other. -/
theorem DistinctKeys.ofList {pairs : List (String × Value)} (h : ∀ e ∈ pairs, e.2.DistinctKeys) :
    (Value.object (Entries.ofList pairs)).DistinctKeys :=
  .object (Entries.nodup_keys_ofList pairs) fun e he => h e (Entries.mem_of_mem_ofList he)

end Value

/-! ## §3. What is read. -/

namespace Document

mutual

/-- A value that a document of JSON stands for has distinct keys. -/
theorem distinctKeys_toValue {v : Value} : ∀ d : Document, d.toValue? = some v → v.DistinctKeys
  | .null, h => by
      rw [← Option.some.inj h]
      exact .null
  | .bool b, h => by
      rw [← Option.some.inj h]
      exact .bool b
  | .number t, h => by
      obtain ⟨n, -, rfl⟩ := Option.map_eq_some_iff.mp h
      exact .number n
  | .string s, h => by
      obtain ⟨text, -, rfl⟩ := Option.map_eq_some_iff.mp h
      exact .string text
  | .array items, h => by
      obtain ⟨vs, hvs, rfl⟩ := Option.map_eq_some_iff.mp h
      exact .array (distinctKeys_toValues items hvs)
  | .object entries, h => by
      obtain ⟨es, hes, rfl⟩ := Option.map_eq_some_iff.mp h
      exact .ofList (distinctKeys_toEntries entries hes)

/-- The same for the items of a list. -/
theorem distinctKeys_toValues {vs : List Value} :
    ∀ ds : List Document, toValues? ds = some vs → ∀ v ∈ vs, v.DistinctKeys
  | [], h => by
      rw [← Option.some.inj h]
      exact fun v hv => nomatch hv
  | d :: rest, h => by
      simp only [toValues?, Option.bind_eq_bind, Option.bind_eq_some_iff, Option.pure_def,
        Option.some.injEq] at h
      obtain ⟨v, hv, vs', hvs', rfl⟩ := h
      exact List.forall_mem_cons.mpr ⟨distinctKeys_toValue d hv, distinctKeys_toValues rest hvs'⟩

/-- The same for what stands in a map. -/
theorem distinctKeys_toEntries {es : List (String × Value)} :
    ∀ entries : List (Option String × Document), toEntries? entries = some es →
      ∀ e ∈ es, e.2.DistinctKeys
  | [], h => by
      rw [← Option.some.inj h]
      exact fun v hv => nomatch hv
  | (key, d) :: rest, h => by
      simp only [toEntries?, Option.bind_eq_bind, Option.bind_eq_some_iff, Option.pure_def,
        Option.some.injEq] at h
      obtain ⟨k, -, v, hv, es', hes', rfl⟩ := h
      exact List.forall_mem_cons.mpr ⟨distinctKeys_toValue d hv, distinctKeys_toEntries rest hes'⟩

end

end Document

/-- **The value of a JSON text gives no key twice.** -/
theorem Value.distinctKeys_read {text : String} {v : Value} (h : Value.read? text = some v) :
    v.DistinctKeys := by
  obtain ⟨d, -, h⟩ := Option.bind_eq_some_iff.mp h
  split at h
  case isTrue => exact Document.distinctKeys_toValue d h
  case isFalse => cases h

end PullTriage.Json

namespace PullTriage.Yaml

open Json (Value Entries)

/-! ## §4. What is read from YAML. -/

/-- A number has no keys. -/
theorem distinctKeys_float {cs : List Char} {v : Value} (h : float? cs = some v) :
    v.DistinctKeys := by
  unfold float? at h
  dsimp only at h
  split at h
  case isTrue =>
    rw [← Option.some.inj h]
    exact .null
  case isFalse =>
    obtain ⟨f, -, rfl⟩ := Option.map_eq_some_iff.mp h
    exact .number _

/-- Nor has what a plain scalar stands for. -/
theorem distinctKeys_plainValue {s : String} {v : Value} (h : plainValue? s = some v) :
    v.DistinctKeys := by
  unfold plainValue? at h
  split at h
  case isTrue =>
    rw [← Option.some.inj h]
    exact .null
  case isFalse =>
    split at h
    case h_1 b _ =>
      rw [← Option.some.inj h]
      exact .bool b
    case h_2 =>
      split at h
      case h_1 n _ =>
        rw [← Option.some.inj (Option.ite_none_right_eq_some.mp h).2]
        exact .number _
      case h_2 =>
        split at h
        case isTrue =>
          rw [← Option.some.inj h]
          exact .string s
        case isFalse =>
          rw [← Option.some.inj h]
          cases hf : float? s.toList with
          | none => exact .string s
          | some f => exact distinctKeys_float hf

/-- A scalar is no map. -/
theorem distinctKeys_scalarValue {tag : Option Tag} {plain : Bool} {s : String} {v : Value}
    (h : scalarValue? tag plain s = some v) : v.DistinctKeys := by
  unfold scalarValue? at h
  split at h
  case h_1 =>
    rw [← Option.some.inj (Option.ite_none_right_eq_some.mp h).2]
    exact .null
  case h_2 =>
    obtain ⟨b, -, rfl⟩ := Option.map_eq_some_iff.mp h
    exact .bool b
  case h_3 =>
    obtain ⟨n, -, rfl⟩ := Option.map_eq_some_iff.mp h
    exact .number _
  case h_4 => exact distinctKeys_float h
  case h_5 => cases h
  case h_6 =>
    rw [← Option.some.inj h]
    exact .string s
  case h_7 =>
    split at h
    case isTrue => exact distinctKeys_plainValue h
    case isFalse =>
      rw [← Option.some.inj h]
      exact .string s

namespace Resolver

variable {α β : Type}

/-- Two resolvers after one another succeed when both do. -/
theorem bind_eq_some {x : Resolver α} {f : α → Resolver β} {n : Nat} {r : β × Nat}
    (h : (x >>= f) n = some r) : ∃ a m, x n = some (a, m) ∧ f a m = some r := by
  obtain ⟨⟨a, m⟩, hx, hf⟩ := Option.bind_eq_some_iff.mp h
  exact ⟨a, m, hx, hf⟩

/-- What a resolver gives for the members of a list, it gives for one of them each. -/
theorem forall_of_mapM {P : β → Prop} {f : α → Resolver β}
    (hf : ∀ a n b m, f a n = some (b, m) → P b) (as : List α) :
    ∀ {n m : Nat} {bs : List β}, as.mapM f n = some (bs, m) → ∀ b ∈ bs, P b := by
  induction as with
  | nil =>
      intro n m bs h
      obtain rfl : [] = bs := (Prod.mk.inj (Option.some.inj h)).1
      exact fun b hb => nomatch hb
  | cons a as ih =>
      intro n m bs h
      rw [List.mapM_cons] at h
      obtain ⟨b, n₁, hb, h⟩ := bind_eq_some h
      obtain ⟨bs', n₂, hbs', h⟩ := bind_eq_some h
      obtain rfl : b :: bs' = bs := (Prod.mk.inj (Option.some.inj h)).1
      exact List.forall_mem_cons.mpr ⟨hf a n b n₁ hb, ih hbs'⟩

/-- A scalar has no keys. -/
theorem distinctKeys_scalar {tag : Option Tag} {plain : Bool} {s : String} {n m : Nat} {v : Value}
    (h : (scalarValue? tag plain s).getDM (failure : Resolver Value) n = some (v, m)) :
    v.DistinctKeys := by
  cases hs : scalarValue? tag plain s with
  | none =>
      rw [hs] at h
      cases h
  | some w =>
      rw [hs] at h
      obtain rfl : w = v := (Prod.mk.inj (Option.some.inj h)).1
      exact distinctKeys_scalarValue hs

/-- Whatever a node stands for, its maps give no key twice.  The induction is on how deep collections
may nest. -/
theorem distinctKeys_value (anchored : List (Nat × Node)) (depth : Nat) :
    ∀ (node : Node) (n : Nat) (v : Value) (m : Nat),
      value anchored depth node n = some (v, m) → v.DistinctKeys := by
  induction depth with
  | zero =>
      intro node n v m h
      unfold value at h
      obtain ⟨node', n₁, -, h⟩ := bind_eq_some h
      -- with no depth left only a scalar is read
      cases node' with
      | reference => cases h
      | scalar p plain text => exact distinctKeys_scalar h
      | sequence p items =>
          dsimp only at h
          split at h <;> cases h
      | mapping p entries =>
          dsimp only at h
          split at h <;> cases h
  | succ depth ih =>
      intro node n v m h
      unfold value at h
      obtain ⟨node', n₁, -, h⟩ := bind_eq_some h
      cases node' with
      | reference => cases h
      | scalar p plain text => exact distinctKeys_scalar h
      | sequence p items =>
          dsimp only at h
          split at h
          case isTrue => cases h
          case isFalse =>
            obtain ⟨vs, n₂, hvs, h⟩ := bind_eq_some h
            obtain rfl : Value.array vs = v := (Prod.mk.inj (Option.some.inj h)).1
            exact .array (forall_of_mapM ih items hvs)
      | mapping p entries =>
          dsimp only at h
          split at h
          case isTrue => cases h
          case isFalse =>
            obtain ⟨es, n₂, hes, h⟩ := bind_eq_some h
            obtain rfl : Value.object (Entries.ofList es) = v := (Prod.mk.inj (Option.some.inj h)).1
            -- a key that is written twice keeps its place and takes the later value
            refine .ofList (forall_of_mapM (fun entry n e m he => ?_) entries hes)
            obtain ⟨key, n₃, -, he⟩ := bind_eq_some he
            obtain ⟨w, n₄, hw, he⟩ := bind_eq_some he
            obtain rfl : (key, w) = e := (Prod.mk.inj (Option.some.inj he)).1
            exact ih entry.2 n₃ w n₄ hw

end Resolver

/-- **The value of a YAML text gives no key twice.** -/
theorem distinctKeys_read {text : String} {v : Value} (h : read? text = some v) :
    v.DistinctKeys := by
  unfold read? at h
  simp only [Option.bind_eq_bind, Option.bind_eq_some_iff] at h
  obtain ⟨tokens, -, root, -, h⟩ := h
  split at h
  case h_1 =>
    rw [← Option.some.inj h]
    exact .null
  case h_2 root =>
    obtain ⟨⟨w, n⟩, hw, rfl⟩ := Option.map_eq_some_iff.mp h
    exact Resolver.distinctKeys_value _ _ root _ w n hw

end PullTriage.Yaml
