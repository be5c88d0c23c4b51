import Mathlib.Data.List.Induction
import Mathlib.Data.List.Nodup
import Mathlib.Data.String.Basic
import PullTriage.Json.Value

/-!
  PullTriage.Proofs.KeyedEntries: entries that are found by their keys.

  Where keys are distinct, looking a key up finds the one entry that has it.  Where they stand in
  increasing order as well, every key has one place, and entries are determined by what is found under
  their keys.  Registered builders and counted keys are kept in this way: both come from changing what
  stands under one key after the other, and

      get? (adjustAll (changes ++ [c])) key  =  `c` applied to what was there   (`key` is the key of `c`)
                                             =  what was there                  (any other key)
-/

namespace PullTriage

open Json

/-! ## §1. Looking up by a distinct key. -/

/-- Where no two members have one key, the first member with a key is the only one. -/
theorem find?_key_eq_some_iff {α : Type} {key : α → String} {l : List α} (h : (l.map key).Nodup)
    {k : String} {a : α} : (l.find? fun x => key x == k) = some a ↔ a ∈ l ∧ key a = k := by
  constructor
  case mp =>
    intro hfind
    exact ⟨List.mem_of_find?_eq_some hfind, by simpa using List.find?_some hfind⟩
  case mpr =>
    rintro ⟨ha, rfl⟩
    cases hfind : l.find? fun x => key x == key a with
    | none => exact absurd (beq_self_eq_true (key a)) (List.find?_eq_none.mp hfind a ha)
    | some b =>
        have hkey : key b = key a := by simpa using List.find?_some hfind
        rw [List.inj_on_of_nodup_map h (List.mem_of_find?_eq_some hfind) ha hkey]

/-- Under distinct keys, what is found is what stands there. -/
theorem Entries.get?_eq_some_iff {α : Type} {entries : Entries α}
    (h : (Entries.keys entries).Nodup) {key : String} {v : α} :
    Entries.get? entries key = some v ↔ (key, v) ∈ entries := by
  unfold Entries.get?
  simp only [Option.map_eq_some_iff, find?_key_eq_some_iff h]
  constructor
  · rintro ⟨e, ⟨he, rfl⟩, rfl⟩
    exact he
  · intro he
    exact ⟨(key, v), ⟨he, rfl⟩, rfl⟩

namespace Json.Entries

variable {α : Type} {entries : Entries α} {key : String}

/-- The first entry is found before the others. -/
theorem get?_cons (k : String) (a : α) (rest : Entries α) :
    get? ((k, a) :: rest) key = if key = k then some a else get? rest key := by
  unfold get?
  by_cases h : key = k
  · simp [h]
  · simp [h, Ne.symm h]

/-- Nothing is found exactly under the keys that are not there. -/
theorem get?_eq_none_iff : get? entries key = none ↔ key ∉ keys entries := by
  unfold get? keys
  rw [Option.map_eq_none_iff, List.find?_eq_none, List.mem_map]
  simp only [beq_iff_eq, not_exists, not_and]

/-! ## §2. Increasing keys. -/

/-- The keys are strictly increasing. -/
def Increasing (entries : Entries α) : Prop := (keys entries).Pairwise (· < ·)

/-- The first key is less than all others, and those increase. -/
theorem increasing_cons {k : String} {a : α} :
    Increasing ((k, a) :: entries) ↔ (∀ k' ∈ keys entries, k < k') ∧ Increasing entries :=
  List.pairwise_cons

/-- Increasing keys are distinct. -/
theorem Increasing.nodup (h : Increasing entries) : (keys entries).Nodup := by
  refine List.Pairwise.imp ?_ h
  intro k k' hlt
  exact ne_of_lt hlt

/-- Entries in increasing order are determined by what is found under their keys. -/
theorem Increasing.ext {entries' : Entries α} (h : Increasing entries) (h' : Increasing entries')
    (hget : ∀ key, get? entries key = get? entries' key) : entries = entries' := by
  have hperm : entries.Perm entries' := by
    refine (List.perm_ext_iff_of_nodup (h.nodup.of_map _) (h'.nodup.of_map _)).mpr fun e => ?_
    rw [← Entries.get?_eq_some_iff h.nodup, ← Entries.get?_eq_some_iff h'.nodup, hget]
  refine List.Perm.eq_of_pairwise ?_ (List.pairwise_map.mp h) (List.pairwise_map.mp h') hperm
  intro a b _ _ hab hba
  exact absurd hba (lt_asymm hab)

/-! ## §3. Changing what stands under a key. -/

/-- Change what stands under a key.  A new key gets its place in the order. -/
def adjust (key : String) (change : Option α → α) : Entries α → Entries α
  | [] => [(key, change none)]
  | (k, a) :: rest =>
    if key = k then (k, change (some a)) :: rest
    else if key < k then (key, change none) :: (k, a) :: rest
    else (k, a) :: adjust key change rest

/-- Adjusting an entry adds its key and loses none. -/
theorem mem_keys_adjust {change : Option α → α} {k : String} :
    k ∈ keys (adjust key change entries) ↔ k = key ∨ k ∈ keys entries := by
  induction entries with
  | nil => simp [adjust, keys]
  | cons e rest ih =>
      obtain ⟨k', a⟩ := e
      rw [adjust]
      split
      case isTrue heq => simp [keys, heq]
      case isFalse =>
        split
        case isTrue => simp [keys]
        case isFalse =>
          show k ∈ k' :: keys (adjust key change rest) ↔ _
          rw [List.mem_cons, ih]
          simp [keys, or_left_comm]

/-- **Adjusting keeps the keys increasing.** -/
theorem Increasing.adjust (h : Increasing entries) (change : Option α → α) :
    Increasing (adjust key change entries) := by
  induction entries with
  | nil => exact List.pairwise_singleton _ _
  | cons e rest ih =>
      obtain ⟨k, a⟩ := e
      obtain ⟨hk, hrest⟩ := increasing_cons.mp h
      rw [Entries.adjust]
      split
      case isTrue => exact increasing_cons.mpr ⟨hk, hrest⟩
      case isFalse hne =>
        split
        case isTrue hlt =>
          -- the new key stands in front of all the others
          refine increasing_cons.mpr ⟨?_, h⟩
          intro k' hk'
          rcases List.mem_cons.mp hk' with rfl | hk'
          · exact hlt
          · exact hlt.trans (hk k' hk')
        case isFalse hnot =>
          -- the new key goes further back, behind this one
          refine increasing_cons.mpr ⟨?_, ih hrest⟩
          intro k' hk'
          rcases mem_keys_adjust.mp hk' with rfl | hk'
          · exact lt_of_le_of_ne (not_lt.mp hnot) (Ne.symm hne)
          · exact hk k' hk'

/-- **The change is seen under its own key and nowhere else.** -/
theorem Increasing.get?_adjust (h : Increasing entries) (change : Option α → α) (k : String) :
    get? (Entries.adjust key change entries) k
      = if k = key then some (change (get? entries key)) else get? entries k := by
  induction entries with
  | nil => exact get?_cons key (change none) []
  | cons e rest ih =>
      obtain ⟨k', a⟩ := e
      obtain ⟨hk', hrest⟩ := increasing_cons.mp h
      rw [Entries.adjust]
      split
      case isTrue heq =>
        subst heq
        rw [get?_cons, get?_cons, get?_cons, if_pos rfl]
        split <;> rfl
      case isFalse hne =>
        split
        case isTrue hlt =>
          -- every later key is greater still, so the key is not among them
          have hnone : get? rest key = none := by
            refine get?_eq_none_iff.mpr fun hmem => ?_
            exact absurd (hk' key hmem) (lt_asymm hlt)
          rw [get?_cons key, get?_cons k', get?_cons k', if_neg hne, hnone]
        case isFalse =>
          rw [get?_cons, ih hrest, get?_cons, get?_cons, if_neg hne]
          by_cases hkey : k = key
          · rw [if_pos hkey, if_neg (hkey ▸ hne), if_pos hkey]
          · rw [if_neg hkey, if_neg hkey]

/-! ## §4. Changes made one after the other. -/

/-- Make changes one after the other, beginning without entries. -/
def adjustAll (changes : List (String × (Option α → α))) : Entries α :=
  changes.foldl (fun entries c => adjust c.1 c.2 entries) []

/-- The last change is made to the result of the others. -/
theorem adjustAll_concat (changes : List (String × (Option α → α))) (c : String × (Option α → α)) :
    adjustAll (changes ++ [c]) = adjust c.1 c.2 (adjustAll changes) := by
  unfold adjustAll
  rw [List.foldl_append]
  rfl

/-- The keys increase after any changes. -/
theorem increasing_adjustAll (changes : List (String × (Option α → α))) :
    Increasing (adjustAll changes) := by
  induction changes using List.reverseRecOn with
  | nil => exact List.Pairwise.nil
  | append_singleton changes c ih =>
      rw [adjustAll_concat]
      exact ih.adjust c.2

/-- The keys are those of the changes. -/
theorem mem_keys_adjustAll {changes : List (String × (Option α → α))} :
    key ∈ keys (adjustAll changes) ↔ key ∈ changes.map Prod.fst := by
  induction changes using List.reverseRecOn with
  | nil => exact Iff.rfl
  | append_singleton changes c ih =>
      rw [adjustAll_concat, mem_keys_adjust, ih]
      simp [or_comm]

/-- The last change decides what stands under its key and nothing else. -/
theorem get?_adjustAll_concat (changes : List (String × (Option α → α)))
    (c : String × (Option α → α)) :
    get? (adjustAll (changes ++ [c])) key
      = if key = c.1 then some (c.2 (get? (adjustAll changes) c.1))
        else get? (adjustAll changes) key := by
  rw [adjustAll_concat]
  exact (increasing_adjustAll changes).get?_adjust c.2 key

end Json.Entries
end PullTriage
