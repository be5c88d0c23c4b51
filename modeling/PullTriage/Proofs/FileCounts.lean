import Mathlib.Data.List.Count
import Mathlib.Data.List.TakeWhile
import PullTriage.FileSummary
import PullTriage.Proofs.KeyedEntries

/-!
  PullTriage.Proofs.FileCounts: a summary counts every file once in each of its three groupings.

  Files are grouped by status, by extension and by directory.  What is kept for a grouping is a number
  for every key that occurs, and it is determined by how often each key occurs:

      (key, n) ∈ Tally.ofList keys  ↔  0 < n ∧ n = keys.count key

  So nothing is lost and nothing is counted twice, two lists of files are summarized by adding up their
  summaries, and the order of the files does not matter.

  Layers:
    * §1: what one more occurrence changes;
    * §2: tallies of lists of keys;
    * §3: the keys of a file;
    * §4: the summary.
-/

namespace PullTriage

open Json

namespace Tally

/-! ## §1. One more occurrence. -/

/-- How often a key was counted. -/
def count (t : Tally) (key : String) : Nat := (Entries.get? t key).getD 0

/-- The sum of all counts. -/
def total : Tally → Nat
  | [] => 0
  | (_, n) :: rest => n + total rest

/-- Counting one more is adjusting one entry of a sorted map. -/
theorem add_eq_adjust (key : String) (t : Tally) :
    add key t = Entries.adjust key (fun n => n.getD 0 + 1) t := by
  induction t with
  | nil => rfl
  | cons e rest ih =>
      obtain ⟨k, n⟩ := e
      show (if key = k then (k, n + 1) :: rest else if key < k then (key, 1) :: (k, n) :: rest
        else (k, n) :: add key rest) = _
      rw [ih]
      rfl

/-- It adds one to the total. -/
theorem total_add (key : String) (t : Tally) : (add key t).total = t.total + 1 := by
  induction t with
  | nil => rfl
  | cons e rest ih =>
      obtain ⟨k, n⟩ := e
      rw [add]
      split
      case isTrue =>
        show n + 1 + total rest = n + total rest + 1
        omega
      case isFalse =>
        split
        case isTrue =>
          show 1 + (n + total rest) = n + total rest + 1
          omega
        case isFalse =>
          show n + (add key rest).total = n + total rest + 1
          rw [ih]
          omega

/-! ## §2. Lists of keys. -/

/-- A tally is made by counting the keys one by one. -/
theorem ofList_eq_adjustAll (keys : List String) :
    ofList keys = Entries.adjustAll (keys.map fun key => (key, fun n => n.getD 0 + 1)) := by
  unfold ofList Entries.adjustAll
  rw [List.foldl_map]
  simp only [add_eq_adjust]

theorem ofList_concat (keys : List String) (key : String) :
    ofList (keys ++ [key]) = add key (ofList keys) := by
  unfold ofList
  rw [List.foldl_append]
  rfl

/-- The keys of a tally increase. -/
theorem increasing_ofList (keys : List String) : Entries.Increasing (ofList keys) := by
  rw [ofList_eq_adjustAll]
  exact Entries.increasing_adjustAll _

/-- The keys of a tally are the keys that were counted. -/
theorem mem_keys_ofList {keys : List String} {key : String} :
    key ∈ Entries.keys (ofList keys) ↔ key ∈ keys := by
  rw [ofList_eq_adjustAll, Entries.mem_keys_adjustAll, List.map_map]
  show key ∈ keys.map id ↔ _
  rw [List.map_id]

/-- **The counts add up to the number of keys.** -/
theorem total_ofList (keys : List String) : (ofList keys).total = keys.length := by
  induction keys using List.reverseRecOn with
  | nil => rfl
  | append_singleton keys key ih =>
      rw [ofList_concat, total_add, ih, List.length_append, List.length_singleton]

/-- **Under each key stands how often it was counted.** -/
theorem get?_ofList (keys : List String) (key : String) :
    Entries.get? (ofList keys) key = if key ∈ keys then some (keys.count key) else none := by
  rw [ofList_eq_adjustAll]
  induction keys using List.reverseRecOn with
  | nil => rfl
  | append_singleton keys k ih =>
      rw [List.map_append, List.map_singleton, Entries.get?_adjustAll_concat, List.count_append]
      by_cases h : key = k
      · subst h
        by_cases hmem : key ∈ keys
        · simp [ih, hmem]
        · simp [ih, hmem, List.count_eq_zero_of_not_mem hmem]
      · simp [ih, h, Ne.symm h]

/-- **A key is counted as often as it occurs.** -/
theorem count_ofList (keys : List String) (key : String) :
    (ofList keys).count key = keys.count key := by
  unfold count
  rw [get?_ofList]
  split
  case isTrue => rfl
  case isFalse hmem => exact (List.count_eq_zero_of_not_mem hmem).symm

/-- No key is kept that does not occur. -/
theorem mem_ofList_iff {keys : List String} {key : String} {n : Nat} :
    (key, n) ∈ ofList keys ↔ 0 < n ∧ n = keys.count key := by
  rw [← Entries.get?_eq_some_iff (increasing_ofList keys).nodup, get?_ofList]
  split
  case isTrue hmem =>
    have hpos : 0 < keys.count key := List.count_pos_iff.mpr hmem
    rw [Option.some.injEq]
    omega
  case isFalse hmem =>
    have hzero : keys.count key = 0 := List.count_eq_zero_of_not_mem hmem
    simp only [reduceCtorEq, false_iff]
    omega

/-- A tally does not depend on the order in which the keys are counted. -/
theorem ofList_perm {keys keys' : List String} (h : keys.Perm keys') : ofList keys = ofList keys' := by
  refine (increasing_ofList keys).ext (increasing_ofList keys') fun key => ?_
  rw [get?_ofList, get?_ofList, h.count_eq]
  simp only [h.mem_iff]

end Tally

/-! ## §3. The keys of a file. -/

namespace FilePath

/-- The name of a file holds no slash. -/
theorem ne_slash_of_mem_fileName {path name : List Char} (h : fileName? path = some name) :
    ∀ c ∈ name, c ≠ '/' := by
  unfold fileName? at h
  obtain ⟨-, hname⟩ := Option.ite_none_left_eq_some.mp h
  intro c hc
  rw [← Option.some.inj hname, lastComponent, List.mem_reverse] at hc
  simpa using List.mem_takeWhile_imp hc

/-- What follows the last point of a file name holds neither a point nor a slash. -/
theorem ne_of_mem_extension {path ext : List Char} (h : extension? path = some ext) :
    ∀ c ∈ ext, c ≠ '.' ∧ c ≠ '/' := by
  obtain ⟨name, hname, hext⟩ := Option.bind_eq_some_iff.mp h
  obtain ⟨-, hafter⟩ := Option.ite_none_right_eq_some.mp hext
  intro c hc
  rw [← Option.some.inj hafter, List.mem_reverse] at hc
  have hpoint : c ≠ '.' := by simpa using List.mem_takeWhile_imp hc
  have hmem : c ∈ name := List.mem_reverse.mp ((List.takeWhile_sublist _).mem hc)
  exact ⟨hpoint, ne_slash_of_mem_fileName hname c hmem⟩

end FilePath

namespace FileSummary

/-- The key of an extension is empty, or a point and a text without points and slashes. -/
theorem extensionKey_shape (filename : String) : extensionKey filename = "" ∨
    ∃ ext, (extensionKey filename).toList = '.' :: ext ∧ ∀ c ∈ ext, c ≠ '.' ∧ c ≠ '/' := by
  unfold extensionKey
  split
  case h_1 ext hext =>
    exact .inr ⟨ext, String.toList_ofList, FilePath.ne_of_mem_extension hext⟩
  case h_2 => exact .inl rfl

/-- The key of a directory is never empty. -/
theorem directoryKey_ne_empty (filename : String) : directoryKey filename ≠ "" := by
  unfold directoryKey
  split
  case h_1 c cs _ =>
    intro hempty
    have hlist := congrArg String.toList hempty
    rw [String.toList_ofList] at hlist
    cases hlist
  case h_2 => decide

end FileSummary

/-! ## §4. The summary. -/

/-- What files are grouped by. -/
inductive Grouping where
  | status
  | extension
  | directory
  deriving DecidableEq, Repr

/-- The group that a file is counted in. -/
def Grouping.key : Grouping → FileRecord → String
  | status, r => r.status
  | extension, r => FileSummary.extensionKey r.filename
  | directory, r => FileSummary.directoryKey r.filename

namespace FileSummary

/-- The counts of a grouping. -/
def tally (s : FileSummary) : Grouping → Tally
  | .status => s.byStatus
  | .extension => s.byExtension
  | .directory => s.byDirectory

/-- The tally of a summary counts the keys of the records. -/
theorem tally_ofRecords (records : List FileRecord) (g : Grouping) :
    (ofRecords records).tally g = Tally.ofList (records.map g.key) := by
  cases g with
  | status | extension | directory => rfl

/-- Summaries with the same total and the same counts are the same. -/
theorem ext_tally {s t : FileSummary} (htotal : s.total = t.total)
    (htally : ∀ g, s.tally g = t.tally g) : s = t := by
  have hstatus : s.byStatus = t.byStatus := htally .status
  have hextension : s.byExtension = t.byExtension := htally .extension
  have hdirectory : s.byDirectory = t.byDirectory := htally .directory
  cases s
  cases t
  simp only [mk.injEq]
  exact ⟨htotal, hstatus, hextension, hdirectory⟩

/-- The number of files with a key. -/
theorem count_map_key (g : Grouping) (records : List FileRecord) (key : String) :
    (records.map g.key).count key = records.countP fun r => g.key r = key := by
  rw [List.count, List.countP_map]
  rfl

/-- Every key of a tally comes from a record. -/
theorem exists_of_mem_keys {records : List FileRecord} {g : Grouping} {key : String}
    (h : key ∈ Entries.keys ((ofRecords records).tally g)) : ∃ r ∈ records, g.key r = key := by
  rw [tally_ofRecords, Tally.mem_keys_ofList] at h
  exact List.mem_map.mp h

/-- **Every grouping counts every file once, under its own key; two lists are summarized by adding
their counts; and the order of the files does not matter.** -/
theorem ofRecords_conserves (records : List FileRecord) :
    let s := ofRecords records
    s.total = records.length ∧
    (∀ g : Grouping, (s.tally g).total = s.total ∧ (Entries.keys (s.tally g)).Pairwise (· < ·) ∧
      ∀ key n, (key, n) ∈ s.tally g ↔ 0 < n ∧ n = records.countP fun r => g.key r = key) ∧
    (∀ key ∈ Entries.keys (s.tally .extension),
      key = "" ∨ ∃ ext, key.toList = '.' :: ext ∧ ∀ c ∈ ext, c ≠ '.' ∧ c ≠ '/') ∧
    (∀ key ∈ Entries.keys (s.tally .directory), key ≠ "") ∧
    (∀ others, let t := ofRecords others; let u := ofRecords (records ++ others)
      u.total = s.total + t.total ∧
        ∀ g key, (u.tally g).count key = (s.tally g).count key + (t.tally g).count key) ∧
    ∀ others, records.Perm others → ofRecords others = s := by
  intro s
  -- all tallies are one count over a list of keys, so each part is a fact about such counts
  refine ⟨rfl, fun g => ⟨?_, ?_, ?_⟩, ?_, ?_, fun others => ⟨List.length_append, ?_⟩, ?_⟩
  · rw [tally_ofRecords, Tally.total_ofList, List.length_map]
    rfl
  · rw [tally_ofRecords]
    exact Tally.increasing_ofList _
  · intro key n
    rw [tally_ofRecords, Tally.mem_ofList_iff, count_map_key]
  · intro key hkey
    obtain ⟨r, -, rfl⟩ := exists_of_mem_keys hkey
    exact extensionKey_shape r.filename
  · intro key hkey
    obtain ⟨r, -, rfl⟩ := exists_of_mem_keys hkey
    exact directoryKey_ne_empty r.filename
  · intro g key
    simp only [s, tally_ofRecords, Tally.count_ofList, List.map_append, List.count_append]
  · intro others hperm
    refine ext_tally hperm.length_eq.symm fun g => ?_
    rw [tally_ofRecords, tally_ofRecords]
    exact Tally.ofList_perm (hperm.map g.key).symm

/-- A point at the beginning of a name begins no extension, one at its end begins an empty one; `..` and
the empty name have no directory but the root. -/
theorem ofRecords_conserves_corners :
    let records : List FileRecord := [⟨".gitignore", "modified", 1, 0⟩, ⟨"docs/a..", "added", 2, 0⟩,
      ⟨"docs/x.md/", "added", 0, 0⟩, ⟨"..", "removed", 0, 9⟩, ⟨"", "unknown", 0, 0⟩]
    let s := ofRecords records
    ofRecords records.reverse = s ∧ s.byExtension = [("", 3), (".", 1), (".md", 1)] ∧
      s.byDirectory = [(".", 3), ("docs", 2)] ∧
      s.byStatus = [("added", 2), ("modified", 1), ("removed", 1), ("unknown", 1)] ∧
      (".md" = "" ∨ ∃ ext, ".md".toList = '.' :: ext ∧ ∀ c ∈ ext, c ≠ '.' ∧ c ≠ '/') ∧ "docs" ≠ "" := by
  intro records s
  obtain ⟨-, -, hextension, hdirectory, -, hperm⟩ := ofRecords_conserves records
  exact ⟨hperm records.reverse (List.reverse_perm records).symm, by decide +kernel, by decide +kernel,
    by decide +kernel, hextension ".md" (by decide +kernel), hdirectory "docs" (by decide +kernel)⟩

end FileSummary
end PullTriage
