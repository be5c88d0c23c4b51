import PullTriage.Regex.Meaning

/-!
  PullTriage.Proofs.PropertyNames: the names of properties hold no brackets and no backslashes.

  A property is looked up under a loose form of its name, which leaves every bracket, parenthesis and
  backslash in place, and no name in the tables has one.  So whatever a pattern writes between the braces
  of a property is free of them as soon as the property exists.
-/

namespace PullTriage

/-- A character other than the brackets of a class, an opening parenthesis and a backslash. -/
def isOrdinary (c : Char) : Bool := c ≠ '\\' && c ≠ '[' && c ≠ ']' && c ≠ '('

/-- The characters that are not ordinary. -/
theorem isOrdinary_eq_false_iff {c : Char} :
    isOrdinary c = false ↔ c = '\\' ∨ c = '[' ∨ c = ']' ∨ c = '(' := by
  simp [isOrdinary, Classical.or_iff_not_imp_left]

/-- A test that fails on the four other characters only passes ordinary ones. -/
theorem isOrdinary_of_test (test : Char → Bool)
    (h : ['\\', '[', ']', '('].any test = false) {c : Char} (hc : test c = true) :
    isOrdinary c = true := by
  cases hord : isOrdinary c with
  | true => rfl
  | false =>
      have hmem : c ∈ ['\\', '[', ']', '('] := by simpa using isOrdinary_eq_false_iff.mp hord
      exact absurd hc (List.any_eq_false.mp h c hmem)

namespace Unicode

/-! ## §1. Loose names. -/

/-- What is dropped in front of a name is ordinary. -/
theorem toList_dropIs (cs : List Char) :
    ∃ dropped, cs = dropped ++ (dropIs cs).2 ∧ ∀ c ∈ dropped, isOrdinary c = true := by
  unfold dropIs
  split
  case h_1 a b rest =>
    split
    case isTrue h =>
      refine ⟨[a, b], rfl, ?_⟩
      obtain ⟨rfl | rfl, rfl | rfl⟩ := h <;> exact List.all_eq_true.mp (by decide)
    case isFalse => exact ⟨[], rfl, fun c hc => nomatch hc⟩
  case h_2 => exact ⟨[], rfl, fun c hc => nomatch hc⟩

/-- A name whose loose form is ordinary throughout is so itself. -/
theorem isOrdinary_of_looseName {name : String}
    (h : ∀ c ∈ (looseName name).toList, isOrdinary c = true) :
    ∀ c ∈ name.toList, isOrdinary c = true := by
  intro c hc
  obtain ⟨dropped, hsplit, hdropped⟩ := toList_dropIs name.toList
  rw [hsplit, List.mem_append] at hc
  rcases hc with hc | hc
  · exact hdropped c hc
  cases hord : isOrdinary c with
  | true => rfl
  | false =>
  -- a bracket, parenthesis or backslash stays in the loose form
  have hcases := isOrdinary_eq_false_iff.mp hord
  have hkept : c ∈ (((dropIs name.toList).2.filter fun c =>
      !(c = ' ' ∨ c = '_' ∨ c = '-') && c.toNat ≤ 0x7F).map Char.toLower) := by
    refine List.mem_map.mpr ⟨c, List.mem_filter.mpr ⟨hc, ?_⟩, ?_⟩ <;>
      rcases hcases with rfl | rfl | rfl | rfl <;> decide
  have hloose : c ∈ (looseName name).toList := by
    unfold looseName
    dsimp only
    rw [String.toList_ofList]
    split
    case isTrue hisc =>
      rw [hisc.2, List.mem_singleton] at hkept
      subst hkept
      exact absurd hcases (by decide)
    case isFalse => exact hkept
  rw [h c hloose] at hord
  cases hord

/-! ## §2. The tables. -/

/-- The names of the properties that take a value, in loose form. -/
def valuedProperties : List String :=
  ["gc", "generalcategory", "sc", "script", "scx", "scriptextensions", "age", "gcb",
    "graphemeclusterbreak", "wb", "wordbreak", "sb", "sentencebreak"]

/-- No octet of a text is one of the four other characters.  This is quick to compute, as no character
has to be decoded. -/
def octetsOrdinary (n : String) : Bool :=
  n.toByteArray.data.toList.all fun b => !([0x28, 0x5B, 0x5C, 0x5D].contains b.toNat)

/-- A name whose bytes are ordinary consists of ordinary characters. -/
theorem isOrdinary_of_octets {n : String} (h : octetsOrdinary n = true) :
    ∀ c ∈ n.toList, isOrdinary c = true := by
  intro c hc
  cases hord : isOrdinary c with
  | true => rfl
  | false =>
      have hoctets : n.toByteArray.data.toList = n.toList.flatMap String.utf8EncodeChar := by
        rw [← String.utf8Encode_toList]
        exact List.toList_data_toByteArray
      unfold octetsOrdinary at h
      rw [hoctets, List.all_eq_true] at h
      -- each of the four characters is a single octet
      rcases isOrdinary_eq_false_iff.mp hord with rfl | rfl | rfl | rfl
      · exact absurd (h 0x5C (List.mem_flatMap.mpr ⟨_, hc, List.mem_cons_self⟩)) (by decide)
      · exact absurd (h 0x5B (List.mem_flatMap.mpr ⟨_, hc, List.mem_cons_self⟩)) (by decide)
      · exact absurd (h 0x5D (List.mem_flatMap.mpr ⟨_, hc, List.mem_cons_self⟩)) (by decide)
      · exact absurd (h 0x28 (List.mem_flatMap.mpr ⟨_, hc, List.mem_cons_self⟩)) (by decide)

/-- The tables of named sets. -/
def nameTables : List (List NamedSet) :=
  [categories, scripts, scriptExtensions, properties, casings, emojis, identifiers, ages,
    graphemeClusterBreaks, wordBreaks, sentenceBreaks]

/-- All names that are looked up, in tables or in the code. -/
def knownNames : List String :=
  nameTables.flatMap (fun sets => sets.flatMap NamedSet.names) ++ coarseCategories.flatMap Prod.fst ++
    valuedProperties

/-- All names that are known are of this kind. -/
theorem octetsOrdinary_knownNames : knownNames.all octetsOrdinary = true := by decide +kernel

theorem isOrdinary_of_known {name : String} (h : name ∈ knownNames) :
    ∀ c ∈ name.toList, isOrdinary c = true :=
  isOrdinary_of_octets (List.all_eq_true.mp octetsOrdinary_knownNames name h)

/-- A name that is found in a table is written with ordinary characters, however loosely. -/
theorem isOrdinary_of_find {sets : List NamedSet} (hsets : sets ∈ nameTables) {name : String}
    {t : Table} (h : NamedSet.find? sets name = some t) : ∀ c ∈ name.toList, isOrdinary c = true := by
  unfold NamedSet.find? at h
  obtain ⟨s, hs, -⟩ := Option.map_eq_some_iff.mp h
  have hname : name ∈ s.names := by
    have hcontains := List.find?_some hs
    exact List.contains_iff_mem.mp hcontains
  refine isOrdinary_of_known (List.mem_append_left _ (List.mem_append_left _ ?_))
  exact List.mem_flatMap.mpr
    ⟨sets, hsets, List.mem_flatMap.mpr ⟨s, List.mem_of_find?_eq_some hs, hname⟩⟩

/-! ## §3. Properties. -/

/-- The names of the coarse categories are ordinary throughout. -/
theorem isOrdinary_of_category {name : String} {a : CharSet} (h : category? name = some a) :
    ∀ c ∈ name.toList, isOrdinary c = true := by
  unfold category? at h
  split at h
  case isTrue hname => subst hname; exact List.all_eq_true.mp (by decide)
  split at h
  case isTrue hname => subst hname; exact List.all_eq_true.mp (by decide)
  split at h
  case isTrue hname => subst hname; exact List.all_eq_true.mp (by decide)
  split at h
  case isTrue hname => rcases hname with rfl | rfl <;> exact List.all_eq_true.mp (by decide)
  split at h
  case isTrue hname => rcases hname with rfl | rfl <;> exact List.all_eq_true.mp (by decide)
  split at h
  -- then the names of the groups of categories, and the table of the categories last
  case h_1 names parts hfind =>
    have hmem := List.mem_of_find?_eq_some hfind
    have hcontains := List.find?_some hfind
    have hname : name ∈ names := List.contains_iff_mem.mp hcontains
    refine isOrdinary_of_known (List.mem_append_left _ (List.mem_append_right _ ?_))
    exact List.mem_flatMap.mpr ⟨_, hmem, hname⟩
  case h_2 =>
    obtain ⟨t, ht, -⟩ := Option.map_eq_some_iff.mp h
    exact isOrdinary_of_find (by simp [nameTables]) ht

/-- So is the name of a script. -/
theorem isOrdinary_of_script {name : String} {a : CharSet} (h : script? name = some a) :
    ∀ c ∈ name.toList, isOrdinary c = true := by
  obtain ⟨t, ht, -⟩ := Option.map_eq_some_iff.mp h
  exact isOrdinary_of_find (by simp [nameTables]) ht

/-- So is a name of script extensions. -/
theorem isOrdinary_of_scriptExtension {name : String} {a : CharSet}
    (h : scriptExtension? name = some a) : ∀ c ∈ name.toList, isOrdinary c = true := by
  rcases Option.or_eq_some_iff.mp h with h | ⟨-, h⟩
  · obtain ⟨t, ht, -⟩ := Option.map_eq_some_iff.mp h
    exact isOrdinary_of_find (by simp [nameTables]) ht
  · exact isOrdinary_of_script h

/-- So is the name of a binary property. -/
theorem isOrdinary_of_binary {name : String} {a : CharSet} (h : binary? name = some a) :
    ∀ c ∈ name.toList, isOrdinary c = true := by
  obtain ⟨sets, hsets, hfind⟩ := List.exists_of_findSome?_eq_some h
  obtain ⟨t, ht, -⟩ := Option.map_eq_some_iff.mp hfind
  have htables : ∀ sets ∈ [properties, casings, emojis, identifiers], sets ∈ nameTables := by
    simp [nameTables]
  exact isOrdinary_of_find (htables sets hsets) ht

/-- So is an age. -/
theorem isOrdinary_of_age {name : String} {a : CharSet} (h : age? name = some a) :
    ∀ c ∈ name.toList, isOrdinary c = true := by
  obtain ⟨i, hi, -⟩ := Option.map_eq_some_iff.mp h
  obtain ⟨hlt, hcontains, -⟩ := List.findIdx?_eq_some_iff_getElem.mp hi
  refine isOrdinary_of_known (List.mem_append_left _ (List.mem_append_left _ ?_))
  exact List.mem_flatMap.mpr ⟨ages, by simp [nameTables], List.mem_flatMap.mpr
    ⟨_, List.getElem_mem hlt, List.contains_iff_mem.mp hcontains⟩⟩

/-- **A name that stands for a set by itself is ordinary text.** -/
theorem isOrdinary_of_setOfName {name : String} {a : CharSet} (h : setOfName? name = some a) :
    ∀ c ∈ name.toList, isOrdinary c = true := by
  refine isOrdinary_of_looseName ?_
  unfold setOfName? at h
  dsimp only at h
  rcases Option.or_eq_some_iff.mp h with h | ⟨-, h⟩
  · rcases Option.or_eq_some_iff.mp h with h | ⟨-, h⟩
    · split at h
      · cases h
      · exact isOrdinary_of_binary h
    · exact isOrdinary_of_category h
  · exact isOrdinary_of_script h

/-- **So are the name of a property and that of one of its values.** -/
theorem isOrdinary_of_setOfValue {property value : String} {a : CharSet}
    (h : setOfValue? property value = some a) :
    (∀ c ∈ property.toList, isOrdinary c = true) ∧ ∀ c ∈ value.toList, isOrdinary c = true := by
  have hproperty : looseName property ∈ valuedProperties →
      ∀ c ∈ property.toList, isOrdinary c = true :=
    fun hp => isOrdinary_of_looseName (isOrdinary_of_known (List.mem_append_right _ hp))
  have htable : ∀ {sets : List NamedSet}, sets ∈ nameTables →
      (NamedSet.find? sets (looseName value)).map CharSet.table = some a →
      ∀ c ∈ value.toList, isOrdinary c = true := by
    intro sets hsets hfind
    obtain ⟨t, ht, -⟩ := Option.map_eq_some_iff.mp hfind
    exact isOrdinary_of_looseName (isOrdinary_of_find hsets ht)
  -- one case for each property that takes a value, in the order in which they are tried
  unfold setOfValue? at h
  dsimp only at h
  split at h
  case isTrue hp =>
    refine ⟨hproperty ?_, isOrdinary_of_looseName (isOrdinary_of_category h)⟩
    rcases hp with hp | hp <;> simp [valuedProperties, hp]
  split at h
  case isTrue hp =>
    refine ⟨hproperty ?_, isOrdinary_of_looseName (isOrdinary_of_script h)⟩
    rcases hp with hp | hp <;> simp [valuedProperties, hp]
  split at h
  case isTrue hp =>
    refine ⟨hproperty ?_, isOrdinary_of_looseName (isOrdinary_of_scriptExtension h)⟩
    rcases hp with hp | hp <;> simp [valuedProperties, hp]
  split at h
  case isTrue hp =>
    refine ⟨hproperty ?_, isOrdinary_of_looseName (isOrdinary_of_age h)⟩
    simp [valuedProperties, hp]
  split at h
  case isTrue hp =>
    refine ⟨hproperty ?_, htable (by simp [nameTables]) h⟩
    rcases hp with hp | hp <;> simp [valuedProperties, hp]
  split at h
  case isTrue hp =>
    refine ⟨hproperty ?_, htable (by simp [nameTables]) h⟩
    rcases hp with hp | hp <;> simp [valuedProperties, hp]
  split at h
  case isTrue hp =>
    refine ⟨hproperty ?_, htable (by simp [nameTables]) h⟩
    rcases hp with hp | hp <;> simp [valuedProperties, hp]
  case isFalse => cases h

end Unicode
end PullTriage
