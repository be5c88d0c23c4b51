import PullTriage.Proofs.GlobWords

/-!
  PullTriage.Proofs.GlobShortcuts: the strategies of simple globs answer like their patterns.

  A glob of a simple shape is answered from a part of the path.  On a path whose last component is not
  `..`, where each part is there to be looked at, the answer is that of the pattern: the path is
  accepted exactly when it is a word of the glob.

  Layers:
    * §1: a byte below 0x80 is a character of its own;
    * §2: the last component and its extension, against the ends of a path;
    * §3: one lemma per shape, each from the pieces that have the shape to the language they stand for.

  Main statement: `Strategy.matches_ofTokens_iff`.
-/

namespace PullTriage.Glob

/-! ## §1. Bytes of characters. -/

theorem charBytes_ne_nil (c : Char) : charBytes c ≠ [] := by
  unfold charBytes
  rw [ne_eq, List.map_eq_nil_iff]
  exact String.utf8EncodeChar_ne_nil

/-- A character below 0x80 is one byte, and the bytes of all others are not below 0x80. -/
theorem charBytes_ascii (c : Char) :
    (c.toNat < 0x80 ∧ charBytes c = [c.toNat]) ∨ (0x80 ≤ c.toNat ∧ ∀ b ∈ charBytes c, 0x80 ≤ b) := by
  have hval : c.val.toNat = c.toNat := rfl
  have hbyte : ∀ n, (UInt8.ofNat n).toNat = n % 256 := fun n => UInt8.toNat_ofNat'
  unfold charBytes String.utf8EncodeChar
  rw [hval]
  by_cases hone : c.toNat ≤ 0x7F
  · left
    rw [if_pos hone, List.map_singleton, hbyte, Nat.mod_eq_of_lt (by omega)]
    exact ⟨by omega, rfl⟩
  · right
    refine ⟨by omega, ?_⟩
    rw [if_neg hone]
    -- two, three or four bytes, each made by adding at least 0x80
    repeat' split
    all_goals
      simp only [List.map_cons, List.map_nil, hbyte, List.forall_mem_cons, List.not_mem_nil,
        false_imp_iff, implies_true, and_true]
      omega

/-- An ASCII byte stands among the bytes of a character only if it is that character. -/
theorem mem_charBytes_iff {a c : Char} (ha : a.toNat < 0x80) : a.toNat ∈ charBytes c ↔ c = a := by
  constructor
  · intro hmem
    rcases charBytes_ascii c with ⟨-, hbytes⟩ | ⟨-, hbytes⟩
    · rw [hbytes, List.mem_singleton] at hmem
      exact Char.toNat_inj.mp hmem.symm
    · have := hbytes _ hmem
      omega
  · rintro rfl
    rcases charBytes_ascii c with ⟨-, hbytes⟩ | ⟨hle, -⟩
    · rw [hbytes]
      exact List.mem_singleton_self _
    · omega

/-- The same for a text, which is why a dot or a slash may be looked for among the bytes. -/
theorem mem_bytesOf_iff {a : Char} (ha : a.toNat < 0x80) (cs : List Char) :
    a.toNat ∈ bytesOf cs ↔ a ∈ cs := by
  unfold bytesOf
  rw [List.mem_flatMap]
  constructor
  · rintro ⟨c, hc, hmem⟩
    rwa [← (mem_charBytes_iff ha).mp hmem]
  · intro hmem
    exact ⟨a, hmem, (mem_charBytes_iff ha).mpr rfl⟩

theorem notMem_bytesOf {a : Char} (ha : a.toNat < 0x80) {cs : List Char} (h : a ∉ cs) :
    a.toNat ∉ bytesOf cs := fun hmem => h ((mem_bytesOf_iff ha cs).mp hmem)

theorem bytesOf_append (a b : List Char) : bytesOf (a ++ b) = bytesOf a ++ bytesOf b :=
  List.flatMap_append

theorem bytesOf_ne_nil {cs : List Char} (h : cs ≠ []) : bytesOf cs ≠ [] := by
  cases cs with
  | nil => exact absurd rfl h
  | cons c cs =>
      intro hnil
      exact charBytes_ne_nil c (List.append_eq_nil_iff.mp hnil).1

/-! ## §2. Parts of a path. -/

/-- What follows the last separator. -/
def afterLast {α : Type} [BEq α] (separator : α) (symbols : List α) : List α :=
  (symbols.reverse.takeWhile (· != separator)).reverse

section AfterLast

variable {α : Type} [BEq α] [LawfulBEq α] {separator : α}

/-- Symbols without a separator at the end only add to what follows the last one. -/
theorem afterLast_append (front : List α) {tail : List α} (h : separator ∉ tail) :
    afterLast separator (front ++ tail) = afterLast separator front ++ tail := by
  unfold afterLast
  rw [List.reverse_append, List.takeWhile_append_of_pos, List.reverse_append, List.reverse_reverse]
  intro b hb
  rw [List.mem_reverse] at hb
  rw [bne_iff_ne]
  rintro rfl
  exact h hb

theorem afterLast_cons (front : List α) {tail : List α} (h : separator ∉ tail) :
    afterLast separator (front ++ separator :: tail) = tail := by
  have hend : afterLast separator (front ++ [separator]) = [] := by
    unfold afterLast
    rw [List.reverse_append]
    simp
  rw [List.append_cons, afterLast_append _ h, hend, List.nil_append]

theorem notMem_afterLast (symbols : List α) : separator ∉ afterLast separator symbols := by
  unfold afterLast
  rw [List.mem_reverse]
  intro hmem
  simpa using List.all_eq_true.mp List.all_takeWhile separator hmem

/-- A list is what follows its last separator, after nothing or after a separator. -/
theorem afterLast_cases (separator : α) (symbols : List α) :
    afterLast separator symbols = symbols ∨
      ∃ front, symbols = front ++ separator :: afterLast separator symbols := by
  have hsplit : (symbols.reverse.dropWhile (· != separator)).reverse ++ afterLast separator symbols =
      symbols := by
    unfold afterLast
    rw [← List.reverse_append, List.takeWhile_append_dropWhile, List.reverse_reverse]
  cases hrest : symbols.reverse.dropWhile (· != separator) with
  | nil =>
      left
      rw [hrest] at hsplit
      exact hsplit
  | cons b rest =>
      have hb : b = separator := by
        have hhead := List.head?_dropWhile_not (· != separator) symbols.reverse
        rw [hrest] at hhead
        simpa using hhead
      right
      refine ⟨rest.reverse, ?_⟩
      rw [hrest, List.reverse_cons, hb, List.append_assoc] at hsplit
      exact hsplit.symm

/-- What follows the last separator, said by the end of the list. -/
theorem afterLast_eq_iff {symbols tail : List α} (h : separator ∉ tail) :
    afterLast separator symbols = tail ↔ symbols = tail ∨ separator :: tail <:+ symbols := by
  constructor
  · rintro rfl
    rcases afterLast_cases separator symbols with hwhole | ⟨front, hfront⟩
    · exact .inl hwhole.symm
    · exact .inr ⟨front, hfront.symm⟩
  · rintro (rfl | ⟨front, rfl⟩)
    · exact afterLast_append [] h
    · exact afterLast_cons front h

end AfterLast

/-- The last component of a path. -/
def lastName (path : List Nat) : List Nat := afterLast 0x2F path

/-- The last component of a path has the bytes of the last component of its text. -/
theorem lastName_bytesOf (cs : List Char) : lastName (bytesOf cs) = bytesOf (afterLast '/' cs) := by
  have hfree : 0x2F ∉ bytesOf (afterLast '/' cs) :=
    notMem_bytesOf (a := '/') (by decide) (notMem_afterLast cs)
  rcases afterLast_cases '/' cs with hwhole | ⟨front, hfront⟩
  · rw [hwhole] at hfree ⊢
    exact afterLast_append [] hfree
  · have hbytes : bytesOf cs = bytesOf front ++ 0x2F :: bytesOf (afterLast '/' cs) := by
      rw [hfront, bytesOf_append, ← hfront]
      rfl
    rw [hbytes]
    exact afterLast_cons (bytesOf front) hfree

/-- Bytes that begin with a character below 0x80 are those of a text that begins with it. -/
theorem exists_of_bytesOf_cons {a : Char} (ha : a.toNat < 0x80) {cs : List Char} {bytes : List Nat}
    (h : bytesOf cs = a.toNat :: bytes) : ∃ rest, cs = a :: rest ∧ bytesOf rest = bytes := by
  cases cs with
  | nil => cases h
  | cons c cs =>
      have hsplit : charBytes c ++ bytesOf cs = a.toNat :: bytes := h
      obtain ⟨b, bs, hc⟩ := List.exists_cons_of_ne_nil (charBytes_ne_nil c)
      rw [hc, List.cons_append] at hsplit
      obtain ⟨rfl, hrest⟩ := List.cons.inj hsplit
      obtain rfl : c = a := (mem_charBytes_iff ha).mp (by simp [hc])
      obtain rfl : bs = [] := by
        rcases charBytes_ascii c with ⟨-, hone⟩ | ⟨hle, -⟩
        · rw [hone] at hc
          exact (List.cons.inj hc).2.symm
        · omega
      exact ⟨cs, rfl, hrest⟩

/-- A path whose last component is not `..` in its text has no such last component in its bytes. -/
theorem lastName_pathBytes {path : String} (h : afterLast '/' path.toList ≠ ['.', '.']) :
    lastName (pathBytes path) ≠ [0x2E, 0x2E] := by
  show lastName (bytesOf path.toList) ≠ _
  rw [lastName_bytesOf]
  intro hdots
  obtain ⟨rest, hfirst, hdots⟩ := exists_of_bytesOf_cons (a := '.') (by decide) hdots
  obtain ⟨rest', rfl, hnil⟩ := exists_of_bytesOf_cons (a := '.') (by decide) hdots
  have hrest : rest' = [] := by
    by_contra hne
    exact bytesOf_ne_nil hne hnil
  rw [hfirst, hrest] at h
  exact h rfl

/-- The file name is what stands behind the last separator, unless that is `..`. -/
theorem fileName_eq {path : List Nat} (h : lastName path ≠ [0x2E, 0x2E]) :
    fileName path = lastName path := by
  unfold fileName
  exact if_neg h

/-- A path with only directories before a text is the text, or ends with a slash and the text. -/
theorem mem_directories_mul_singleton {path text : List Nat} :
    path ∈ directories * ({text} : Language Nat) ↔ path = text ∨ 0x2F :: text <:+ path := by
  rw [Language.mem_mul]
  constructor
  · rintro ⟨u, hu | hu, v, rfl, rfl⟩
    · obtain rfl : u = [] := hu
      exact .inl rfl
    · obtain ⟨front, -, _, rfl, rfl⟩ := Language.mem_mul.mp hu
      exact .inr ⟨front, by rw [List.append_assoc]; rfl⟩
  · rintro (rfl | ⟨front, rfl⟩)
    · exact ⟨[], .inl rfl, path, rfl, rfl⟩
    · refine ⟨front ++ [0x2F], .inr (Language.append_mem_mul (mem_top front) rfl), text, rfl, ?_⟩
      rw [List.append_assoc]
      rfl

/-- The last component of a path is a given one exactly when only directories stand before it. -/
theorem lastName_eq_iff {path name : List Nat} (h : 0x2F ∉ name) :
    lastName path = name ↔ path ∈ directories * {name} :=
  (afterLast_eq_iff h).trans mem_directories_mul_singleton.symm

/-- A path whose extension is a given one ends in it, and the other way round. -/
theorem extension_lastName_eq_iff {path ext : List Nat} (hpoint : 0x2E ∉ ext) (hslash : 0x2F ∉ ext) :
    extension (lastName path) = 0x2E :: ext ↔ path ∈ ⊤ * ({0x2E :: ext} : Language Nat) := by
  rw [Language.mem_mul]
  constructor
  · intro h
    unfold extension at h
    split at h
    case isFalse => cases h
    case isTrue hmem =>
      have hafter : afterLast 0x2E (lastName path) = ext := (List.cons.inj h).2
      -- the last point of the name is the one in front of the extension
      have hname : ∃ front, lastName path = front ++ 0x2E :: ext := by
        rcases afterLast_cases 0x2E (lastName path) with hwhole | ⟨front, hfront⟩
        · rw [hafter] at hwhole
          rw [← hwhole] at hmem
          exact absurd (List.contains_iff_mem.mp hmem) hpoint
        · rw [hafter] at hfront
          exact ⟨front, hfront⟩
      obtain ⟨front, hfront⟩ := hname
      have hsplit : path ∈ directories * ({lastName path} : Language Nat) :=
        (lastName_eq_iff (notMem_afterLast path)).mp rfl
      obtain ⟨u, -, v, rfl, hpath⟩ := Language.mem_mul.mp hsplit
      refine ⟨u ++ front, mem_top _, 0x2E :: ext, rfl, ?_⟩
      rw [List.append_assoc, ← hfront]
      exact hpath
  · rintro ⟨front, -, tail, rfl, rfl⟩
    -- the extension holds no separator, so it lies in the last name
    have hname : lastName (front ++ 0x2E :: ext) = lastName front ++ 0x2E :: ext := by
      apply afterLast_append
      rw [List.mem_cons, not_or]
      exact ⟨by decide, hslash⟩
    rw [hname]
    unfold extension
    rw [if_pos (by simp)]
    exact congrArg (0x2E :: ·) (afterLast_cons (lastName front) hpoint)

/-! ## §3. Shapes. -/

theorem literals?_eq_some_iff {ts : List Token} {cs : List Char} :
    literals? ts = some cs ↔ ts = cs.map .literal := by
  unfold literals?
  induction ts generalizing cs with
  | nil =>
      cases cs with
      | nil => exact iff_of_true rfl rfl
      | cons c cs => exact iff_of_false (fun h => nomatch h) (fun h => nomatch h)
  | cons t ts ih =>
      rw [List.mapM_cons]
      constructor
      · intro h
        obtain ⟨c, hc, h⟩ := Option.bind_eq_some_iff.mp h
        obtain ⟨cs', hcs, h⟩ := Option.bind_eq_some_iff.mp h
        obtain rfl := Option.some.inj h
        split at hc
        case h_1 => 
          obtain rfl := Option.some.inj hc
          rw [ih.mp hcs]
          rfl
        case h_2 => cases hc
      · intro h
        cases cs with
        | nil => cases h
        | cons c cs =>
            obtain ⟨rfl, hts⟩ := List.cons.inj h
            rw [ih.mpr hts]
            rfl

/-- A shortcut also asks that what it compares is not empty; against a non-empty text the comparison
alone says so. -/
theorem nonempty_and_eq_iff {a b : List Nat} (hb : b ≠ []) :
    (!a.isEmpty && a == b) = true ↔ a = b := by
  rw [Bool.and_eq_true, beq_iff_eq]
  constructor
  · rintro ⟨-, heq⟩
    exact heq
  · rintro rfl
    exact ⟨by simpa using hb, rfl⟩

/-- A strategy answers whether a path is a word of the glob. -/
def Answers (ts : List Token) (path : List Nat) (s : Strategy) : Prop :=
  s.matches ts path = true ↔ path ∈ globWords ts

section Shapes

variable {ts : List Token} {path : List Nat} {s : Strategy}

/-- `**` and a slash, then a name without slash: the last component is the name. -/
theorem answers_fileName (hname : lastName path ≠ [0x2E, 0x2E]) (h : fileName? ts = some s) :
    Answers ts path s := by
  unfold fileName? at h
  split at h
  case h_2 => cases h
  case h_1 t rest =>
    split at h
    case h_2 => cases h
    case h_1 cs hliteral =>
      split at h
      case isTrue => cases h
      case isFalse hslash =>
        obtain rfl := Option.some.inj h
        have hts := literals?_eq_some_iff.mp hliteral
        have hcs : cs ≠ [] := by
          rintro rfl
          cases hts
        -- a name without separators is the last name of the path
        have hfree : 0x2F ∉ bytesOf cs :=
          notMem_bytesOf (a := '/') (by decide) (by simpa using hslash)
        show (!(fileName path).isEmpty && fileName path == bytesOf cs) = true ↔ _
        rw [hts, globWords_eq (by simp [hcs]), rowWords_cons, rowWords_directoriesFirst,
          rowWords_literals, ← lastName_eq_iff hfree, fileName_eq hname,
          nonempty_and_eq_iff (bytesOf_ne_nil hcs)]

/-- Literal characters only: the path is their text. -/
theorem answers_whole (h : whole? ts = some s) : Answers ts path s := by
  unfold whole? at h
  split at h
  case h_2 => cases h
  case h_1 c cs hliteral =>
    obtain rfl := Option.some.inj h
    rw [literals?_eq_some_iff.mp hliteral]
    show (path == bytesOf (c :: cs)) = true ↔ _
    rw [globWords_eq (by simp), rowWords_literals, beq_iff_eq]
    rfl

/-- A glob with other shapes than that of a whole path is not all literal. -/
theorem ne_literals_of_whole (hwhole : whole? ts = none) {cs : List Char} (hcs : cs ≠ []) :
    ts ≠ cs.map .literal := by
  intro hts
  unfold whole? at hwhole
  rw [literals?_eq_some_iff.mpr hts] at hwhole
  cases cs with
  | nil => exact hcs rfl
  | cons c cs => cases hwhole

/-- The extension of the last component, against the end of the path. -/
theorem extension_fileName_eq_iff (hname : lastName path ≠ [0x2E, 0x2E]) {cs : List Char}
    (hpoint : '.' ∉ cs) (hslash : '/' ∉ cs) :
    extension (fileName path) = bytesOf ('.' :: cs) ↔
      path ∈ ⊤ * ({bytesOf ('.' :: cs)} : Language Nat) := by
  rw [fileName_eq hname]
  exact extension_lastName_eq_iff (notMem_bytesOf (a := '.') (by decide) hpoint)
    (notMem_bytesOf (a := '/') (by decide) hslash)

/-- The pieces of a star, a point and an extension stand for the paths that end in them. -/
theorem globWords_extension {front : List Token} (hfront : front = [] ∨ front = [.directoriesFirst])
    (cs : List Char) : globWords (front ++ .anyRun :: cs.map .literal) = ⊤ * {bytesOf cs} := by
  have hne : front ++ .anyRun :: cs.map .literal ≠ [.directoriesFirst] := by
    rcases hfront with rfl | rfl <;> simp
  rw [globWords_eq hne, rowWords_append, rowWords_cons, rowWords_anyRun, rowWords_literals,
    ← mul_assoc]
  rcases hfront with rfl | rfl
  · rw [rowWords_nil, one_mul]
  · rw [rowWords_directoriesFirst, directories_mul_top]

theorem extension?_shape (h : extension? ts = some s) :
    ∃ front cs, (front = [] ∨ front = [.directoriesFirst]) ∧ '.' ∉ cs ∧ '/' ∉ cs ∧
      ts = front ++ .anyRun :: ('.' :: cs).map .literal ∧ s = .extension (bytesOf ('.' :: cs)) := by
  revert h
  fun_cases extension? ts with
  | case2 stripped rest hstripped cs hliteral hfree =>
      intro h
      obtain rfl := Option.some.inj h
      obtain ⟨hpoint, hslash⟩ : '.' ∉ cs ∧ '/' ∉ cs := by simpa using hfree
      rw [literals?_eq_some_iff.mp hliteral] at hstripped
      unfold stripped at hstripped
      split at hstripped
      case h_1 rest' =>
        exact ⟨[.directoriesFirst], cs, .inr rfl, hpoint, hslash, by rw [hstripped]; rfl, rfl⟩
      case h_2 => exact ⟨[], cs, .inl rfl, hpoint, hslash, hstripped, rfl⟩
  | _ => exact fun h => nomatch h

/-- A star and an extension: the extension of the last component is the given one. -/
theorem answers_extension (hname : lastName path ≠ [0x2E, 0x2E]) (h : extension? ts = some s) :
    Answers ts path s := by
  obtain ⟨front, cs, hfront, hpoint, hslash, rfl, rfl⟩ := extension?_shape h
  have hne : bytesOf ('.' :: cs) ≠ [] := bytesOf_ne_nil (List.cons_ne_nil _ _)
  show (!(extension (fileName path)).isEmpty && extension (fileName path) == bytesOf ('.' :: cs)) =
    true ↔ _
  rw [nonempty_and_eq_iff hne, globWords_extension hfront]
  exact extension_fileName_eq_iff hname hpoint hslash

theorem beginning?_shape (hwhole : whole? ts = none) (h : beginning? ts = some s) :
    ∃ cs last slash, (last = .anyRun ∧ slash = [] ∨ last = .directoriesLast ∧ slash = ['/']) ∧
      ts = cs.map .literal ++ [last] ∧ s = .beginning (bytesOf (cs ++ slash)) := by
  revert h
  fun_cases beginning? ts with
  | case2 front slash hlast cs hliteral hne =>
      intro h
      obtain rfl := Option.some.inj h
      have hfront : front = cs.map .literal := literals?_eq_some_iff.mp hliteral
      have hdrop : ∀ t, ts.getLast? = some t → ts = ts.dropLast ++ [t] := fun t ht =>
        (List.dropLast_append_getLast? t ht).symm
      split at hlast
      case h_1 heq =>
        obtain ⟨hdropLast, rfl⟩ := Prod.mk.inj hlast
        refine ⟨cs, .anyRun, [], .inl ⟨rfl, rfl⟩, ?_, rfl⟩
        rw [← hfront, ← hdropLast]
        exact hdrop _ heq
      case h_2 heq =>
        obtain ⟨hdropLast, rfl⟩ := Prod.mk.inj hlast
        refine ⟨cs, .directoriesLast, ['/'], .inr ⟨rfl, rfl⟩, ?_, rfl⟩
        rw [← hfront, ← hdropLast]
        exact hdrop _ heq
      case h_3 =>
        obtain ⟨rfl, rfl⟩ := Prod.mk.inj hlast
        -- with no star at its end, the glob would have been compared as a whole
        exact absurd hfront (ne_literals_of_whole hwhole (by simpa using hne))
  | _ => exact fun h => nomatch h

/-- Literal characters and then anything: the path begins with them. -/
theorem answers_beginning (hwhole : whole? ts = none) (h : beginning? ts = some s) :
    Answers ts path s := by
  obtain ⟨cs, last, slash, hlast, rfl, rfl⟩ := beginning?_shape hwhole h
  have hwords : globWords (cs.map .literal ++ [last]) = {bytesOf (cs ++ slash)} * ⊤ := by
    -- two stars at the end stand behind literals, so they are not the whole glob
    have hne : cs.map .literal ++ [last] ≠ [.directoriesFirst] := by
      intro heq
      have hmem : last ∈ cs.map .literal ++ [last] := by simp
      rw [heq, List.mem_singleton] at hmem
      subst hmem
      simp at hlast
    rw [globWords_eq hne, rowWords_append, rowWords_literals, bytesOf_append, ← single_mul_single,
      mul_assoc]
    rcases hlast with ⟨rfl, rfl⟩ | ⟨rfl, rfl⟩
    · rw [rowWords_anyRun]
      exact congrArg _ (one_mul _).symm
    · rw [rowWords_directoriesLast]
      rfl
  show (bytesOf (cs ++ slash)).isPrefixOf path = true ↔ _
  rw [hwords, List.isPrefixOf_iff_prefix, Language.mem_mul]
  constructor
  · rintro ⟨rest, rfl⟩
    exact ⟨_, rfl, rest, mem_top rest, rfl⟩
  · rintro ⟨_, rfl, rest, -, rfl⟩
    exact ⟨rest, rfl⟩

theorem ending?_shape (hwhole : whole? ts = none) (h : ending? ts = some s) :
    (∃ cs, cs ≠ [] ∧ ts = .directoriesFirst :: cs.map .literal ∧
        s = .ending (bytesOf ('/' :: cs)) true) ∨
      ∃ front cs, (front = [] ∨ front = [.directoriesFirst]) ∧
        ts = front ++ .anyRun :: cs.map .literal ∧ s = .ending (bytesOf cs) false := by
  revert h
  -- the shortcut is taken in one of the cases of its definition
  fun_cases ending? ts with
  | case3 slash t others rest cs hliteral tail hne hshape =>
      intro h
      obtain rfl := Option.some.inj h
      have hrest : rest = cs.map .literal := literals?_eq_some_iff.mp hliteral
      unfold rest at hrest
      split at hshape
      case h_1 c after =>
        obtain ⟨rfl, hcons⟩ := Prod.mk.inj hshape
        obtain ⟨rfl, rfl⟩ := List.cons.inj hcons
        left
        refine ⟨cs, ?_, by rw [← hrest], rfl⟩
        rintro rfl
        cases hrest
      case h_2 after hnotLiteral =>
        obtain ⟨rfl, rfl⟩ := Prod.mk.inj hshape
        right
        split at hrest
        case h_1 => exact ⟨[.directoriesFirst], cs, .inr rfl, by rw [hrest]; rfl, rfl⟩
        case h_2 =>
          cases cs with
          | nil => cases hrest
          | cons c cs =>
              obtain ⟨rfl, -⟩ := List.cons.inj hrest
              exact absurd rfl (hnotLiteral c others)
      case h_3 =>
        obtain ⟨rfl, rfl⟩ := Prod.mk.inj hshape
        right
        split at hrest
        case h_1 => exact ⟨[], cs, .inl rfl, by rw [hrest]; rfl, rfl⟩
        case h_2 =>
          have hcs : cs ≠ [] := by
            rintro rfl
            cases hrest
          exact absurd hrest (ne_literals_of_whole hwhole hcs)
  | _ => exact fun h => nomatch h

/-- Anything and then literal characters: the path ends in them. -/
theorem answers_ending (hwhole : whole? ts = none) (h : ending? ts = some s) :
    Answers ts path s := by
  rcases ending?_shape hwhole h with ⟨cs, hcs, rfl, rfl⟩ | ⟨front, cs, hfront, rfl, rfl⟩
  · show ((bytesOf ('/' :: cs)).isSuffixOf path || path == bytesOf cs) = true ↔ _
    rw [globWords_eq (by simp [hcs]), rowWords_cons, rowWords_directoriesFirst, rowWords_literals,
      mem_directories_mul_singleton, Bool.or_eq_true, List.isSuffixOf_iff_suffix, beq_iff_eq, or_comm]
    rfl
  · show ((bytesOf cs).isSuffixOf path || (false && path == (bytesOf cs).drop 1)) = true ↔ _
    rw [globWords_extension hfront, Bool.false_and, Bool.or_false, List.isSuffixOf_iff_suffix,
      Language.mem_mul]
    constructor
    · rintro ⟨front, rfl⟩
      exact ⟨front, mem_top front, _, rfl, rfl⟩
    · rintro ⟨front, -, _, rfl, rfl⟩
      exact ⟨front, rfl⟩

theorem requiredExtension?_go_shape {acc cs : List Char} {ts : List Token}
    (h : requiredExtension?.go acc ts = some cs) :
    ∃ ext front, '.' ∉ ext ∧ '/' ∉ ext ∧ ts = (ext.map .literal).reverse ++ .literal '.' :: front ∧
      cs = '.' :: ext ++ acc := by
  -- by induction from the end of the glob, as the extension is collected
  induction ts generalizing acc with
  | nil => cases h
  | cons t ts ih =>
      unfold requiredExtension?.go at h
      split at h
      case h_2 => cases h
      case h_1 c rest heq =>
        obtain ⟨rfl, rfl⟩ := List.cons.inj heq
        split at h
        case isTrue => cases h
        case isFalse hslash =>
          split at h
          case isTrue hpoint =>
            obtain rfl := Option.some.inj h
            subst hpoint
            exact ⟨[], ts, List.not_mem_nil, List.not_mem_nil, rfl, rfl⟩
          case isFalse hpoint =>
            obtain ⟨ext, front, hext, hext', rfl, rfl⟩ := ih h
            refine ⟨ext ++ [c], front, by simp [hext, Ne.symm hpoint],
              by simp [hext', Ne.symm hslash], by simp, by simp⟩

/-- The words of a glob that ends in literal characters end in them. -/
theorem ends_of_globWords {front : List Token} {c : Char} {cs : List Char}
    (h : path ∈ globWords (front ++ (c :: cs).map .literal)) :
    path ∈ ⊤ * ({bytesOf (c :: cs)} : Language Nat) := by
  have hne : front ++ (c :: cs).map .literal ≠ [.directoriesFirst] := by
    intro heq
    have hmem : Token.literal c ∈ front ++ (c :: cs).map .literal := by simp
    rw [heq] at hmem
    cases List.mem_singleton.mp hmem
  rw [globWords_eq hne, rowWords_append, rowWords_literals] at h
  obtain ⟨u, -, v, hv, rfl⟩ := Language.mem_mul.mp h
  exact ⟨u, mem_top u, v, hv, rfl⟩

/-- A point and literal characters at the end: no path with another extension is a word. -/
theorem answers_requiredExtension (hname : lastName path ≠ [0x2E, 0x2E])
    (h : requiredExtension? ts = some s) : Answers ts path s := by
  obtain ⟨cs, hgo, rfl⟩ := Option.map_eq_some_iff.mp h
  obtain ⟨ext, front, hpoint, hslash, hts, rfl⟩ := requiredExtension?_go_shape hgo
  have hts : ts = front.reverse ++ ('.' :: ext).map .literal := by
    rw [← List.reverse_reverse ts, hts]
    simp
  have hext : path ∈ globWords ts → extension (fileName path) = bytesOf ('.' :: ext) := by
    intro hmem
    rw [hts] at hmem
    exact (extension_fileName_eq_iff hname hpoint hslash).mpr (ends_of_globWords hmem)
  rw [List.append_nil]
  show (!(extension (fileName path)).isEmpty && extension (fileName path) == bytesOf ('.' :: ext) &&
    patternMatches ts path) = true ↔ _
  rw [Bool.and_eq_true, nonempty_and_eq_iff (bytesOf_ne_nil (List.cons_ne_nil _ _)),
    patternMatches_iff]
  exact ⟨And.right, fun hmem => ⟨hext hmem, hmem⟩⟩

end Shapes

/-- **Shortcuts.** The strategy of a glob answers like its pattern on every path whose last component is
not `..`. -/
theorem Strategy.matches_ofTokens_iff (ts : List Token) {path : List Nat}
    (hname : lastName path ≠ [0x2E, 0x2E]) :
    (Strategy.ofTokens ts).matches ts path = true ↔ path ∈ globWords ts := by
  unfold Strategy.ofTokens
  cases hfile : fileName? ts with
  | some s => exact answers_fileName hname hfile
  | none =>
  cases hwhole : whole? ts with
  | some s => exact answers_whole hwhole
  | none =>
  cases hextension : extension? ts with
  | some s => exact answers_extension hname hextension
  | none =>
  cases hbeginning : beginning? ts with
  | some s => exact answers_beginning hwhole hbeginning
  | none =>
  cases hending : ending? ts with
  | some s => exact answers_ending hwhole hending
  | none =>
  cases hrequired : requiredExtension? ts with
  | some s => exact answers_requiredExtension hname hrequired
  | none => exact patternMatches_iff ts path

end PullTriage.Glob
