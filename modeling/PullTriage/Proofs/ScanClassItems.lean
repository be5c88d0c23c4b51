import PullTriage.Proofs.FlagGroups
import PullTriage.Proofs.ScanEscapes

/-!
  PullTriage.Proofs.ScanClassItems: the scan and what stands in a class.

  Inside a class the scan stands at a depth that is not zero, and a member or a range leaves it there,
  unless the range ends in a bare bracket: the scan takes that for the beginning of a class.  `Mark.Plain`
  leaves this out.  At the front of a class both the parser and the scan take a caret and then a closing
  bracket for what they are (`openClass?_scan`).

  Layers:
    * §1: members and ranges;
    * §2: the front of a class.
-/

namespace PullTriage.Regex

open TextPattern (Scan)
open TextPattern.Scan (Passes rejects_plain_cons rejects_ordinary)

/-! ## §1. Members and ranges. -/

/-- What a part of a pattern has to be like for brackets alone to be read as the parser reads them: no
verbosity, no bare bracket in a name or at the end of a range, and no property that does not exist. -/
def Mark.Plain : Mark → Prop
  | .flags items => FlagItem.turnsOn items .verbose = false
  | .name n => '[' ∉ n.toList
  | .property q => q.set?.isSome = true
  | .range _ high => high.char ≠ '['

/-- If the part is a flag group, it does not make the pattern verbose. -/
def Mark.KeepsLayout : Mark → Prop
  | .flags items => FlagItem.turnsOn items .verbose = false
  | _ => True

/-- A plain part does not make the pattern verbose. -/
theorem Mark.Plain.keepsLayout {x : Mark} (h : x.Plain) : x.KeepsLayout := by
  cases x with
  | flags items => exact h
  | _ => trivial

/-- A member leaves the scan at the depth where it found it. -/
theorem classPrimitive?_scan {p : Primitive} {cs rest : List Char}
    (h : classPrimitive? false cs = some (p, rest)) (hp : p.Exists) {d : Nat} (hd : d ≠ 0)
    (hopen : cs.head? ≠ some '[') (hclose : cs.head? ≠ some ']') :
    (Scan.plain d).rejects cs = (Scan.plain d).rejects rest := by
  unfold classPrimitive? at h
  split at h
  · cases h
  · exact escape?_scan (.of_false _) h hp d
  case h_3 c rest' hescape =>
    simp only [Option.some.injEq, Prod.mk.injEq] at h
    obtain ⟨rfl, rfl⟩ := h
    have hbackslash : c ≠ '\\' := by
      rintro rfl
      exact hescape rfl
    rw [rejects_plain_cons, Scan.next_eq_plain hbackslash (fun e => hopen (congrArg some e))
      (.inl fun e => hclose (congrArg some e)) (.inr hd)]

/-- A literal is no property that might not exist. -/
theorem Primitive.exists_of_toLiteral {p : Primitive} {l : Literal} (h : p.toLiteral? = some l) :
    p.Exists := by
  cases p with
  | property => cases h
  | _ => trivial

/-- A plain member of a class is no property that does not exist. -/
theorem Primitive.exists_of_toClassItem {p : Primitive} {i : ClassItem} (h : p.toClassItem? = some i)
    (hi : ∀ x ∈ i.marks, x.Plain) : p.Exists := by
  cases p with
  | property negated q =>
      cases h
      exact hi _ List.mem_cons_self
  | _ => trivial

/-- An unescaped end of a range is the character itself. -/
theorem classPrimitive?_bracket {p : Primitive} {cs rest : List Char} {l : Literal}
    (h : classPrimitive? false cs = some (p, rest)) (hl : p.toLiteral? = some l)
    (hopen : cs.head? = some '[') : l.char = '[' := by
  cases cs with
  | nil => cases hopen
  | cons c cs =>
      obtain rfl : c = '[' := Option.some.inj hopen
      obtain ⟨rfl, -⟩ : Primitive.literal ⟨'[', false⟩ = p ∧ cs = rest := Prod.mk.inj (Option.some.inj h)
      cases hl
      rfl

/-- **So does a range**, unless it ends in a bare bracket. -/
theorem classRange?_scan {i : ClassItem} {cs rest : List Char}
    (h : classRange? false cs = some (i, rest)) (hi : ∀ x ∈ i.marks, x.Plain) {d : Nat} (hd : d ≠ 0)
    (hopen : cs.head? ≠ some '[') (hclose : cs.head? ≠ some ']') :
    (Scan.plain d).rejects cs = (Scan.plain d).rejects rest := by
  unfold classRange? at h
  simp only [skip_false, Option.bind_eq_bind, Option.bind_eq_some_iff] at h
  obtain ⟨⟨low, after⟩, hlow, h⟩ := h
  dsimp only at h
  split at h
  · cases h
  case h_2 c after' =>
    split at h
    case isTrue =>
      simp only [Option.pure_def, Option.bind_eq_some_iff, Option.some.injEq, Prod.mk.injEq] at h
      obtain ⟨item, hitem, rfl, rfl⟩ := h
      -- no hyphen follows: a member by itself
      exact classPrimitive?_scan hlow (Primitive.exists_of_toClassItem hitem hi) hd hopen hclose
    case isFalse hrange =>
      simp only [not_or, Decidable.not_not] at hrange
      obtain ⟨rfl, hbracket, -⟩ := hrange
      simp only [Option.pure_def, Option.bind_eq_some_iff] at h
      obtain ⟨⟨high, after''⟩, hhigh, l, hl, r, hr, h⟩ := h
      split at h
      case isFalse => cases h
      simp only [Option.some.injEq, Prod.mk.injEq] at h
      obtain ⟨rfl, rfl⟩ := h
      -- where the range ends in a bracket the scan would take it for the start of a class
      have hplain : r.char ≠ '[' := hi _ List.mem_cons_self
      rw [classPrimitive?_scan hlow (Primitive.exists_of_toLiteral hl) hd hopen hclose,
        rejects_ordinary (by decide),
        classPrimitive?_scan hhigh (Primitive.exists_of_toLiteral hr) hd
          (fun e => hplain (classPrimitive?_bracket hhigh hr e)) hbracket]

/-! ## §2. The front of a class. -/

/-- A bracket begins a class. -/
theorem rejects_bracket (d : Nat) (cs : List Char) :
    (Scan.plain d).rejects ('[' :: cs) = (Scan.opened (d + 1)).rejects cs :=
  rejects_plain_cons d '[' cs

/-- A closing bracket ends one. -/
theorem rejects_close (d : Nat) (cs : List Char) :
    (Scan.plain (d + 1)).rejects (']' :: cs) = (Scan.plain d).rejects cs :=
  rejects_plain_cons (d + 1) ']' cs

/-- A name that a table has is ordinary if all names of the table are. -/
theorem isOrdinary_of_lookup {β : Type} {table : List (String × β)} {name : String} {b : β}
    (h : table.lookup name = some b)
    (htable : (table.all fun entry => entry.1.toList.all isOrdinary) = true) :
    ∀ c ∈ name.toList, isOrdinary c = true := by
  obtain ⟨before, after, rfl, -⟩ := List.lookup_eq_some_iff.mp h
  have hmem : (name, b) ∈ before ++ (name, b) :: after :=
    List.mem_append_right _ List.mem_cons_self
  exact List.all_eq_true.mp (List.all_eq_true.mp htable _ hmem)

theorem PosixClass.isOrdinary_of_ofName {name : String} {c : PosixClass}
    (h : PosixClass.ofName? name = some c) : ∀ x ∈ name.toList, isOrdinary x = true :=
  isOrdinary_of_lookup h (by decide +kernel)

/-- A sign of negation is passed over. -/
theorem passes_sign (cs : List Char) :
    Passes cs (match cs with
      | '^' :: rest => (true, rest)
      | _ => (false, cs)).2 := by
  split
  · exact (Passes.refl _).cons (by decide)
  · exact .refl _

/-- Between the colon that begins a class between colons and the bracket that ends it, everything
passes. -/
theorem posixClass?_passes {i : ClassItem} {cs rest : List Char}
    (h : posixClass? cs = some (i, rest)) :
    i.marks = [] ∧ ∃ after, cs = ':' :: after ∧ Passes after (']' :: rest) := by
  have hword : ∀ {cs after : List Char} {c : PosixClass},
      PosixClass.ofName? (String.ofList (cs.takeWhile (· != ':'))) = some c →
      cs.dropWhile (· != ':') = ':' :: ']' :: after → Passes cs (']' :: after) := by
    intro cs after c hname hdrop
    have hordinary := PosixClass.isOrdinary_of_ofName hname
    rw [String.toList_ofList] at hordinary
    have hname : Passes cs (':' :: ']' :: after) := by
      rw [← hdrop]
      exact ⟨_, List.takeWhile_append_dropWhile.symm, hordinary⟩
    exact hname.trans ((Passes.refl _).cons (by decide))
  unfold posixClass? at h
  split at h
  case h_2 => cases h
  case h_1 after =>
    dsimp only at h
    split at h
    case h_2 => cases h
    case h_1 after' hdrop =>
      obtain ⟨c, hc, heq⟩ := Option.map_eq_some_iff.mp h
      obtain ⟨rfl, rfl⟩ := Prod.mk.inj heq
      exact ⟨rfl, after, rfl, (passes_sign after).trans (hword hc hdrop)⟩

/-- A class between colons ends at its own bracket. -/
theorem posixClass?_scan {i : ClassItem} {cs rest : List Char} (h : posixClass? cs = some (i, rest))
    (d : Nat) : (Scan.opened (d + 1)).rejects cs = (Scan.plain d).rejects rest := by
  obtain ⟨-, after, rfl, hpasses⟩ := posixClass?_passes h
  have hcolon : (Scan.opened (d + 1)).rejects (':' :: after) = (Scan.plain (d + 1)).rejects after :=
    Scan.rejects_cons rfl after
  rw [hcolon, hpasses.rejects, rejects_close]

/-- The hyphens at the front of a class are members. -/
theorem leadingHyphens_eq {fuel : Nat} {members members' : List ClassItem} {cs rest : List Char}
    (h : leadingHyphens false fuel members cs = some (members', rest)) :
    ∃ k, cs = List.replicate k '-' ++ rest ∧
      members' = List.replicate k (.literal ⟨'-', false⟩) ++ members := by
  induction fuel generalizing members cs with
  | zero => cases h
  | succ fuel ih =>
      unfold leadingHyphens at h
      simp only [skip_false] at h
      split at h
      case h_1 after =>
        obtain ⟨k, rfl, rfl⟩ := ih h
        refine ⟨k + 1, rfl, ?_⟩
        rw [List.replicate_succ', List.append_assoc]
        rfl
      case h_2 => cases h
      case h_3 =>
        simp only [Option.some.injEq, Prod.mk.injEq] at h
        obtain ⟨rfl, rfl⟩ := h
        exact ⟨0, rfl, rfl⟩

/-- They are no flags, names or ranges. -/
theorem marksOfItems_hyphens (k : Nat) :
    marksOfItems (List.replicate k (.literal ⟨'-', false⟩)) = [] := by
  induction k with
  | zero => rfl
  | succ k ih =>
      rw [List.replicate_succ, marksOfItems, ih]
      rfl

/-- A closing bracket that nothing precedes is a member. -/
def classFront (members : List ClassItem) (after : List Char) : List ClassItem × List Char :=
  match members, after with
  | [], ']' :: rest => ([.literal ⟨']', false⟩], rest)
  | _, _ => (members, after)

theorem classFront_of_ne {members : List ClassItem} {after : List Char}
    (h : members ≠ [] ∨ after.head? ≠ some ']') : classFront members after = (members, after) := by
  unfold classFront
  split
  case h_1 => simp at h
  case h_2 => rfl

/-- Where a closing bracket may still be a member, the scan skips it as the parser does. -/
theorem classFront_scan {s : Scan} {d fuel : Nat} {cs after : List Char} {members : List ClassItem}
    (h : leadingHyphens false fuel [] cs = some (members, after))
    (hs : ∀ c tail, cs = c :: tail → s.step? c = some (if c = ']' then .plain d else .next d c)) :
    marksOfItems (classFront members after).1 = [] ∧
      s.rejects cs = (Scan.plain d).rejects (classFront members after).2 := by
  obtain ⟨k, hcs, hmembers⟩ := leadingHyphens_eq h
  rw [List.append_nil] at hmembers
  cases k with
  | zero =>
      -- without hyphens the first character decides
      obtain rfl : after = cs := hcs.symm
      obtain rfl : members = [] := hmembers
      cases after with
      | nil => exact ⟨rfl, rfl⟩
      | cons c tail =>
          by_cases hc : c = ']'
          case pos =>
            subst hc
            exact ⟨rfl, Scan.rejects_cons (hs ']' tail rfl) tail⟩
          case neg =>
            have hhead : (c :: tail).head? ≠ some ']' := fun e => hc (Option.some.inj e)
            have hstep := hs c tail rfl
            rw [if_neg hc] at hstep
            rw [classFront_of_ne (.inr hhead), Scan.rejects_cons hstep, rejects_plain_cons]
            exact ⟨rfl, rfl⟩
  | succ k =>
      -- behind a hyphen a closing bracket is no member, neither for the scan nor for the parser
      have hne : members ≠ [] := by
        rw [hmembers, List.replicate_succ]
        exact List.cons_ne_nil _ _
      rw [classFront_of_ne (.inl hne), hmembers]
      refine ⟨marksOfItems_hyphens _, ?_⟩
      have hpasses : Passes (List.replicate k '-' ++ after) after := by
        refine ⟨_, rfl, fun c hc => ?_⟩
        rw [List.eq_of_mem_replicate hc]
        decide
      rw [List.replicate_succ, List.cons_append] at hcs
      rw [hcs, Scan.rejects_cons (hs '-' _ hcs)]
      exact hpasses.rejects d

/-- **Opening a class: the scan and the parser agree on what belongs to its front.** -/
theorem openClass?_scan {s s' : ClassState} {cs : List Char} (h : openClass? false s cs = some s')
    (d : Nat) :
    (∃ negated, s'.frames = .opened s.members negated :: s.frames) ∧ marksOfItems s'.members = [] ∧
      (Scan.opened d).rejects cs = (Scan.plain d).rejects s'.rest := by
  unfold openClass? at h
  simp only [skip_false, Option.bind_eq_bind, Option.pure_def] at h
  split at h
  -- behind a caret the scan has taken the caret for itself
  case h_1 tail =>
    obtain ⟨⟨members, after⟩, hhyphens, h⟩ := Option.bind_eq_some_iff.mp h
    have hcaret : (Scan.opened d).rejects ('^' :: tail) = (Scan.negated d).rejects tail :=
      Scan.rejects_cons rfl tail
    obtain ⟨hmarks, hscan⟩ := classFront_scan (s := .negated d) hhyphens fun _ _ _ => rfl
    replace h : (if (classFront members after).2.isEmpty = true then none
        else some (ClassState.mk (.opened s.members true :: s.frames) (classFront members after).1
          (classFront members after).2)) = some s' := h
    obtain rfl := Option.some.inj (Option.ite_none_left_eq_some.mp h).2
    exact ⟨⟨true, rfl⟩, hmarks, hcaret.trans hscan⟩
  case h_2 hcaret =>
    obtain ⟨⟨members, after⟩, hhyphens, h⟩ := Option.bind_eq_some_iff.mp h
    -- any other character is the first of the class for both
    have hstep : ∀ c tail, cs = c :: tail →
        (Scan.opened d).step? c = some (if c = ']' then .plain d else .next d c) := by
      rintro c tail rfl
      have hc : c ≠ '^' := by
        rintro rfl
        exact hcaret tail rfl
      show some _ = some _
      rw [if_neg hc]
    obtain ⟨hmarks, hscan⟩ := classFront_scan hhyphens hstep
    replace h : (if (classFront members after).2.isEmpty = true then none
        else some (ClassState.mk (.opened s.members false :: s.frames) (classFront members after).1
          (classFront members after).2)) = some s' := h
    obtain rfl := Option.some.inj (Option.ite_none_left_eq_some.mp h).2
    exact ⟨⟨false, rfl⟩, hmarks, hscan⟩

end PullTriage.Regex
