import Mathlib.Data.List.Basic
import PullTriage.PullRequest

/-!
  PullTriage.Proofs.GivenFacts: which maps describe a pull request, and what they say of it.

  A map may give a fact under either spelling of its name.  It can be read exactly when no fact is given
  twice (a null counts) and everything given is null or of the type of its fact:

      ofFields? fields = some pr  ↔  Fits [] fields ∧ pr = ofGiven fields

  Reading goes through the entries in order, but the condition and the facts only mention what is given
  for each fact.  So the order of the entries, keys that name no fact and the choice of a spelling make no
  difference.

  Layers:
    * §1: keys, and what is given under them;
    * §2: reading one fact;
    * §3: reading all entries;
    * §4: entries that give the same.
-/

namespace PullTriage

open Json

/-! ## §1. What the entries of a map give. -/

namespace Json.Document

/-- Whether a document is a text. -/
def isText : Document → Bool
  | string (some _) => true
  | _ => false

/-- Whether a text can be read from a document; null stands for the empty one. -/
def givesText : Document → Bool
  | null => true
  | d => d.isText

/-- The text that is read from a document. -/
def text : Document → String
  | string (some s) => s
  | _ => ""

/-- Whether a list of texts can be read from a document; null stands for the empty one. -/
def givesTexts : Document → Bool
  | null => true
  | array items => items.all isText
  | _ => false

/-- The texts that are read from a document. -/
def texts : Document → List String
  | array items => items.map text
  | _ => []

end Json.Document

namespace Fact

/-- The keys that name a fact. -/
def spellings : Fact → List String
  | title => ["title"]
  | body => ["body"]
  | branch => ["branch", "head_branch"]
  | changedFiles => ["changed_files", "changedFiles"]

/-- Whether a document has the type of a fact: a text, or for the files a list of texts, or null. -/
def allows : Fact → Document → Bool
  | changedFiles, d => d.givesTexts
  | _, d => d.givesText

/-- What stands under the keys of a fact, in order. -/
def given (fact : Fact) (fields : List (String × Document)) : List Document :=
  (fields.filter fun e => e.1 ∈ fact.spellings).map Prod.snd

/-- A key stands for a fact if it is one of its spellings. -/
theorem ofKey?_eq_some_iff {key : String} {fact : Fact} :
    ofKey? key = some fact ↔ key ∈ fact.spellings := by
  constructor
  · intro h
    unfold ofKey? at h
    split_ifs at h with htitle hbody hbranch hfiles <;> cases h <;> simp_all [spellings]
  · intro h
    cases fact with
    | title | body | branch | changedFiles =>
        simp only [spellings, List.mem_cons, List.not_mem_nil, or_false] at h
        rcases h with rfl | rfl <;> rfl

/-- It stands for none if it is a spelling of none. -/
theorem ofKey?_eq_none_iff {key : String} : ofKey? key = none ↔ ∀ fact : Fact, key ∉ fact.spellings := by
  simp only [Option.eq_none_iff_forall_ne_some, ne_eq, ofKey?_eq_some_iff]

theorem given_cons (fact : Fact) (key : String) (d : Document) (rest : List (String × Document)) :
    fact.given ((key, d) :: rest)
      = if ofKey? key = some fact then d :: fact.given rest else fact.given rest := by
  unfold given
  simp only [ofKey?_eq_some_iff, List.filter_cons, decide_eq_true_eq]
  split <;> rfl

/-- What is given in two lists of entries is given in both. -/
theorem given_append (fact : Fact) (before after : List (String × Document)) :
    fact.given (before ++ after) = fact.given before ++ fact.given after := by
  unfold given
  rw [List.filter_append, List.map_append]

end Fact

/-! ## §2. Reading one fact. -/

namespace PullRequest

/-- A reader that takes neither truth values nor numbers nor maps looks at the rest of a document. -/
theorem bind_toValue? {α : Type} {read : Value → Option α} (hbool : ∀ b, read (.bool b) = none)
    (hnumber : ∀ n, read (.number n) = none) (hobject : ∀ es, read (.object es) = none) (d : Document) :
    d.toValue?.bind read = match d with
      | .null => read .null
      | .string s => s.bind fun s => read (.string s)
      | .array items => (Document.toValues? items).bind fun vs => read (.array vs)
      | _ => none := by
  cases d with
  | null => rfl
  | bool b => exact hbool b
  | string s => cases s with
    | none | some s => rfl
  | number t =>
      show (t.read?.map Value.number).bind read = none
      cases t.read? with
      | none => rfl
      | some n => exact hnumber n
  | array items =>
      show ((Document.toValues? items).map Value.array).bind read = _
      rw [Option.bind_map]
      rfl
  | object entries =>
      show ((Document.toEntries? entries).map fun es => Value.object (Entries.ofList es)).bind read = none
      cases Document.toEntries? entries with
      | none => rfl
      | some es => exact hobject _

/-- A document reads as a string exactly when it is one. -/
theorem bind_string? (d : Document) :
    d.toValue?.bind Value.string? = if d.isText then some d.text else none := by
  rw [bind_toValue? (fun _ => rfl) (fun _ => rfl) (fun _ => rfl)]
  cases d with
  | null | bool | number | object => rfl
  | string s => cases s with
    | none | some s => rfl
  | array items => exact Option.bind_fun_none _

/-- A text may also be null, and then is empty. -/
theorem bind_readText? (d : Document) :
    d.toValue?.bind readText? = if d.givesText then some d.text else none := by
  rw [bind_toValue? (fun _ => rfl) (fun _ => rfl) (fun _ => rfl)]
  cases d with
  | null | bool | number | object => rfl
  | string s => cases s with
    | none | some s => rfl
  | array items => exact Option.bind_fun_none _

/-- Documents read as strings if all of them are. -/
theorem bind_mapM_string? (items : List Document) :
    (Document.toValues? items).bind (·.mapM Value.string?)
      = if items.all Document.isText then some (items.map Document.text) else none := by
  induction items with
  | nil => rfl
  | cons d rest ih =>
      have hstep : (Document.toValues? (d :: rest)).bind (·.mapM Value.string?)
          = (d.toValue?.bind Value.string?).bind fun s =>
            ((Document.toValues? rest).bind (·.mapM Value.string?)).bind fun ss => some (s :: ss) := by
        cases hd : d.toValue? with
        | none => simp [Document.toValues?, hd]
        | some v =>
            cases hrest : Document.toValues? rest with
            | none => simp [Document.toValues?, hd, hrest]
            | some vs => simp [Document.toValues?, hd, hrest]
      rw [hstep, bind_string?, ih, List.all_cons]
      cases d.isText with
      | false => rfl
      | true => cases rest.all Document.isText with
        | false | true => rfl

/-- A list of texts may be null, too. -/
theorem bind_readTexts? (d : Document) :
    d.toValue?.bind readTexts? = if d.givesTexts then some d.texts else none := by
  rw [bind_toValue? (fun _ => rfl) (fun _ => rfl) (fun _ => rfl)]
  cases d with
  | null | bool | number | object => rfl
  | string s => exact Option.bind_fun_none _
  | array items => exact bind_mapM_string? items

/-- Set a fact to what a document says. -/
def put (pr : PullRequest) (d : Document) : Fact → PullRequest
  | .title => { pr with title := d.text }
  | .body => { pr with body := d.text }
  | .branch => { pr with branch := d.text }
  | .changedFiles => { pr with changedFiles := d.texts }

/-- What is made of a result is there when the result is. -/
theorem bind_map_of_bind {α β : Type} {read : Value → Option α} {d : Document} {good : Bool} {a : α}
    (h : d.toValue?.bind read = if good then some a else none) (f : α → β) :
    (d.toValue?.bind fun v => (read v).map f) = if good then some (f a) else none := by
  show d.toValue?.bind (Option.map f ∘ read) = _
  rw [← Option.map_bind, h]
  exact apply_ite _ _ _ _

/-- **A fact is set to what a document of its type says, and to nothing else.** -/
theorem bind_set? (pr : PullRequest) (d : Document) (fact : Fact) :
    (d.toValue?.bind fun v => pr.set? v fact) = if fact.allows d then some (pr.put d fact) else none := by
  cases fact with
  | title => exact bind_map_of_bind (bind_readText? d) fun s => { pr with title := s }
  | body => exact bind_map_of_bind (bind_readText? d) fun s => { pr with body := s }
  | branch => exact bind_map_of_bind (bind_readText? d) fun s => { pr with branch := s }
  | changedFiles => exact bind_map_of_bind (bind_readTexts? d) fun l => { pr with changedFiles := l }

/-! ## §3. Reading all entries. -/

/-- Read the entries of a map into `pr`, in which the facts `seen` are already set. -/
def readFields? (pr : PullRequest) (seen : List Fact) (fields : List (String × Document)) :
    Option PullRequest :=
  (Document.knownEntries? (fun k => (Fact.ofKey? k).isSome) (fields.map fun e => (some e.1, e.2))).bind
    (readEntries? pr seen)

/-- An entry under an unknown key is skipped. -/
theorem readFields?_cons_unknown {key : String} (h : Fact.ofKey? key = none) (pr : PullRequest)
    (seen : List Fact) (d : Document) (rest : List (String × Document)) :
    readFields? pr seen ((key, d) :: rest) = readFields? pr seen rest := by
  simp [readFields?, Document.knownEntries?, h]

/-- An entry under a known key has to be the first for its fact, and allowed. -/
theorem readFields?_cons_known {key : String} {fact : Fact} (h : Fact.ofKey? key = some fact)
    (pr : PullRequest) (seen : List Fact) (d : Document) (rest : List (String × Document)) :
    readFields? pr seen ((key, d) :: rest)
      = if fact ∉ seen ∧ fact.allows d then readFields? (pr.put d fact) (fact :: seen) rest else none := by
  have hset := bind_set? pr d fact
  simp only [readFields?, List.map_cons, Document.knownEntries?, h, Option.isSome_some, if_true]
  generalize Document.knownEntries? _ (rest.map _) = known
  -- a value that cannot be read is allowed for no fact
  cases hvalue : d.toValue? with
  | none =>
      have hnot : fact.allows d = false := by simpa [hvalue] using hset
      simp [hnot]
  | some v =>
      have hv : pr.set? v fact = if fact.allows d then some (pr.put d fact) else none := by
        rw [hvalue] at hset
        exact hset
      cases known with
      | none => simp
      | some vs =>
          show readEntries? pr seen ((key, v) :: vs) = _
          rw [readEntries?, h]
          show (if fact ∈ seen then none else
            (pr.set? v fact).bind (readEntries? · (fact :: seen) vs)) = _
          rw [hv]
          by_cases hseen : fact ∈ seen
          · simp [hseen]
          · cases fact.allows d with
            | false | true => simp [hseen]

/-- Entries that can be read when the facts `seen` are already set: no fact is given twice, and
everything given has the type of its fact. -/
def Fits (seen : List Fact) (fields : List (String × Document)) : Prop :=
  ∀ fact : Fact, (fact ∈ seen → fact.given fields = []) ∧ (fact.given fields).length ≤ 1 ∧
    ∀ d ∈ fact.given fields, fact.allows d = true

/-- Set every fact that is given to what is given for it first. -/
def fill (pr : PullRequest) (fields : List (String × Document)) : PullRequest where
  title := (((Fact.title.given fields).head?).map Document.text).getD pr.title
  body := (((Fact.body.given fields).head?).map Document.text).getD pr.body
  branch := (((Fact.branch.given fields).head?).map Document.text).getD pr.branch
  changedFiles := (((Fact.changedFiles.given fields).head?).map Document.texts).getD pr.changedFiles

/-- Entries fit if the first one does and the others do after it. -/
theorem fits_cons_known {key : String} {fact : Fact} (h : Fact.ofKey? key = some fact)
    (seen : List Fact) (d : Document) (rest : List (String × Document)) :
    Fits seen ((key, d) :: rest)
      ↔ (fact ∉ seen ∧ fact.allows d = true) ∧ Fits (fact :: seen) rest := by
  -- the entry is given for its own fact and for no other
  have hself : fact.given ((key, d) :: rest) = d :: fact.given rest := by
    rw [Fact.given_cons, if_pos h]
  have hother : ∀ other : Fact, other ≠ fact → other.given ((key, d) :: rest) = other.given rest := by
    intro other hne
    rw [Fact.given_cons, h, if_neg (fun heq => hne (Option.some.inj heq).symm)]
  constructor
  · intro hfits
    obtain ⟨hseen, hlength, hallows⟩ := hfits fact
    rw [hself] at hseen hlength hallows
    have hfresh : fact ∉ seen := fun hmem => List.cons_ne_nil d _ (hseen hmem)
    refine ⟨⟨hfresh, hallows d List.mem_cons_self⟩, fun other => ?_⟩
    by_cases hne : other = fact
    · subst hne
      have hempty : other.given rest = [] := by simpa using hlength
      simp [hempty]
    · rw [← hother other hne]
      obtain ⟨hseen', hrest⟩ := hfits other
      exact ⟨fun hmem => hseen' ((List.mem_cons.mp hmem).resolve_left hne), hrest⟩
  · rintro ⟨⟨hseen, hallows⟩, hfits⟩ other
    by_cases hne : other = fact
    · subst hne
      have hempty : other.given rest = [] := (hfits other).1 List.mem_cons_self
      rw [hself, hempty]
      simp [hseen, hallows]
    · rw [hother other hne]
      obtain ⟨hseen', hrest⟩ := hfits other
      exact ⟨fun hmem => hseen' (List.mem_cons_of_mem _ hmem), hrest⟩

/-- A fact that is not given again is filled in by its entry. -/
theorem fill_cons_known {key : String} {fact : Fact} (h : Fact.ofKey? key = some fact)
    (pr : PullRequest) (d : Document) {rest : List (String × Document)} (hrest : fact.given rest = []) :
    fill pr ((key, d) :: rest) = fill (pr.put d fact) rest := by
  cases fact <;> simp [fill, put, Fact.given_cons, h, hrest]

/-- **Entries are read exactly when they fit, and then they say what is given for each fact.** -/
theorem readFields?_eq_some_iff {pr pr' : PullRequest} {seen : List Fact}
    {fields : List (String × Document)} :
    readFields? pr seen fields = some pr' ↔ Fits seen fields ∧ pr' = fill pr fields := by
  induction fields generalizing pr seen with
  | nil =>
      have hfits : Fits seen [] := fun fact => ⟨fun _ => rfl, Nat.zero_le 1, fun d hd => nomatch hd⟩
      show some pr = some pr' ↔ _ ∧ pr' = pr
      rw [Option.some.injEq, and_iff_right hfits, eq_comm]
  | cons e rest ih =>
      obtain ⟨key, d⟩ := e
      cases h : Fact.ofKey? key with
      | none =>
          have hgiven : ∀ fact : Fact, fact.given ((key, d) :: rest) = fact.given rest := by
            intro fact
            rw [Fact.given_cons, h]
            rfl
          rw [readFields?_cons_unknown h, ih]
          simp only [Fits, fill, hgiven]
      | some fact =>
          rw [readFields?_cons_known h, Option.ite_none_right_eq_some, ih, fits_cons_known h, ← and_assoc]
          refine and_congr_right fun hfits => ?_
          rw [fill_cons_known h pr d ((hfits.2 fact).1 List.mem_cons_self)]

/-! ## §4. Entries that give the same. -/

/-- The facts of a map whose keys are texts. -/
def ofFields? (fields : List (String × Document)) : Option PullRequest :=
  ofDocument? (.object (fields.map fun e => (some e.1, e.2)))

/-- The facts that entries give; what is missing is empty. -/
def ofGiven (fields : List (String × Document)) : PullRequest := fill {} fields

/-- **Entries are read if they fit, and then to what they give.** -/
theorem ofFields?_eq_some_iff {fields : List (String × Document)} {pr : PullRequest} :
    ofFields? fields = some pr ↔ Fits [] fields ∧ pr = ofGiven fields :=
  readFields?_eq_some_iff

/-- Entries that give the same for every fact, in whatever order, are read alike. -/
theorem ofFields?_congr {fields fields' : List (String × Document)}
    (h : ∀ fact : Fact, (fact.given fields).Perm (fact.given fields')) :
    ofFields? fields = ofFields? fields' := by
  have hfits : Fits [] fields ↔ Fits [] fields' := by
    refine forall_congr' fun fact => ?_
    simp [(h fact).length_eq, (h fact).mem_iff]
  refine Option.ext fun pr => ?_
  rw [ofFields?_eq_some_iff, ofFields?_eq_some_iff, ← hfits]
  refine and_congr_right fun hread => ?_
  -- at most one document is given for a fact, so there is no order to tell apart
  have hgiven : ∀ fact : Fact, fact.given fields = fact.given fields' := by
    intro fact
    cases hfact : fact.given fields with
    | nil => exact (hfact ▸ h fact).nil_eq
    | cons d rest =>
        have hrest : rest = [] := by simpa [hfact] using (hread fact).2.1
        subst hrest
        exact (List.perm_singleton.mp (hfact ▸ h fact).symm).symm
  simp only [ofGiven, fill, hgiven]

/-- **A map describes a pull request exactly when it gives every fact at most once, under whatever
spelling, as null or in its type.  The facts are what is given, and neither the order of the entries nor
keys that name no fact nor the choice of a spelling makes a difference.** -/
theorem ofFields?_accepts (fields : List (String × Document)) :
    ((ofFields? fields).isSome = true ↔ ∀ fact : Fact, (fact.given fields).length ≤ 1 ∧
      ∀ d ∈ fact.given fields, fact.allows d = true) ∧
    (∀ pr, ofFields? fields = some pr → pr = ofGiven fields) ∧
    (∀ fields', fields.Perm fields' → ofFields? fields' = ofFields? fields) ∧
    (∀ before after key d, fields = before ++ after → (∀ fact : Fact, key ∉ fact.spellings) →
      ofFields? (before ++ (key, d) :: after) = ofFields? fields) ∧
    ∀ (fact : Fact) before after key key' d, fields = before ++ (key, d) :: after →
      key ∈ fact.spellings → key' ∈ fact.spellings →
        ofFields? (before ++ (key', d) :: after) = ofFields? fields := by
  -- reading depends on what is given for each fact, and each change keeps that
  refine ⟨?_, fun pr hread => (ofFields?_eq_some_iff.mp hread).2, ?_, ?_, ?_⟩
  · rw [Option.isSome_iff_exists]
    simp [ofFields?_eq_some_iff, Fits]
  · intro fields' hperm
    exact ofFields?_congr fun fact => ((hperm.filter _).map _).symm
  · rintro before after key d rfl hkey
    refine ofFields?_congr fun fact => ?_
    rw [Fact.given_append, Fact.given_append, Fact.given_cons, Fact.ofKey?_eq_none_iff.mpr hkey]
    exact List.Perm.refl _
  · rintro named before after key key' d rfl hkey hkey'
    refine ofFields?_congr fun fact => ?_
    rw [Fact.given_append, Fact.given_append, Fact.given_cons, Fact.given_cons,
      Fact.ofKey?_eq_some_iff.mpr hkey, Fact.ofKey?_eq_some_iff.mpr hkey']

/-- A null that counts, a number under an unknown key that is too large to be read, and both spellings of
the branch. -/
theorem ofFields?_accepts_spellings :
    let title : String × Document := ("title", .string (some "Fix"))
    let files : String × Document := ("changed_files", .array [.string (some "a.md")])
    let huge : Document := .number ⟨false, [1], [], some (false, [9, 9, 9])⟩
    let fields := [title, ("head_branch", .null), files]
    let pr : PullRequest := { title := "Fix", changedFiles := ["a.md"] }
    ofFields? fields = some pr ∧ pr = ofGiven fields ∧
      ofFields? [files, title, ("head_branch", .null)] = some pr ∧
      ofFields? [title, ("files", huge), ("head_branch", .null), files] = some pr ∧
      ofFields? [title, ("branch", .null), files] = some pr ∧
      ofFields? [title, ("branch", .null), ("head_branch", .null), files] = none := by
  intro title files huge fields pr
  obtain ⟨-, hgiven, hperm, hunknown, hspelling⟩ := ofFields?_accepts fields
  have hread : ofFields? fields = some pr := rfl
  have hfiles : ∀ fact : Fact, "files" ∉ fact.spellings := by
    intro fact
    cases fact with
    | title | body | branch | changedFiles => decide
  refine ⟨hread, hgiven pr hread, ?_, ?_, ?_, rfl⟩
  · exact (hperm _ (List.perm_append_singleton files [title, ("head_branch", .null)])).trans hread
  · exact (hunknown [title] [("head_branch", .null), files] "files" huge rfl hfiles).trans hread
  · have hbranch := hspelling .branch [title] [files] "head_branch" "branch" .null rfl
    exact (hbranch (by decide) (by decide)).trans hread

end PullRequest
end PullTriage
