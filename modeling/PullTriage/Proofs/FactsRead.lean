import PullTriage.Proofs.ChangedFiles
import PullTriage.Proofs.FirstMatch

/-!
  PullTriage.Proofs.FactsRead: a label is decided by the facts that its rules read.

  `Condition.reads` says which facts stand in a tree of conditions.  A built-in tree gives two pull
  requests that agree on these the same trace, so a label gives them the same result, whatever they say
  of the other facts:

      pr.DifferOnlyIn fact pr'   →   l.evaluate pr = l.evaluate pr'          (`l` does not read `fact`)

  Layers:
    * §1: facts, and the facts that are read;
    * §2: traces of conditions and of groups;
    * §3: labels that the built-in kinds compile.
-/

namespace PullTriage

open Json

/-! ## §1. Facts that are read. -/

/-- The fact that is the text of a field. -/
def TextField.fact : TextField → Fact
  | branch => .branch
  | title => .title
  | body => .body

/-- The fact is the same in two pull requests. -/
def Fact.SameIn (pr pr' : PullRequest) : Fact → Prop
  | title => pr.title = pr'.title
  | body => pr.body = pr'.body
  | branch => pr.branch = pr'.branch
  | changedFiles => pr.changedFiles = pr'.changedFiles

/-- Two pull requests that have every other fact in common. -/
def PullRequest.DifferOnlyIn (fact : Fact) (pr pr' : PullRequest) : Prop :=
  ∀ other : Fact, other ≠ fact → other.SameIn pr pr'

namespace Condition

mutual

/-- Whether a condition reads a fact: a leaf of its kind stands in it, or an `or` with patterns for it.
What a kind from outside reads is not said. -/
def reads (fact : Fact) : Condition → Bool
  | text f _ => f.fact == fact
  | files _ => fact == .changedFiles
  | all children => anyReads fact children
  | any children => anyReads fact children
  | or m => m.toList.any fun e => e.1.fact == fact
  | custom _ => false

/-- Whether some condition of a list reads a fact. -/
def anyReads (fact : Fact) : List Condition → Bool
  | [] => false
  | c :: rest => reads fact c || anyReads fact rest

end

end Condition

/-- Whether a condition in some group of the label reads a fact. -/
def LabelRules.reads (fact : Fact) (l : LabelRules) : Bool :=
  l.groups.any fun g => Condition.anyReads fact g.conditions

/-! ## §2. Traces. -/

section Agreement

variable {pr pr' : PullRequest}

/-- A text field reads one fact, so two pull requests that agree in it give it the same text. -/
theorem TextField.read_of_sameIn {f : TextField} (h : f.fact.SameIn pr pr') :
    f.read pr = f.read pr' := by
  cases f with
  | branch | title | body => exact h

theorem traceText_of_sameIn {f : TextField} (h : f.fact.SameIn pr pr') (ps : TextPatterns) :
    Condition.traceText pr f ps = Condition.traceText pr' f ps := by
  unfold Condition.traceText
  rw [TextField.read_of_sameIn h]

/-- An `or` looks only at the fields that it has patterns for. -/
theorem trace_or_congr {m : FieldPatterns}
    (h : ∀ fact, (Condition.or m).reads fact = true → fact.SameIn pr pr') :
    (Condition.or m).trace pr = (Condition.or m).trace pr' := by
  have htexts : (m.toList.map fun e => Condition.traceText pr e.1 e.2)
      = m.toList.map fun e => Condition.traceText pr' e.1 e.2 := by
    refine List.map_congr_left fun e he => traceText_of_sameIn (h e.1.fact ?_) e.2
    exact List.any_eq_true.mpr ⟨e, he, beq_self_eq_true _⟩
  unfold Condition.trace
  dsimp only
  rw [htexts]

mutual

/-- **The trace of a condition depends on the facts that it reads only.** -/
theorem trace_congr : ∀ c : Condition, c.IsBuiltIn →
    (∀ fact, c.reads fact = true → fact.SameIn pr pr') → c.trace pr = c.trace pr'
  | .text f ps, _, h => traceText_of_sameIn (h f.fact (beq_self_eq_true _)) ps
  | .files gs, _, h => by
      have hfiles : pr.changedFiles = pr'.changedFiles := h .changedFiles rfl
      unfold Condition.trace
      rw [hfiles]
  | .or _, _, h => trace_or_congr h
  | .custom k, hc, _ => absurd .root (hc k)
  | .all cs, hc, h => by
      unfold Condition.trace
      rw [traces_congr cs (fun c hmem k hk => hc k (.all hmem hk)) h]
  | .any cs, hc, h => by
      unfold Condition.trace
      rw [traces_congr cs (fun c hmem k hk => hc k (.any hmem hk)) h]

theorem traces_congr : ∀ cs : List Condition, (∀ c ∈ cs, c.IsBuiltIn) →
    (∀ fact, Condition.anyReads fact cs = true → fact.SameIn pr pr') →
      Condition.traces pr cs = Condition.traces pr' cs
  | [], _, _ => rfl
  | c :: cs, hcs, h => by
      obtain ⟨hc, hcs⟩ := List.forall_mem_cons.mp hcs
      unfold Condition.traces
      rw [trace_congr c hc fun fact hfact => h fact (Bool.or_eq_true_iff.mpr (.inl hfact)),
        traces_congr cs hcs fun fact hfact => h fact (Bool.or_eq_true_iff.mpr (.inr hfact))]

end

theorem RuleGroup.trace_congr : ∀ {g : RuleGroup},
    Condition.traces pr g.conditions = Condition.traces pr' g.conditions → g.trace pr = g.trace pr'
  | ⟨[], hne⟩, _ => absurd rfl hne
  | ⟨[_], _⟩, h => List.head_eq_of_cons_eq h
  | ⟨_ :: _ :: _, _⟩, h => congrArg Condition.traceAll h

/-- Groups with the same traces give the same result: whether a group holds can be seen in its trace. -/
theorem evaluateFrom_congr (label : String) {gs : List RuleGroup}
    (h : ∀ g ∈ gs, g.trace pr = g.trace pr') (index : Nat) :
    evaluateFrom label pr index gs = evaluateFrom label pr' index gs := by
  induction gs generalizing index with
  | nil => rfl
  | cons g gs ih =>
      obtain ⟨hg, hgs⟩ := List.forall_mem_cons.mp h
      have hholds : g.holds pr = g.holds pr' := by
        rw [← g.matched_trace pr, hg, g.matched_trace pr']
      rw [evaluateFrom, evaluateFrom, hholds, hg, ih hgs]

/-- Two pull requests that agree on the facts that a built-in label reads get the same result. -/
theorem LabelRules.evaluate_congr {l : LabelRules}
    (hbuilt : ∀ g ∈ l.groups, ∀ c ∈ g.conditions, c.IsBuiltIn)
    (h : ∀ fact, l.reads fact = true → fact.SameIn pr pr') : l.evaluate pr = l.evaluate pr' := by
  refine evaluateFrom_congr l.name (fun g hg => ?_) 0
  refine RuleGroup.trace_congr (traces_congr g.conditions (hbuilt g hg) fun fact hfact => ?_)
  exact h fact (List.any_eq_true.mpr ⟨g, hg, hfact⟩)

end Agreement

/-! ## §3. Compiled labels. -/

/-- **A fact that a label does not read changes nothing of its result: not whether it is matched, not the
files, not the group that wins and not its trace.** -/
theorem evaluate_eq_of_not_read {r : Registry} (hr : r.BuiltIn) {d : RuleDescription} {l : LabelRules}
    (hl : l ∈ (r.compile d).labels) {fact : Fact} (hreads : l.reads fact = false)
    {pr pr' : PullRequest} (h : pr.DifferOnlyIn fact pr') : l.evaluate pr = l.evaluate pr' := by
  have hbuilt : ∀ g ∈ l.groups, ∀ c ∈ g.conditions, c.IsBuiltIn := by
    intro g hg
    obtain ⟨rules, -, hgroups, -⟩ := Registry.mem_compile.mp hl
    rw [← hgroups] at hg
    exact hr.isBuiltIn_of_mem_compileGroups hg
  refine LabelRules.evaluate_congr hbuilt fun other hother => ?_
  refine h other fun heq => ?_
  rw [heq, hreads] at hother
  cases hother

/-- Kinds under names of their own.  The label reads the title and the branch in an `or` and the files
below an `any`; what would have read the body is left out, as its pattern cannot be compiled. -/
theorem evaluate_eq_of_not_read_body :
    let r := (((Registry.empty.register "some" BuiltInKind.any.builder).register "words"
      BuiltInKind.or.builder).register "paths" BuiltInKind.files.builder).register "text"
      (BuiltInKind.text .body).builder
    let d : RuleDescription := ⟨[("docs", .array [.object [
      ("words", .object [("title", .string "doc"), ("head-branch", .ofStrings ["docs/"])]),
      ("text", .string "("), ("some", .array [.object [("paths", .string "*.md")]])]])]⟩
    let pr (body : String) : PullRequest :=
      { title := "Update docs", body := body, changedFiles := ["a.rs", "b.md"] }
    r.BuiltIn ∧ (pr "").DifferOnlyIn .body (pr "old") ∧
      (∀ l ∈ (r.compile d).labels, l.reads .body = false ∧ l.evaluate (pr "") = l.evaluate (pr "old")) ∧
      (r.compile d).labels.map (fun l => (l.evaluate (pr "")).matchedFiles) = [["b.md"]] ∧
      (r.compile d).labels.map (fun l => [Fact.title, .branch, .changedFiles].filter l.reads)
        = [[.title, .branch, .changedFiles]] := by
  intro r d pr
  have hr : r.BuiltIn := (((Registry.builtIn_empty.register "some" .any).register "words" .or).register
    "paths" .files).register "text" (.text .body)
  have hpr : (pr "").DifferOnlyIn .body (pr "old") := by
    intro other hother
    cases other with
    | body => exact absurd rfl hother
    | title | branch | changedFiles => rfl
  have hreads : ∀ l ∈ (r.compile d).labels, l.reads .body = false := by decide +kernel
  refine ⟨hr, hpr, fun l hl => ⟨hreads l hl, ?_⟩, by decide +kernel, by decide +kernel⟩
  exact evaluate_eq_of_not_read hr hl (hreads l hl) hpr

end PullTriage
