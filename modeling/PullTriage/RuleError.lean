/-!
  PullTriage.RuleError: why a rule description or a part of it cannot be used.

  An error is a cause with its data. `RuleError.message` is the one place where causes become text.
-/

namespace PullTriage

/-- The formats in which rules are written. -/
inductive RuleFormat where
  | yaml
  | json
  deriving DecidableEq, Repr, Inhabited

/-- The name of a format. -/
def RuleFormat.name : RuleFormat → String
  | yaml => "YAML"
  | json => "JSON"

/-- Why a text pattern cannot be searched for. -/
inductive PatternReason where
  /-- In so many words. -/
  | words (text : String)
  /-- It is not well formed. The engine that reads patterns reports what is wrong with it. -/
  | malformed
  deriving DecidableEq, Repr, Inhabited

/-- What can be wrong with rules. -/
inductive RuleError where
  /-- A text pattern that cannot be searched for; the pattern is given without case markers. -/
  | invalidPattern (pattern : String) (reason : PatternReason)
  /-- A path glob that is not well formed. -/
  | invalidGlob (glob reason : String)
  /-- A pattern of more bytes than are accepted. -/
  | patternTooLong (length most : Nat)
  /-- A fragment of the wrong shape for its kind. -/
  | invalidConfig (kind reason : String)
  /-- A composite inside a composite. -/
  | nestingTooDeep (depth most : Nat)
  /-- A composite with more members than are accepted. -/
  | tooManyConditions (count most : Nat)
  /-- A composite without a single usable member. -/
  | emptyComposite (kind : String)
  /-- A kind that nobody registered; the registered ones are listed. -/
  | unknownKind (kind : String) (registered : List String)
  /-- Builders that start one another without end. The program does not answer then: its stack is used
  up. -/
  | stackExhausted
  /-- A second attempt to install the shared registry. -/
  | registryInitialized
  /-- A document that is not well formed. -/
  | unreadable (format : String) (reason : String)
  /-- A file that cannot be read. -/
  | noFile (path reason : String)
  deriving DecidableEq, Repr, Inhabited

/-- The wording of a reason, given what the engine reports. -/
def PatternReason.text (report : String) : PatternReason → String
  | words text => text
  | malformed => report

/-- The text of an error. What the engine reports about a pattern that is not well formed depends on
the pattern alone, and its words are the engine's own: `report` stands for them. -/
def RuleError.message (report : String → String) : RuleError → String
  | invalidPattern pattern reason =>
    "invalid pattern \"" ++ pattern ++ "\": " ++ reason.text (report pattern)
  | invalidGlob glob reason => "invalid glob \"" ++ glob ++ "\": " ++ reason
  | patternTooLong length most =>
    "pattern length is " ++ toString length ++ ", but maximum allowed is " ++ toString most
  | invalidConfig kind reason => "invalid " ++ kind ++ " config: " ++ reason
  | nestingTooDeep depth most =>
    "composite nesting depth is " ++ toString depth ++ ", but maximum allowed is " ++ toString most
  | tooManyConditions count most =>
    "composite has " ++ toString count ++ " children, but maximum allowed is " ++ toString most
  | emptyComposite kind => kind ++ " has no valid conditions"
  | unknownKind kind registered =>
    "unknown condition kind \"" ++ kind ++ "\" (registered: " ++ ", ".intercalate registered ++ ")"
  | stackExhausted => "stack overflow"
  | registryInitialized => "rule registry is already initialized"
  | unreadable format reason => format ++ " parse error: " ++ reason
  | noFile path reason => "failed to read \"" ++ path ++ "\": " ++ reason

/-- The longest pattern that is accepted, in bytes. -/
def maxPatternLength : Nat := 4096

end PullTriage
