import PullTriage.Json.Token

/-!
  PullTriage.Json.Reader: from the lexemes of a JSON text to its document and its value.

  Reading is a pushdown automaton: a stack of the lists and maps that are open, and what may come
  next. One lexeme is one step, so the reader is a fold over the lexemes.

  Main definitions:
    * `Document.read?`: the document of a text;
    * `Value.read?`: its value, if it nests no deeper than `Document.maxDepth`.
-/

namespace PullTriage.Json
namespace Reader

/-- A list or map that is still open, its finished members in reverse. -/
inductive Open where
  | list (items : List Document)
  | map (entries : List (Option String × Document)) (key : Option String)

/-- What may come next. -/
inductive Expect where
  | value
  | itemOrClose
  | keyOrClose
  | key (entries : List (Option String × Document))
  | colon (entries : List (Option String × Document)) (key : Option String)
  | finished (value : Document)

/-- The open lists and maps, innermost first, and what may come next. -/
structure State where
  opened : List Open
  expect : Expect

/-- Begin a value. -/
def begin? (opened : List Open) : Token → Option State
  | .openList => some ⟨.list [] :: opened, .itemOrClose⟩
  | .openMap => some ⟨opened, .keyOrClose⟩
  | .text s => some ⟨opened, .finished (.string s)⟩
  | .scalar d => some ⟨opened, .finished d⟩
  | _ => none

/-- Read one lexeme. -/
def step? : State → Token → Option State
  | ⟨.list _ :: opened, .itemOrClose⟩, .closeList => some ⟨opened, .finished (.array [])⟩
  | ⟨opened, .itemOrClose⟩, t => begin? opened t
  | ⟨opened, .value⟩, t => begin? opened t
  | ⟨opened, .keyOrClose⟩, .closeMap => some ⟨opened, .finished (.object [])⟩
  | ⟨opened, .keyOrClose⟩, .text key => some ⟨opened, .colon [] key⟩
  | ⟨opened, .key entries⟩, .text key => some ⟨opened, .colon entries key⟩
  | ⟨opened, .colon entries key⟩, .colon => some ⟨.map entries key :: opened, .value⟩
  | ⟨.list items :: opened, .finished d⟩, .comma => some ⟨.list (d :: items) :: opened, .value⟩
  | ⟨.list items :: opened, .finished d⟩, .closeList =>
    some ⟨opened, .finished (.array (d :: items).reverse)⟩
  | ⟨.map entries key :: opened, .finished d⟩, .comma =>
    some ⟨opened, .key ((key, d) :: entries)⟩
  | ⟨.map entries key :: opened, .finished d⟩, .closeMap =>
    some ⟨opened, .finished (.object ((key, d) :: entries).reverse)⟩
  | _, _ => none

/-- The document of a lexeme list: one value and nothing after it. -/
def ofTokens? (tokens : List Token) : Option Document :=
  (tokens.foldlM step? ⟨[], .value⟩).bind fun
    | ⟨[], .finished d⟩ => some d
    | _ => none

end Reader

/-- The document of a JSON text. -/
def Document.read? (text : String) : Option Document :=
  (Token.scan? text).bind Reader.ofTokens?

/-- The value of a JSON text: well formed, not nested too deep, and every number finite. -/
def Value.read? (text : String) : Option Value :=
  (Document.read? text).bind fun d => if d.depth ≤ Document.maxDepth then d.toValue? else none

end PullTriage.Json
