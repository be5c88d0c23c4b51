import PullTriage.Yaml.Scalar
import PullTriage.Yaml.Token

/-!
  PullTriage.Yaml.Node: the nodes of a YAML document, and reading them from lexemes.

  A node may be anchored and referred to from elsewhere in the document. Anchors are numbered while
  the nodes are read, in the order in which the nodes begin, so that references are numbers too.

  Each reader takes a bound on how deep it may call itself. A call that reads no lexeme is followed by
  one that does, so twice the number of lexemes is enough.

  Main definition: `Node.ofTokens?`.
-/

namespace PullTriage.Yaml

open Json (Entries)

/-- What is written in front of a node: its anchor's number and its tag. -/
structure Properties where
  anchor : Option Nat
  tag : Option Tag
  deriving Repr, Inhabited

/-- A node of a document. -/
inductive Node where
  | reference (anchor : Nat)
  | scalar (properties : Properties) (plain : Bool) (text : String)
  | sequence (properties : Properties) (items : List Node)
  | mapping (properties : Properties) (entries : List (Node × Node))
  deriving Repr, Inhabited

namespace Node

/-- What stands where a node is left out. -/
def absent (properties : Properties) : Node := .scalar properties true ""

mutual

/-- How much there is of a node: one for a scalar or a reference, and two for the ends of a
collection. -/
def size : Node → Nat
  | .reference _ => 1
  | .scalar .. => 1
  | .sequence _ items => sizeItems items + 2
  | .mapping _ entries => sizeEntries entries + 2

/-- The size of the items of a sequence. -/
def sizeItems : List Node → Nat
  | [] => 0
  | n :: rest => size n + sizeItems rest

/-- The size of the entries of a mapping. -/
def sizeEntries : List (Node × Node) → Nat
  | [] => 0
  | (k, v) :: rest => size k + size v + sizeEntries rest

end

mutual

/-- The anchored nodes in reverse order of their beginnings, followed by those of `acc`. -/
def anchored (acc : List (Nat × Node)) : Node → List (Nat × Node)
  | .reference _ => acc
  | .scalar p plain text => p.anchor.toList.map (·, .scalar p plain text) ++ acc
  | .sequence p items =>
    anchoredItems (p.anchor.toList.map (·, .sequence p items) ++ acc) items
  | .mapping p entries =>
    anchoredEntries (p.anchor.toList.map (·, .mapping p entries) ++ acc) entries

/-- The anchored nodes of a sequence. -/
def anchoredItems (acc : List (Nat × Node)) : List Node → List (Nat × Node)
  | [] => acc
  | n :: rest => anchoredItems (anchored acc n) rest

/-- The anchored nodes of a mapping. -/
def anchoredEntries (acc : List (Nat × Node)) : List (Node × Node) → List (Nat × Node)
  | [] => acc
  | (k, v) :: rest => anchoredEntries (anchored (anchored acc k) v) rest

end

end Node

/-! ## §1. Tags -/

/-- The octets of an ASCII text. -/
def octets (s : String) : List Nat := s.toList.map Char.toNat

/-- What the tag handles stand for that no directive defines. -/
def standardHandles : Entries (List Nat) :=
  [("!", octets "!"), ("!!", octets "tag:yaml.org,2002:")]

/-- The octets of a tag with its handle replaced; `none` if nothing defines the handle. -/
def TagText.expand? (handles : Entries (List Nat)) (t : TagText) : Option (List Nat) :=
  if t.handle.isEmpty then some t.suffix
  else (handles.get? (String.ofList t.handle)).map (· ++ t.suffix)

/-- Whether octets encode a text. -/
def isEncoded (octets : List Nat) : Bool :=
  (String.fromUTF8? (ByteArray.mk (octets.map Nat.toUInt8).toArray)).isSome

/-- What a tag says; `none` if it says nothing, because it is the document's own and no text. -/
def Tag.ofOctets? (tag : List Nat) : Option Tag :=
  if tag = octets "tag:yaml.org,2002:null" then some .null
  else if tag = octets "tag:yaml.org,2002:bool" then some .bool
  else if tag = octets "tag:yaml.org,2002:int" then some .int
  else if tag = octets "tag:yaml.org,2002:float" then some .float
  else if tag.head? = some '!'.toNat then if isEncoded tag then some .own else none
  else some .other

/-! ## §2. Reading -/

/-- The lexemes that are left, and the anchors so far with their numbers. -/
structure Reading where
  tokens : List Token
  anchors : Entries Nat

/-- Readers of nodes. -/
abbrev Reader (α : Type) := StateT Reading Option α

namespace Reader

/-- The next lexeme. -/
def peek : Reader (Option Token) := return (← get).tokens.head?

/-- Pass over a lexeme. -/
def skip : Reader Unit := modify fun r => { r with tokens := r.tokens.tail }

/-- Whether the next lexeme is one of those given; the end of the text is none of them. -/
def nextIsIn (tokens : List Token) : Reader Bool := return (← peek).any tokens.contains

/-- Pass over a lexeme that has to come next. -/
def expect (t : Token) : Reader Unit := do
  if (← peek) = some t then skip else failure

/-- Number an anchor. The number counts the names used so far, so a name that is used again does not
raise the number of the next name. -/
def newAnchor (name : List Char) : Reader Nat :=
  modifyGet fun r => (r.anchors.length,
    { r with anchors := r.anchors.insert (String.ofList name) r.anchors.length })

/-- The number of an anchor that is referred to. -/
def anchor (name : List Char) : Reader Nat := do
  ((← get).anchors.get? (String.ofList name)).getDM failure

/-- An anchor, if one comes next. -/
def anchor? : Reader (Option Nat) := do
  match ← peek with
  | some (.anchor name) => do skip; return some (← newAnchor name)
  | _ => return none

/-- A tag, if one comes next: whether there is one, and what it says. -/
def tag? (handles : Entries (List Nat)) : Reader (Bool × Option Tag) := do
  match ← peek with
  | some (.tag text) => do
    skip
    match text.expand? handles with
    | some tag => return (true, Tag.ofOctets? tag)
    | none => failure
  | _ => return (false, none)

/-- The properties of a node, its anchor and its tag in either order, and whether there are any. -/
def properties (handles : Entries (List Nat)) : Reader (Bool × Properties) := do
  let before ← anchor?
  let (tagged, tag) ← tag? handles
  -- an anchor may stand behind the tag, but only one of them is read
  let anchor ← if before.isNone && tagged then anchor? else pure before
  return (tagged || anchor.isSome, ⟨anchor, tag⟩)

/-- A node, unless one of the lexemes given shows that it is left out. -/
def nodeUnless (stops : List Token) (node : Reader Node) : Reader Node := do
  if ← nextIsIn stops then return .absent default else node

/-- The value of a key if a colon comes next; else it is left out. -/
def valueUnless (stops : List Token) (node : Reader Node) : Reader Node := do
  if ← nextIsIn [.value] then
    skip
    nodeUnless stops node
  else return .absent default

mutual

/-- A node. `block` says whether it may be a block collection, and `inKey` whether it is part of a
block mapping, where the items of a sequence need not be indented. -/
def node (handles : Entries (List Nat)) : Nat → (block inKey : Bool) → Reader Node
  | 0, _, _ => failure
  | bound + 1, block, inKey => do
    if let some (.reference name) ← peek then
      skip
      return .reference (← anchor name)
    let (any, p) ← properties handles
    match ← peek with
    | some (.scalar plain text) => do skip; return .scalar p plain text
    | some .openSequence => do skip; return .sequence p (← flowItems handles bound true)
    | some .openMapping => do skip; return .mapping p (← flowEntries handles bound true)
    -- a collection without brackets, or nothing but properties
    | next =>
      if inKey && next == some .item then return .sequence p (← flatItems handles bound)
      else if block && next == some .sequenceStart then
        skip
        return .sequence p (← blockItems handles bound)
      else if block && next == some .mappingStart then
        skip
        return .mapping p (← blockEntries handles bound)
      else if any then return .absent p
      else failure

/-- The items of a block sequence. -/
def blockItems (handles : Entries (List Nat)) : Nat → Reader (List Node)
  | 0 => failure
  | bound + 1 => do
    if ← nextIsIn [.blockEnd] then
      skip
      return []
    expect .item
    let first ← nodeUnless [.item, .blockEnd] (node handles bound true false)
    return first :: (← blockItems handles bound)

/-- The items of a sequence that is not indented; whatever comes next ends it. -/
def flatItems (handles : Entries (List Nat)) : Nat → Reader (List Node)
  | 0 => failure
  | bound + 1 => do
    if ← nextIsIn [.item] then
      skip
      let first ← nodeUnless [.item, .key, .value, .blockEnd] (node handles bound true false)
      return first :: (← flatItems handles bound)
    else return []

/-- The entries of a block mapping. -/
def blockEntries (handles : Entries (List Nat)) : Nat → Reader (List (Node × Node))
  | 0 => failure
  | bound + 1 => do
    if ← nextIsIn [.blockEnd] then
      skip
      return []
    expect .key
    let stops := [.key, .value, .blockEnd]
    let key ← nodeUnless stops (node handles bound true true)
    let value ← valueUnless stops (node handles bound true true)
    return (key, value) :: (← blockEntries handles bound)

/-- The items of a flow sequence. An item may be a single entry, which is a mapping. -/
def flowItems (handles : Entries (List Nat)) : Nat → (atStart : Bool) → Reader (List Node)
  | 0, _ => failure
  | bound + 1, atStart => do
    if ← nextIsIn [.closeSequence] then
      skip
      return []
    if !atStart then expect .comma
    if ← nextIsIn [.closeSequence] then
      skip
      return []
    let first ←
      if ← nextIsIn [.key] then do
        skip
        let entry ← flowEntry handles bound
        pure (Node.mapping default [entry])
      else node handles bound false false
    return first :: (← flowItems handles bound false)

/-- An entry that stands in a flow sequence, behind the mark of its key. If the key is left out, the
lexeme behind the mark is passed over. -/
def flowEntry (handles : Entries (List Nat)) : Nat → Reader (Node × Node)
  | 0 => failure
  | bound + 1 => do
    let key ←
      if ← nextIsIn [.value, .comma, .closeSequence] then do
        skip
        pure (Node.absent default)
      else node handles bound false false
    let value ← valueUnless [.comma, .closeSequence] (node handles bound false false)
    return (key, value)

/-- The entries of a flow mapping. -/
def flowEntries (handles : Entries (List Nat)) :
    Nat → (atStart : Bool) → Reader (List (Node × Node))
  | 0, _ => failure
  | bound + 1, atStart => do
    if ← nextIsIn [.closeMapping] then
      skip
      return []
    if !atStart then expect .comma
    if ← nextIsIn [.closeMapping] then
      skip
      return []
    let entry ←
      if ← nextIsIn [.key] then do
        skip
        let key ← nodeUnless [.value, .comma, .closeMapping] (node handles bound false false)
        let value ← valueUnless [.comma, .closeMapping] (node handles bound false false)
        pure (key, value)
      else do
        let key ← node handles bound false false
        pure (key, Node.absent default)
    return entry :: (← flowEntries handles bound false)

end

end Reader

/-! ## §3. Documents -/

/-- The version and the tag handles that directives at the front declare, and the lexemes behind
them. A version may be declared once and a handle once. -/
def readDirectives? (version : Bool) (handles : Entries (List Nat)) :
    List Token → Option (Entries (List Nat) × List Token)
  | .version major minor :: rest =>
    if version || major ≠ 1 || (minor ≠ 1 && minor ≠ 2) then none
    else readDirectives? true handles rest
  | .tagHandle handle expansion :: rest =>
    let name := String.ofList handle
    if (handles.get? name).isSome then none
    else readDirectives? version (handles.insert name expansion) rest
  | tokens => some (handles, tokens)

/-- The root of a document and the lexemes behind it. -/
def Reader.root? (handles : Entries (List Nat)) (tokens : List Token) :
    Option (Node × List Token) :=
  (Reader.node handles (2 * tokens.length + 2) true false ⟨tokens, []⟩).map fun (n, r) =>
    (n, r.tokens)

/-- The root of the document behind its marker. It may be left out. -/
def Reader.markedRoot? (handles : Entries (List Nat)) (tokens : List Token) :
    Option (Node × List Token) :=
  match tokens with
  | [] => some (.absent default, tokens)
  | .version .. :: _ => some (.absent default, tokens)
  | .tagHandle .. :: _ => some (.absent default, tokens)
  | .documentStart :: _ => some (.absent default, tokens)
  | .documentEnd :: _ => some (.absent default, tokens)
  | _ => Reader.root? handles tokens

/-- The root of the only document of a text, or none if there is no document. A second document is
refused. Without directives a document needs no marker. -/
def Node.ofTokens? (tokens : List Token) : Option (Option Node) := do
  if tokens.isEmpty then return none
  let (declared, rest) ← readDirectives? false [] tokens
  let handles := declared ++ standardHandles
  let (root, rest) ←
    match rest with
    | .documentStart :: rest => Reader.markedRoot? handles rest
    | _ => if rest.length = tokens.length then Reader.root? handles tokens else none
  -- whatever is left would begin a second document
  if rest.all (· == .documentEnd) then return some root else none

end PullTriage.Yaml
