import PullTriage.Decimal.Binary64

/-!
  PullTriage.Json.Value: JSON values whose objects keep the order of their keys.

  Rule documents are maps whose order matters (it decides the order of labels, conditions and
  traces), so an object is a list of entries. `Entries.insert` is the one way entries are added: a
  key that is present keeps its place and takes the new value, a new key goes to the end.
-/

namespace PullTriage.Json

/-- A number: an integer that fits a signed or unsigned 64-bit word, or else a finite double. -/
inductive Number where
  | int (value : Int)
  | float (value : Decimal.Binary64)
  deriving DecidableEq, Repr, Inhabited

/-- A JSON value; the entries of an object are in document order. -/
inductive Value where
  | null
  | bool (value : Bool)
  | number (value : Number)
  | string (value : String)
  | array (items : List Value)
  | object (entries : List (String × Value))
  deriving Repr, Inhabited

/-! ## §1. Entries -/

/-- Ordered entries of an object. -/
abbrev Entries (α : Type) := List (String × α)

namespace Entries

variable {α : Type}

/-- Set `key`: in its present place if it has one, else at the end. -/
def insert : Entries α → String → α → Entries α
  | [], key, value => [(key, value)]
  | (k, v) :: rest, key, value =>
    if k = key then (k, value) :: rest else (k, v) :: insert rest key value

/-- Insert pairs one after the other: each key stands where it first occurs, with the value it has
last. -/
def ofList (pairs : List (String × α)) : Entries α :=
  pairs.foldl (fun acc p => insert acc p.1 p.2) []

/-- The value under `key`. -/
def get? (entries : Entries α) (key : String) : Option α :=
  (entries.find? fun p => p.1 == key).map Prod.snd

/-- The keys, in order. -/
def keys (entries : Entries α) : List String := entries.map Prod.fst

theorem keys_insert (entries : Entries α) (key : String) (value : α) :
    (insert entries key value).keys =
      if key ∈ keys entries then keys entries else keys entries ++ [key] := by
  induction entries with
  | nil => simp [insert, keys]
  | cons p rest ih =>
    obtain ⟨k, v⟩ := p
    by_cases h : k = key
    · simp [insert, keys, h]
    · have h' : key ≠ k := fun e => h e.symm
      simp only [keys] at ih
      by_cases hm : key ∈ rest.map Prod.fst
      · simp [insert, keys, h, h', hm, ih]
      · simp [insert, keys, h, h', hm, ih]

end Entries

/-! ## §2. Views -/

namespace Value

/-- The text of a string. -/
def string? : Value → Option String
  | .string s => some s
  | _ => none

/-- The items of a list. -/
def array? : Value → Option (List Value)
  | .array items => some items
  | _ => none

/-- The entries of a map. -/
def object? : Value → Option (Entries Value)
  | .object entries => some entries
  | _ => none

/-- A list of strings. -/
def ofStrings (items : List String) : Value := .array (items.map .string)

/-- A count. -/
def ofNat (n : Nat) : Value := .number (.int n)

/-- The value under a key of a map; `none` for anything else. -/
def get? (v : Value) (key : String) : Option Value := v.object?.bind (Entries.get? · key)

end Value
end PullTriage.Json
