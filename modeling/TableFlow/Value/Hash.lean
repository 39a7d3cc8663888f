import TableFlow.Text.Utf8
import TableFlow.Value.Order

/-!
# Values as keys of hashed collections

`Value.hashWrites` is the data that a value feeds to a hasher. A `HashIndex` is a map from values
in which keys are found by their hashes: it keeps the hash of every key, and a search compares
keys only where the hashes send it. What becomes of the data and which hashes a search takes for
its own are up to the `Hashing`.
-/

namespace TableFlow

/-- One piece of data for a hasher. -/
inductive HashWrite where
  | byte (b : UInt8)
  | int (i : Int64)
  | word (w : UInt64)
  | length (n : Nat)
  | bytes (bs : List UInt8)
deriving DecidableEq

namespace Value

mutual

/-- What the contents of a value feed to a hasher. A text ends with a byte that is in no text,
and a list starts with its length. -/
def contentWrites : Value → List HashWrite
  | .null => []
  | .bool b => [.byte (if b then 1 else 0)]
  | .int i => [.int i]
  | .float x => [.word x.bits]
  | .str s => [.bytes (Utf8.ofString s), .byte 0xFF]
  | .list vs => .length vs.length :: hashWritesAll vs

/-- What values feed to a hasher one after the other, each its kind and then its contents. -/
def hashWritesAll : List Value → List HashWrite
  | [] => []
  | v :: vs => .byte (UInt8.ofNat v.rank) :: contentWrites v ++ hashWritesAll vs

end

/-- What a value feeds to a hasher. -/
def hashWrites (v : Value) : List HashWrite := .byte (UInt8.ofNat v.rank) :: v.contentWrites

end Value

/-- How a hashed collection looks for keys. -/
structure Hashing where
  /-- The hash of what has been fed. -/
  hash : List HashWrite → UInt64
  /-- A search for the first hash looks at entries with the second one. -/
  meets : UInt64 → UInt64 → Bool
  meets_self (h : UInt64) : meets h h = true

namespace Hashing

variable (hashing : Hashing)

/-- The hash of a value. -/
def hashOf (key : Value) : UInt64 := hashing.hash key.hashWrites

end Hashing

/-- An entry of a hashed collection. -/
structure HashEntry (α : Type) where
  hash : UInt64
  key : Value
  value : α

namespace HashEntry

variable {α : Type} (hashing : Hashing)

/-- A new entry. -/
def ofKey (key : Value) (value : α) : HashEntry α := ⟨hashing.hashOf key, key, value⟩

/-- The entry carries the hash of its key. -/
def Sound (e : HashEntry α) : Prop := e.hash = hashing.hashOf e.key

/-- A search for a key ends at the entry: the hashes send it there, and the keys compare as
equal. -/
def isFoundBy (key : Value) (e : HashEntry α) : Bool :=
  hashing.meets (hashing.hashOf key) e.hash && key.cmp e.key == .eq

/-- Changes the value of a key, or adds the key at the end. -/
def upsert (key : Value) (new : α) (change : α → α) : List (HashEntry α) → List (HashEntry α)
  | [] => [ofKey hashing key new]
  | e :: rest =>
    if e.isFoundBy hashing key then { e with value := change e.value } :: rest
    else e :: upsert key new change rest

theorem sound_upsert {key : Value} {new : α} {change : α → α} {entries : List (HashEntry α)}
    (h : ∀ e ∈ entries, e.Sound hashing) :
    ∀ e ∈ upsert hashing key new change entries, e.Sound hashing := by
  induction entries with
  | nil =>
    intro e he
    rw [List.mem_singleton.mp he]
    rfl
  | cons first rest ih =>
    have hrest := ih fun e he => h e (List.mem_cons_of_mem first he)
    have hfirst : first.Sound hashing := h first List.mem_cons_self
    intro e he
    rw [upsert] at he
    split at he
    · rcases List.mem_cons.mp he with rfl | he
      · exact hfirst
      · exact h e (List.mem_cons_of_mem first he)
    · rcases List.mem_cons.mp he with rfl | he
      · exact hfirst
      · exact hrest e he

end HashEntry

/-- A map from values in the order in which its keys were added. -/
structure HashIndex (hashing : Hashing) (α : Type) where
  entries : List (HashEntry α)
  sound : ∀ e ∈ entries, e.Sound hashing

namespace HashIndex

variable {hashing : Hashing} {α : Type}

def empty : HashIndex hashing α := ⟨[], fun _ he => absurd he List.not_mem_nil⟩

/-- The value of a key. -/
def find? (index : HashIndex hashing α) (key : Value) : Option α :=
  (index.entries.find? (·.isFoundBy hashing key)).map (·.value)

/-- Changes the value of a key, or adds the key at the end. -/
def upsert (index : HashIndex hashing α) (key : Value) (new : α) (change : α → α) :
    HashIndex hashing α :=
  ⟨HashEntry.upsert hashing key new change index.entries, HashEntry.sound_upsert hashing index.sound⟩

/-- The keys with their values. -/
def toList (index : HashIndex hashing α) : List (Value × α) :=
  index.entries.map fun e => (e.key, e.value)

/-- The numbers of times that keys were added. -/
def counting (hashing : Hashing) (keys : List Value) : HashIndex hashing Nat :=
  keys.foldl (fun index key => index.upsert key 1 (· + 1)) empty

end HashIndex

end TableFlow
