import TableFlow.Json.Reader

/-!
# Records in JSON documents

A record is written as an object, or as an array of its fields in a fixed order.
`Json.record?` brings both to a list of named fields; the functions of
`Json.Fields` then decode one field each, as its absence allows.
-/

namespace TableFlow.Json

/-- The fields of a record that are present, by name. -/
abbrev Fields := List (String × Json)

/-- The fields of a record with these names: the members of an object, other members
aside, or the items of an array in the order of the names. A name must not be
repeated, and an array must not be longer than the names. -/
def record? (names : List String) : Json → Option Fields
  | .obj members =>
    let known := members.filter fun (name, _) => names.contains name
    if (known.map Prod.fst).Nodup then some known else none
  | .arr items => if items.length ≤ names.length then some (names.zip items) else none
  | _ => none

/-- The tag of a tagged record and the record without it: the only member with this
name, or the first item. -/
def tagged? (tag : String) : Json → Option (Json × Json)
  | .obj members =>
    match members.filter fun (name, _) => name == tag with
    | [(_, j)] => some (j, .obj (members.filter fun (name, _) => name != tag))
    | _ => none
  | .arr (j :: items) => some (j, .arr items)
  | _ => none

/-- What may be `null`. -/
def nullable? {α : Type} (decode : Json → Option α) : Json → Option (Option α)
  | .null => some none
  | j => (decode j).map some

namespace Fields

variable {α : Type}

/-- A field that has to be there. -/
def required (fields : Fields) (name : String) (decode : Json → Option α) : Option α :=
  match fields.lookup name with
  | some j => decode j
  | none => none

/-- A field that stands for a default if it is absent. -/
def defaulted (fields : Fields) (name : String) (decode : Json → Option α) (default : α) :
    Option α :=
  match fields.lookup name with
  | some j => decode j
  | none => some default

/-- A field that may be absent or `null`. -/
def optional (fields : Fields) (name : String) (decode : Json → Option α) :
    Option (Option α) :=
  match fields.lookup name with
  | some j => nullable? decode j
  | none => some none

end Fields

/-! ## Decoding fields -/

def string? : Json → Option String
  | .str s => some s
  | _ => none

def bool? : Json → Option Bool
  | .bool b => some b
  | _ => none

/-- A whole number of 64 bits without a sign. -/
def word? : Json → Option UInt64
  | .num text =>
    match JsonNumber.ofText? text with
    | some (.integer i) => if 0 ≤ i then some (UInt64.ofNat i.toNat) else none
    | _ => none
  | _ => none

/-- An array whose items are all decoded. -/
def array? {α : Type} (decode : Json → Option α) : Json → Option (List α)
  | .arr items => items.mapM decode
  | _ => none

/-- The members of an object with all their values decoded. -/
def entries? {α : Type} (decode : Json → Option α) : Json → Option (List (String × α))
  | .obj members => members.mapM fun (name, j) => (decode j).map fun a => (name, a)
  | _ => none

/-! ## Numbers within a document -/

mutual

/-- Every number of the document is in range. -/
def inRange : Json → Bool
  | .num text => (JsonNumber.ofText? text).isSome
  | .arr items => inRangeItems items
  | .obj members => inRangeMembers members
  | _ => true

def inRangeItems : List Json → Bool
  | [] => true
  | j :: js => inRange j && inRangeItems js

def inRangeMembers : List (String × Json) → Bool
  | [] => true
  | (_, j) :: ms => inRange j && inRangeMembers ms

end

end TableFlow.Json
