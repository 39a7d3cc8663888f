import TableFlow.Proofs.Json.Depth
import TableFlow.Value.Json

/-!
# Values in JSON documents

A value without doubles is written as a document whose numbers are whole and fit in 64
bits, and the document is decoded to the value.

* `Value.FloatFree` excludes doubles at any depth;
* `Value.toJson_plain` and `Value.ofJson?_toJson` are by induction on the value;
* `Value.parse?_jsonText_eq_self_iff` is the whole way to the text and back, which only the
  nesting of lists can block.
-/

namespace TableFlow

namespace Value

mutual

/-- There is no double in the value. -/
def FloatFree : Value → Prop
  | .float _ => False
  | .list vs => FloatFreeList vs
  | .null | .bool _ | .int _ | .str _ => True

def FloatFreeList : List Value → Prop
  | [] => True
  | v :: vs => FloatFree v ∧ FloatFreeList vs

end

mutual

theorem toJson_plain : ∀ {v : Value}, v.FloatFree → v.toJson.Plain
  | .null, _ => trivial
  | .bool _, _ => trivial
  | .int i, _ => ⟨i.toInt, JsonNumber.inWord_toInt i, rfl⟩
  | .str _, _ => trivial
  | .list _, hfree => toJsonList_plain hfree

theorem toJsonList_plain :
    ∀ {vs : List Value}, FloatFreeList vs → Json.PlainItems (toJsonList vs)
  | [], _ => trivial
  | _ :: _, hfree => ⟨toJson_plain hfree.1, toJsonList_plain hfree.2⟩

end

/-- A written whole number is decoded to the integer of its bits. -/
theorem ofNumber?_ofInt (w : Int64) : ofNumber? (Digits.ofInt w.toInt) = some (.int w) := by
  rw [ofNumber?, JsonNumber.ofText?_ofInt (JsonNumber.inWord_toInt w)]
  simp only [int64?_toInt]
  rfl

mutual

theorem ofJson?_toJson : ∀ {v : Value}, v.FloatFree → ofJson? v.toJson = some v
  | .null, _ => rfl
  | .bool _, _ => rfl
  | .int i, _ => ofNumber?_ofInt i
  | .str _, _ => rfl
  | .list vs, hfree => by
    rw [toJson, ofJson?, ofJsonList?_toJsonList hfree]
    rfl

theorem ofJsonList?_toJsonList :
    ∀ {vs : List Value}, FloatFreeList vs → ofJsonList? (toJsonList vs) = some vs
  | [], _ => rfl
  | v :: vs, hfree => by
    rw [toJsonList, ofJsonList?, ofJson?_toJson hfree.1, ofJsonList?_toJsonList hfree.2]
    rfl

end

/-! ## Nesting -/

mutual

/-- How deep lists are nested. -/
def nesting : Value → Nat
  | .list vs => nestingList vs + 1
  | .null | .bool _ | .int _ | .float _ | .str _ => 0

def nestingList : List Value → Nat
  | [] => 0
  | v :: vs => max (nesting v) (nestingList vs)

end

mutual

/-- The only brackets of the document are those of the lists. -/
theorem depth_toJson : ∀ v : Value, v.toJson.depth = v.nesting
  | .null => rfl
  | .bool _ => rfl
  | .int _ => rfl
  | .float x => by
    rw [toJson, Json.ofDouble]
    split <;> rfl
  | .str _ => rfl
  | .list vs => congrArg (· + 1) (depthItems_toJsonList vs)

theorem depthItems_toJsonList : ∀ vs : List Value, Json.depthItems (toJsonList vs) = nestingList vs
  | [] => rfl
  | v :: vs => by
    rw [toJsonList, Json.depthItems, nestingList, depth_toJson v, depthItems_toJsonList vs]

end

mutual

/-- A decoded value is nested as deep as its document. -/
theorem nesting_of_ofJson? : ∀ {j : Json} {v : Value}, ofJson? j = some v → v.nesting = j.depth
  | .null, _, h => by
    cases h
    rfl
  | .bool _, _, h => by
    cases h
    rfl
  | .num text, v, h => by
    rw [ofJson?, ofNumber?] at h
    split at h
    · rename_i i _
      cases h
      cases int64? i <;> rfl
    · cases h
      rfl
    · cases h
  | .str _, _, h => by
    cases h
    rfl
  | .arr items, _, h => by
    obtain ⟨vs, hitems, rfl⟩ := Option.map_eq_some_iff.mp h
    rw [nesting, Json.depth, nestingList_of_ofJsonList? hitems]
  | .obj _, _, h => by
    cases h

theorem nestingList_of_ofJsonList? : ∀ {js : List Json} {vs : List Value},
    ofJsonList? js = some vs → nestingList vs = Json.depthItems js
  | [], _, h => by
    cases h
    rfl
  | j :: js, _, h => by
    rw [ofJsonList?] at h
    split at h
    · cases h
    · rename_i v hfirst
      obtain ⟨vs, hrest, rfl⟩ := Option.map_eq_some_iff.mp h
      rw [nestingList, Json.depthItems, nesting_of_ofJson? hfirst, nestingList_of_ofJsonList? hrest]

end

/-- No value is read whose lists are nested deeper than the reader goes. -/
theorem nesting_le_of_parse? {s : String} {v : Value} (h : parse? s = some v) :
    v.nesting ≤ Json.maxDepth := by
  rw [parse?] at h
  split at h
  · rename_i j hread
    rw [nesting_of_ofJson? h]
    exact Json.depth_le_of_parse? hread
  · cases h

/-! ## The whole way -/

/-- A value without doubles is read back from its text as the value that it was, if and only if its
lists are not nested deeper than the reader goes. -/
theorem parse?_jsonText_eq_self_iff {v : Value} (hfree : v.FloatFree) :
    parse? v.jsonText = some v ↔ v.nesting ≤ Json.maxDepth := by
  constructor
  · intro hread
    exact nesting_le_of_parse? hread
  · intro hdepth
    have htext : v.jsonText.toList = v.toJson.compact := String.toList_ofList
    rw [parse?, htext, Json.compact,
      Json.parse?_write .compact (toJson_plain hfree) (depth_toJson v ▸ hdepth)]
    exact ofJson?_toJson hfree

/-- A value of every kind but doubles: both ends of the integers, characters that are escaped and
characters that are not, empty and nested lists. -/
def corners : Value :=
  .list [.null, .bool true, .bool false, .int Int64.minValue, .int Int64.maxValue, .int (-1),
    .str "", .str "say \"a\\b\" \n\u0000\u001f\u007f é 😀", .str "null", .str "12",
    .list [], .list [.list [.str "[1]", .null], .list []]]

theorem corners_parse?_jsonText :
    corners.FloatFree ∧ corners.nesting ≤ Json.maxDepth ∧
      parse? corners.jsonText = some corners := by
  have hfree : corners.FloatFree := by simp [corners, FloatFree, FloatFreeList]
  have hdepth : corners.nesting ≤ Json.maxDepth := by decide
  exact ⟨hfree, hdepth, (parse?_jsonText_eq_self_iff hfree).mpr hdepth⟩

end Value

end TableFlow
