import TableFlow.Expr.TextOp
import TableFlow.Proofs.Result
import TableFlow.Proofs.Text.Case
import TableFlow.Proofs.Text.Trim

/-!
# Texts that are cleaned twice

An operation that cleans texts replaces every text of a value, at any depth of lists, and goes
through exactly if there are only texts, or text forms are allowed (`apply_eq_ok_iff`). What it
leaves are texts, so it goes through again.

`apply_again` says what it makes of them the second time: nothing new, unless it capitalizes a text
whose first character has several capitals as its upper case. There is nothing new the third time.
-/

namespace TableFlow

/-! ## Values by their parts -/

namespace Value

/-- What holds of all values that are no lists, and of a list if it does of the items, holds. -/
theorem nested_induction {P : Value → Prop} (plain : ∀ v, v.list? = none → P v)
    (nested : ∀ vs, (∀ v ∈ vs, P v) → P (.list vs)) : ∀ v, P v
  | .list vs => nested vs fun v _ => nested_induction plain nested v
  | .null | .bool _ | .int _ | .float _ | .str _ => plain _ rfl

mutual

/-- The values in a value that are no lists, at any depth. -/
def leaves : Value → List Value
  | .list vs => leavesList vs
  | v => [v]

/-- The values in several values that are no lists. -/
def leavesList : List Value → List Value
  | [] => []
  | v :: vs => leaves v ++ leavesList vs

end

mutual

/-- The value with a text in place of every value that is no list. -/
def mapTexts (f : List Char → List Char) : Value → Value
  | .list vs => .list (mapTextsList f vs)
  | v => .str (String.ofList (f v.chars))

/-- The values with a text in place of every value that is no list. -/
def mapTextsList (f : List Char → List Char) : List Value → List Value
  | [] => []
  | v :: vs => mapTexts f v :: mapTextsList f vs

end

variable {f g : List Char → List Char} {v : Value}

theorem leaves_of_list?_eq_none (h : v.list? = none) : v.leaves = [v] := by
  cases v <;> first | rfl | cases h

theorem mapTexts_of_list?_eq_none (h : v.list? = none) :
    v.mapTexts f = .str (String.ofList (f v.chars)) := by
  cases v <;> first | rfl | cases h

theorem leavesList_eq_flatMap (vs : List Value) : leavesList vs = vs.flatMap leaves := by
  induction vs with
  | nil => rfl
  | cons v vs ih => rw [leavesList, ih, List.flatMap_cons]

theorem forall_leaves_list {P : Value → Prop} {vs : List Value} :
    (∀ leaf ∈ (Value.list vs).leaves, P leaf) ↔ ∀ v ∈ vs, ∀ leaf ∈ v.leaves, P leaf := by
  rw [leaves, leavesList_eq_flatMap]
  simp only [List.mem_flatMap]
  exact ⟨fun h v hv leaf hleaf => h leaf ⟨v, hv, hleaf⟩, fun h leaf ⟨v, hv, hleaf⟩ =>
    h v hv leaf hleaf⟩

theorem mapTextsList_eq_map (f : List Char → List Char) (vs : List Value) :
    mapTextsList f vs = vs.map (mapTexts f) := by
  induction vs with
  | nil => rfl
  | cons v vs ih => rw [mapTextsList, ih, List.map_cons]

theorem mapTexts_list (f : List Char → List Char) (vs : List Value) :
    (Value.list vs).mapTexts f = .list (vs.map (mapTexts f)) := by
  rw [mapTexts, mapTextsList_eq_map]

theorem mapTexts_mapTexts (f g : List Char → List Char) (v : Value) :
    (v.mapTexts f).mapTexts g = v.mapTexts fun cs => g (f cs) := by
  induction v using nested_induction with
  | plain v h =>
    rw [mapTexts_of_list?_eq_none h, mapTexts_of_list?_eq_none h, mapTexts, chars,
      String.toList_ofList]
    exact fun vs => nofun
  | nested vs ih =>
    simp only [mapTexts_list, List.map_map, Value.list.injEq]
    exact List.map_congr_left ih

/-- Two maps agree on a value if they do so on the texts of its parts. -/
theorem mapTexts_eq_iff {f g : List Char → List Char} {v : Value} :
    v.mapTexts f = v.mapTexts g ↔ ∀ leaf ∈ v.leaves, f leaf.chars = g leaf.chars := by
  induction v using nested_induction with
  | plain v h =>
    rw [mapTexts_of_list?_eq_none h, mapTexts_of_list?_eq_none h, leaves_of_list?_eq_none h]
    simp [String.ofList_inj]
  | nested vs ih =>
    rw [forall_leaves_list, mapTexts_list, mapTexts_list, Value.list.injEq, List.map_inj_left]
    exact forall₂_congr ih

/-- The value is read as a text: it is one, or text forms are allowed. -/
def Readable (asText : Bool) (v : Value) : Prop := asText = true ∨ ∃ s, v = .str s

theorem asText_eq_ok_iff {asText : Bool} {v : Value} {s : String} :
    v.asText asText = .ok s ↔ v.Readable asText ∧ v.text = s := by
  cases v with
  | str t => simp [Value.asText, Readable, text, chars]
  | null | bool _ | int _ | float _ | list _ => cases asText <;> simp [Value.asText, Readable]

theorem leaves_mapTexts {f : List Char → List Char} (v : Value) :
    ∀ leaf ∈ (v.mapTexts f).leaves, ∃ s, leaf = .str s := by
  induction v using nested_induction with
  | plain v h =>
    rw [mapTexts_of_list?_eq_none h]
    exact List.forall_mem_singleton.mpr ⟨_, rfl⟩
  | nested vs ih =>
    rw [mapTexts_list, forall_leaves_list]
    exact List.forall_mem_map.mpr ih

end Value

/-! ## Operations -/

namespace TextOp

variable {op : TextOp} {asText : Bool}

/-- What the operation makes of the characters of a text, if it makes a text of them. -/
def cleaned : TextOp → List Char → List Char
  | .lower => Text.lower
  | .upper => Text.upper
  | .capitalize => Text.capitalize
  | .trim => Text.trim
  | .length | .concat _ => id

/-- The operations that clean texts. -/
inductive Cleans : TextOp → Prop
  | trim : Cleans .trim
  | lower : Cleans .lower
  | upper : Cleans .upper
  | capitalize : Cleans .capitalize

theorem Cleans.onText (hop : op.Cleans) (s : String) :
    op.onText s = .str (String.ofList (op.cleaned s.toList)) := by
  cases hop <;> rfl

theorem Cleans.apply_list (hop : op.Cleans) (asText : Bool) (vs : List Value) :
    op.apply asText (.list vs) = (op.applyAll asText vs).map .list := by
  cases hop <;>
    · rw [apply]
      · cases applyAll _ asText vs <;> rfl
      · nofun

theorem apply_of_list?_eq_none {v : Value} (h : v.list? = none) :
    op.apply asText v = op.onScalar asText v := by
  cases v <;> first | rfl | cases h

/-- A list goes through if all items do. -/
theorem applyAll_eq_ok_iff {P : Value → Prop} {g : Value → Value} {vs ws : List Value}
    (h : ∀ v ∈ vs, ∀ w, op.apply asText v = .ok w ↔ P v ∧ g v = w) :
    op.applyAll asText vs = .ok ws ↔ (∀ v ∈ vs, P v) ∧ vs.map g = ws := by
  induction vs generalizing ws with
  | nil => simp [applyAll]
  | cons v vs ih =>
    obtain ⟨hv, hvs⟩ := List.forall_mem_cons.mp h
    constructor
    · intro hok
      unfold applyAll at hok
      split at hok
      · cases hok
      · next r hr =>
        split at hok
        · cases hok
        · next rs hrs =>
          cases hok
          obtain ⟨hP, rfl⟩ := (hv r).mp hr
          obtain ⟨hPs, rfl⟩ := (ih hvs).mp hrs
          exact ⟨List.forall_mem_cons.mpr ⟨hP, hPs⟩, rfl⟩
    · rintro ⟨hP, rfl⟩
      obtain ⟨hPv, hPvs⟩ := List.forall_mem_cons.mp hP
      rw [applyAll, (hv _).mpr ⟨hPv, rfl⟩, (ih hvs).mpr ⟨hPvs, rfl⟩]
      rfl

/-- An operation that cleans texts goes through exactly if the value holds nothing but what is read
as a text, and puts a cleaned text in the place of each. -/
theorem Cleans.apply_eq_ok_iff (hop : op.Cleans) {v w : Value} :
    op.apply asText v = .ok w ↔
      (∀ leaf ∈ v.leaves, leaf.Readable asText) ∧ v.mapTexts op.cleaned = w := by
  induction v using Value.nested_induction generalizing w with
  | plain v h =>
    have hscalar : op.onScalar asText v = .ok w ↔
        ∃ s, v.asText asText = .ok s ∧ op.onText s = w := by
      unfold onScalar
      cases v.asText asText <;> simp
    rw [apply_of_list?_eq_none h, Value.leaves_of_list?_eq_none h,
      Value.mapTexts_of_list?_eq_none h, List.forall_mem_singleton, hscalar]
    simp only [Value.asText_eq_ok_iff, and_assoc, exists_and_left, exists_eq_left', hop.onText,
      Value.text, String.toList_ofList]
  | nested vs ih =>
    have hall : ∀ {ws}, op.applyAll asText vs = .ok ws ↔
        (∀ v ∈ vs, ∀ leaf ∈ v.leaves, leaf.Readable asText) ∧
          vs.map (Value.mapTexts op.cleaned) = ws :=
      applyAll_eq_ok_iff fun v hv w => ih v hv
    rw [hop.apply_list, Result.map_eq_ok_iff, Value.forall_leaves_list, Value.mapTexts_list]
    simp only [hall, and_assoc, exists_and_left, exists_eq_left']

/-- What a cleaned value holds are texts, so it is cleaned again. -/
theorem Cleans.apply_mapTexts (hop : op.Cleans) (f : List Char → List Char) (v : Value) :
    op.apply asText (v.mapTexts f) = .ok (v.mapTexts fun cs => op.cleaned (f cs)) :=
  hop.apply_eq_ok_iff.mpr
    ⟨fun leaf hleaf => .inr (v.leaves_mapTexts leaf hleaf), v.mapTexts_mapTexts f op.cleaned⟩

theorem Cleans.cleaned_cleaned_iff (hop : op.Cleans) {cs : List Char} :
    op.cleaned (op.cleaned cs) = op.cleaned cs ↔
      (op = .capitalize → ∀ c ∈ cs.head?, Text.OneCapital c) := by
  cases hop with
  | trim => simp [cleaned, Text.trim_trim]
  | lower => simp [cleaned, Text.lower_lower]
  | upper => simp [cleaned, Text.upper_upper]
  | capitalize => simp only [cleaned, Text.capitalize_capitalize_iff, true_imp_iff]

theorem Cleans.cleaned_third (hop : op.Cleans) (cs : List Char) :
    op.cleaned (op.cleaned (op.cleaned cs)) = op.cleaned (op.cleaned cs) := by
  cases hop with
  | trim => exact Text.trim_trim _
  | lower => exact Text.lower_lower _
  | upper => exact Text.upper_upper _
  | capitalize => exact Text.capitalize_third cs

/-- A cleaned value can be cleaned again. It stays as it is, unless it was capitalized and held a
text whose first character has several capitals as its upper case; and it stays so after that. -/
theorem apply_again (hop : op.Cleans) {v w : Value} (h : op.apply asText v = .ok w)
    (asText' : Bool) :
    ∃ u, op.apply asText' w = .ok u ∧ op.apply asText' u = .ok u ∧
      (u = w ↔
        (op = .capitalize → ∀ leaf ∈ v.leaves, ∀ c ∈ leaf.chars.head?, Text.OneCapital c)) := by
  obtain ⟨-, rfl⟩ := hop.apply_eq_ok_iff.mp h
  refine ⟨_, hop.apply_mapTexts _ v, ?_, ?_⟩
  · rw [hop.apply_mapTexts]
    simp only [hop.cleaned_third]
  · rw [Value.mapTexts_eq_iff]
    simp only [hop.cleaned_cleaned_iff]
    exact ⟨fun hall hcap leaf hleaf => hall leaf hleaf hcap,
      fun hall leaf hleaf hcap => hall hcap leaf hleaf⟩

/-- The upper case of ǆ is one capital, so a text that began with it stays as it is. -/
theorem names_apply_again :
    TextOp.capitalize.apply true (.list [.str "aLiCe", .list [.bool true, .str "ǆEMAL"]]) =
        .ok (.list [.str "Alice", .list [.str "True", .str "Ǆemal"]]) ∧
      TextOp.capitalize.apply false (.list [.str "Alice", .list [.str "True", .str "Ǆemal"]]) =
        .ok (.list [.str "Alice", .list [.str "True", .str "Ǆemal"]]) := by
  have hfirst :
      TextOp.capitalize.apply true (.list [.str "aLiCe", .list [.bool true, .str "ǆEMAL"]]) =
        .ok (.list [.str "Alice", .list [.str "True", .str "Ǆemal"]]) :=
    Cleans.capitalize.apply_eq_ok_iff.mpr ⟨fun _ _ => .inl rfl, rfl⟩
  obtain ⟨u, hu, -, hsame⟩ := apply_again .capitalize hfirst false
  have hone : u = .list [.str "Alice", .list [.str "True", .str "Ǆemal"]] := by
    have hfronts : Text.OneCapital 'a' ∧ Text.OneCapital 't' ∧ Text.OneCapital 'ǆ' := by
      decide +kernel
    refine hsame.mpr fun _ => ?_
    simpa [Value.leaves, Value.leavesList, Value.chars] using hfronts
  exact ⟨hfirst, hone ▸ hu⟩

/-- The upper case of ß is two capitals, of which the second one is lowered the next time. -/
theorem capitalize_not_idempotent :
    TextOp.capitalize.apply false (.str "ß") = .ok (.str "SS") ∧
      TextOp.capitalize.apply false (.str "SS") = .ok (.str "Ss") :=
  ⟨rfl, rfl⟩

end TextOp

end TableFlow
