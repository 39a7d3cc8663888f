import Mathlib.Data.List.Nodup
import TableFlow.Frame

/-!
# Kinds of columns

A kind of columns stands above another one if its columns can hold the cells of the other, and
`ColumnKind.merge` is the least kind above two. So the kind of a column is the least one that holds
all its cells (`ColumnKind.holds_ofValues_iff`), in whatever order they come.

* `ColumnKind.settle` is a cell as it is read back from a column of a kind;
* `ColumnKind.ofValues_settled` and `FrameColumn.ofValues_settled` say that settled cells are
  stored as they were stored before;
* `Settled` says what the cells of a column are read back as, and `ColumnKind.settled_ofValues`
  that they are.
-/

namespace TableFlow

namespace ColumnKind

/-! ## The least kind above the cells -/

variable {k l m : ColumnKind} {v : Value} {vs ws : List Value}

theorem merge_comm (k l : ColumnKind) : k.merge l = l.merge k := by
  cases k <;> cases l <;> rfl

/-- Columns of the first kind can hold the cells of the second one. -/
def Holds (k l : ColumnKind) : Prop := k.merge l = k

instance : Decidable (k.Holds l) := inferInstanceAs (Decidable (_ = _))

theorem holds_self (k : ColumnKind) : k.Holds k := by
  cases k <;> rfl

theorem holds_empty (k : ColumnKind) : k.Holds .empty := by
  cases k <;> rfl

theorem Holds.antisymm (h : k.Holds l) (h' : l.Holds k) : k = l := by
  have hmerge : k.merge l = k := h
  rw [← hmerge, merge_comm, h']

theorem holds_merge_iff : k.Holds (l.merge m) ↔ k.Holds l ∧ k.Holds m := by
  cases k <;> cases l <;> cases m <;> decide

/-- A kind stands above null cells, above itself and, as the kind of integers among doubles or as
that of texts, above others. -/
theorem holds_iff : k.Holds l ↔ l = .empty ∨ l = k ∨ k = .text ∨ (k = .float ∧ l = .int) := by
  cases k <;> cases l <;> decide

theorem ofValue_eq_empty_iff : ofValue v = .empty ↔ v = .null := by
  cases v <;> simp [ofValue]

/-- A kind holds the cells of a column if it holds each of them. -/
theorem holds_ofValues_iff : k.Holds (ofValues vs) ↔ ∀ v ∈ vs, k.Holds (ofValue v) := by
  -- the fold starts at the least kind, but goes on from any other one
  have hfold : ∀ start : ColumnKind,
      k.Holds (vs.foldl (fun l v => l.merge (ofValue v)) start) ↔
        k.Holds start ∧ ∀ v ∈ vs, k.Holds (ofValue v) := by
    induction vs with
    | nil => simp
    | cons v vs ih =>
      intro start
      rw [List.foldl_cons, ih, holds_merge_iff, List.forall_mem_cons, and_assoc]
  rw [ofValues, hfold]
  exact and_iff_right (holds_empty k)

theorem holds_of_mem (h : v ∈ vs) : (ofValues vs).Holds (ofValue v) :=
  holds_ofValues_iff.mp (holds_self _) v h

/-- The kind of a column depends on which cells there are, and not on their order. -/
theorem ofValues_congr (h : ∀ v, v ∈ vs ↔ v ∈ ws) : ofValues vs = ofValues ws := by
  have hle : ∀ {as bs : List Value}, (∀ v ∈ bs, v ∈ as) → (ofValues as).Holds (ofValues bs) := by
    intro as bs hsub
    exact holds_ofValues_iff.mpr fun v hv => holds_of_mem (hsub v hv)
  exact (hle fun v hv => (h v).mpr hv).antisymm (hle fun v hv => (h v).mp hv)

theorem ofValues_of_null (h : ∀ v ∈ vs, v = .null) : ofValues vs = .empty := by
  have hbelow : (empty).Holds (ofValues vs) := by
    refine holds_ofValues_iff.mpr fun v hv => ?_
    rw [h v hv]
    exact holds_self .empty
  exact (hbelow.antisymm (holds_empty _)).symm

/-- A column whose cells are null or of one kind is of this kind, or has no other cells than
null. -/
theorem ofValues_of_forall (h : ∀ v ∈ vs, v = .null ∨ ofValue v = k) :
    ofValues vs = k ∨ ∀ v ∈ vs, v = .null := by
  by_cases hnull : ∀ v ∈ vs, v = .null
  · exact .inr hnull
  · simp only [not_forall] at hnull
    obtain ⟨v, hv, hsome⟩ := hnull
    have hkind : ofValue v = k := (h v hv).resolve_left hsome
    have habove : (ofValues vs).Holds k := hkind ▸ holds_of_mem hv
    refine .inl (habove.antisymm (holds_ofValues_iff.mpr fun w hw => ?_))
    rcases h w hw with rfl | hw
    · exact holds_empty k
    · exact hw ▸ holds_self k

/-! ## Cells that are read back -/

/-- The cell that is read back where a cell was stored in a column of this kind. -/
def settle (k : ColumnKind) (v : Value) : Value := (k.store v).value

@[simp]
theorem settle_null (k : ColumnKind) : k.settle .null = .null := by
  cases k <;> rfl

@[simp]
theorem settle_bool (b : Bool) : settle .bool (.bool b) = .bool b := rfl

@[simp]
theorem settle_int (i : Int64) : settle .int (.int i) = .int i := by
  show (int64? i.toInt).elim (.float (Double.ofInt i.toInt)) Value.int = .int i
  rw [int64?_toInt]
  rfl

@[simp]
theorem settle_float (x : Double) : settle .float (.float x) = .float x := rfl

@[simp]
theorem settle_float_int (i : Int64) : settle .float (.int i) = .float (Double.ofInt i.toInt) := rfl

/-- In a column without a type of its own, cells are read back as their texts. -/
theorem settle_of_ne_null (hk : k = .empty ∨ k = .text) (h : v ≠ .null) :
    k.settle v = .str v.text := by
  cases v with
  | null => exact absurd rfl h
  | bool _ | int _ | float _ | str _ | list _ => rcases hk with rfl | rfl <;> rfl

/-- A cell that a column can hold is read back as null only if it is null, and else as a cell of
the column's own kind. -/
theorem ofValue_settle (h : k.Holds (ofValue v)) :
    ofValue (k.settle v) = if v = .null then .empty else k := by
  by_cases hnull : v = .null
  · rw [if_pos hnull, hnull, settle_null]
    rfl
  · rw [if_neg hnull]
    rcases holds_iff.mp h with hempty | rfl | rfl | ⟨rfl, hint⟩
    · exact absurd (ofValue_eq_empty_iff.mp hempty) hnull
    · cases v with
      | null => exact absurd rfl hnull
      | bool b => rfl
      | int i =>
        show ofValue (settle .int (.int i)) = .int
        rw [settle_int]
        rfl
      | float x => rfl
      | str s => rfl
      | list vs => rfl
    · rw [settle_of_ne_null (.inr rfl) hnull]
      rfl
    · cases v with
      | int i => rfl
      | null | bool _ | float _ | str _ | list _ => cases hint

theorem settle_eq_null_iff (h : k.Holds (ofValue v)) : k.settle v = .null ↔ v = .null := by
  rw [← ofValue_eq_empty_iff, ofValue_settle h]
  constructor
  · intro hkind
    by_contra hnull
    rw [if_neg hnull] at hkind
    subst hkind
    exact hnull (ofValue_eq_empty_iff.mp (h.symm ▸ rfl))
  · intro hnull
    rw [if_pos hnull]

/-- A cell that was read back is stored as it was stored before. -/
theorem store_settle (k : ColumnKind) (v : Value) : k.store (k.settle v) = k.store v := by
  by_cases hnull : v = .null
  · rw [hnull, settle_null]
  · cases k with
    | empty | text =>
      rw [settle_of_ne_null (by simp) hnull]
      cases v with
      | null => exact absurd rfl hnull
      | bool _ | int _ | float _ | str _ | list _ =>
        exact congrArg FrameCell.text (String.ofList_toList)
    | bool => cases v <;> rfl
    | int =>
      cases v with
      | int i => rw [settle_int]
      | null | bool _ | float _ | str _ | list _ => rfl
    | float => cases v <;> rfl

/-- The cells that are read back make a column of the same kind. -/
theorem ofValues_settled (vs : List Value) :
    ofValues (vs.map (ofValues vs).settle) = ofValues vs := by
  have hkinds : ∀ w ∈ vs.map (ofValues vs).settle, w = .null ∨ ofValue w = ofValues vs := by
    intro w hw
    obtain ⟨v, hv, rfl⟩ := List.mem_map.mp hw
    by_cases hnull : v = .null
    · exact .inl ((settle_eq_null_iff (holds_of_mem hv)).mpr hnull)
    · exact .inr ((ofValue_settle (holds_of_mem hv)).trans (if_neg hnull))
  rcases ofValues_of_forall hkinds with hsame | hnull
  · exact hsame
  · have hvs : ∀ v ∈ vs, v = .null := by
      intro v hv
      exact (settle_eq_null_iff (holds_of_mem hv)).mp (hnull _ (List.mem_map_of_mem hv))
    rw [ofValues_of_null hnull, ofValues_of_null hvs]

end ColumnKind

/-- A column that is stored again is the column that it was. -/
theorem FrameColumn.ofValues_settled (name : String) (vs : List Value) :
    ofValues name (vs.map (ColumnKind.ofValues vs).settle) = ofValues name vs := by
  have hcells : (vs.map (ColumnKind.ofValues vs).settle).map (ColumnKind.ofValues vs).store =
      vs.map (ColumnKind.ofValues vs).store := by
    rw [List.map_map]
    exact List.map_congr_left fun v _ => ColumnKind.store_settle _ v
  rw [ofValues, ofValues, ColumnKind.ofValues_settled, hcells]

/-! ## What becomes of a column -/

/-- The cells other than null have one of these labels. -/
def Value.Labelled (labels : List String) (vs : List Value) : Prop :=
  ∀ v ∈ vs, v ≠ .null → v.label ∈ labels

instance (labels : List String) (vs : List Value) : Decidable (Value.Labelled labels vs) :=
  inferInstanceAs (Decidable (∀ v ∈ vs, v ≠ .null → v.label ∈ labels))

theorem Value.isNull_iff {v : Value} : v.isNull = true ↔ v = .null := by
  cases v <;> simp [isNull]

/-- An integer as a double. -/
def Value.widened : Value → Value
  | .int i => .float (Double.ofInt i.toInt)
  | v => v

/-- The text of a cell, and null for null. -/
def Value.texted (v : Value) : Value := if v = .null then .null else .str v.text

/-- What the cells of a column are read back as. Cells of one kind that is not that of lists are
read back as they are, integers among doubles as doubles, and cells of any other mix as texts. -/
structure Settled (before after : List Value) : Prop where
  nulls : after.map Value.isNull = before.map Value.isNull
  same : ∀ label, label ≠ "list" → Value.Labelled [label] before → after = before
  numbers : Value.Labelled ["int", "float"] before → ¬Value.Labelled ["int"] before →
    after = before.map Value.widened
  texts : ¬Value.Labelled ["bool"] before → ¬Value.Labelled ["int", "float"] before →
    after = before.map Value.texted

namespace ColumnKind

variable {k : ColumnKind} {v w : Value} {vs : List Value}

theorem holds_bool_iff : bool.Holds (ofValues vs) ↔ Value.Labelled ["bool"] vs := by
  rw [holds_ofValues_iff]
  refine forall₂_congr fun v _ => ?_
  cases v <;> simp [Holds, ofValue, merge, Value.label]

theorem holds_float_iff : float.Holds (ofValues vs) ↔ Value.Labelled ["int", "float"] vs := by
  rw [holds_ofValues_iff]
  refine forall₂_congr fun v _ => ?_
  cases v <;> simp [Holds, ofValue, merge, Value.label]

/-- Cells with the same label are of the same kind. -/
theorem ofValue_congr (h : v.label = w.label) : ofValue v = ofValue w := by
  cases v <;> cases w <;> simp [Value.label] at h <;> rfl

/-- A column whose cells have one label is of the kind of each of them. -/
theorem ofValues_eq_ofValue (hv : v ∈ vs) (h : Value.Labelled [v.label] vs) :
    ofValues vs = ofValue v := by
  refine (holds_of_mem hv).antisymm (holds_ofValues_iff.mpr fun w hw => ?_)
  by_cases hnull : w = .null
  · rw [hnull]
    exact holds_empty _
  · have hlabel : w.label = v.label := List.mem_singleton.mp (h w hw hnull)
    rw [ofValue_congr hlabel]
    exact holds_self _

theorem settle_ofValue (h : v.label ≠ "list") : (ofValue v).settle v = v := by
  cases v with
  | null => exact settle_null _
  | bool b => exact settle_bool b
  | int i => exact settle_int i
  | float x => exact settle_float x
  | str s =>
    show settle .text (.str s) = .str s
    rw [settle_of_ne_null (.inr rfl) (by simp)]
    exact congrArg Value.str String.ofList_toList
  | list vs => exact absurd rfl h

/-- The cells of a column are read back according to what other cells there are. -/
theorem settled_ofValues (vs : List Value) : Settled vs (vs.map (ofValues vs).settle) where
  nulls := by
    rw [List.map_map]
    refine List.map_congr_left fun v hv => ?_
    rw [Function.comp_apply, Bool.eq_iff_iff, Value.isNull_iff, Value.isNull_iff]
    exact settle_eq_null_iff (holds_of_mem hv)
  same label hlabel hvs := by
    have hcell : ∀ v ∈ vs, (ofValues vs).settle v = id v := by
      intro v hv
      by_cases hnull : v = .null
      · rw [hnull, settle_null]
        rfl
      · have hv' : v.label = label := List.mem_singleton.mp (hvs v hv hnull)
        subst hv'
        rw [ofValues_eq_ofValue hv hvs, settle_ofValue hlabel]
        rfl
    rw [List.map_congr_left hcell, List.map_id]
  numbers hnumbers hsome := by
    -- some cell is a double, so that the column is of doubles
    have hkind : ofValues vs = .float := by
      simp only [Value.Labelled, not_forall] at hsome
      obtain ⟨x, hx, hnull, hlabel⟩ := hsome
      have hfloat : ofValue x = .float := by
        have hmem := hnumbers x hx hnull
        cases x with
        | float x => rfl
        | null => exact absurd rfl hnull
        | int i => exact absurd List.mem_cons_self hlabel
        | bool b => simp [Value.label] at hmem
        | str s => simp [Value.label] at hmem
        | list vs => simp [Value.label] at hmem
      exact (hfloat ▸ holds_of_mem hx).antisymm (holds_float_iff.mpr hnumbers)
    rw [hkind]
    refine List.map_congr_left fun v hv => ?_
    have hmem := hnumbers v hv
    cases v with
    | null => exact settle_null _
    | int i => exact settle_float_int i
    | float x => exact settle_float x
    | bool b => simp [Value.label] at hmem
    | str s => simp [Value.label] at hmem
    | list vs => simp [Value.label] at hmem
  texts hbool hnumbers := by
    rw [← holds_bool_iff] at hbool
    rw [← holds_float_iff] at hnumbers
    have hkind : ofValues vs = .empty ∨ ofValues vs = .text := by
      generalize ofValues vs = k at hbool hnumbers ⊢
      cases k with
      | empty => exact .inl rfl
      | text => exact .inr rfl
      | bool => exact absurd (holds_self .bool) hbool
      | int => exact absurd (holds_iff.mpr (.inr (.inr (.inr ⟨rfl, rfl⟩)))) hnumbers
      | float => exact absurd (holds_self .float) hnumbers
    refine List.map_congr_left fun v _ => ?_
    by_cases hnull : v = .null
    · rw [hnull, settle_null]
      rfl
    · rw [settle_of_ne_null hkind hnull, Value.texted, if_neg hnull]

end ColumnKind

end TableFlow
