import TableFlow.Expr.Eval
import TableFlow.Proofs.Schema.Cells

/-!
# Columns that an expression names

An expression that names its columns does not depend on where they stand, nor on any other
column. The schema is used for nothing but to find the names, and the row for nothing but their
cells.

* `Expr.references` and `Predicate.references` are the columns that are named, and `SameCells`
  says that two rows agree on columns, each row under a schema of its own;
* `Expr.SameOutcome` and `Predicate.SameOutcome` say that an expression binds to both schemas and
  then has the same outcome on both rows, be it a value or an error;
* `Expr.sameOutcome` and `Predicate.sameOutcome` go through expressions and predicates together,
  with one case for each of their forms;
* `Rearranged` is a row in another schema, with columns taken or put in, and
  `outcomes_depend_on_references` is the whole.
-/

namespace TableFlow

/-! ## References -/

mutual

/-- The columns that an expression names. -/
def Expr.references : Expr → List ColumnRef
  | .const _ => []
  | .column c => [c.reference]
  | .columns cs => cs.map ColumnVar.reference
  | .apply _ args => Expr.referencesAll args
  | .aggregate _ args => Expr.referencesAll args
  | .text _ arg _ => arg.references
  | .get args _ => Expr.referencesAll args
  | .pick args _ => Expr.referencesAll args
  | .test p => p.references

/-- The columns that expressions name. -/
def Expr.referencesAll : List Expr → List ColumnRef
  | [] => []
  | e :: es => e.references ++ Expr.referencesAll es

/-- The columns that a predicate names. -/
def Predicate.references : Predicate → List ColumnRef
  | .compare _ left right => left.references ++ right.references
  | .all ps => Predicate.referencesAll ps
  | .any ps => Predicate.referencesAll ps
  | .not p => p.references
  | .isNull e => e.references
  | .isEmpty e => e.references
  | .isIn e _ => e.references
  | .matchText e _ => e.references
  | .holds e => e.references

/-- The columns that predicates name. -/
def Predicate.referencesAll : List Predicate → List ColumnRef
  | [] => []
  | p :: ps => p.references ++ Predicate.referencesAll ps

end

/-! ## Agreement on the references -/

/-- The columns are given by name, and each of them has the same cell in a row of one schema and
in a row of another one. -/
def SameCells (columns : List ColumnRef) (s : Schema) (row : Row) (t : Schema) (other : Row) :
    Prop :=
  ∀ column ∈ columns, ∃ name v, column = .name name ∧ s.cell? row name = some v ∧
    t.cell? other name = some v

/-- Binding to either schema goes through, and evaluating gives the same value or the same
error. -/
def Expr.SameOutcome (e : Expr) (s : Schema) (row : Row) (t : Schema) (other : Row) : Prop :=
  Result.Both (fun b c => b.eval row = c.eval other) (e.bind s) (e.bind t)

/-- Binding to either schema goes through, and testing gives the same truth value or the same
error. -/
def Predicate.SameOutcome (p : Predicate) (s : Schema) (row : Row) (t : Schema) (other : Row) :
    Prop :=
  Result.Both (fun b c => b.eval row = c.eval other) (p.bind s) (p.bind t)

section Outcomes

variable {s t : Schema} {row other : Row}

theorem sameCells_append {xs ys : List ColumnRef} (h : SameCells (xs ++ ys) s row t other) :
    SameCells xs s row t other ∧ SameCells ys s row t other := List.forall_mem_append.mp h

namespace ColumnVar

/-- A column that is there by name is bound to its position, wherever it was bound before. -/
theorem exists_bind_of_cell? {c : ColumnVar} {name : String} {v : Value}
    (hname : c.reference = .name name) (hcell : s.cell? row name = some v) :
    ∃ b, c.bind s = .ok b ∧ b.eval row = .ok v := by
  obtain ⟨pos, hpos, hv⟩ := Option.bind_eq_some_iff.mp hcell
  refine ⟨⟨c.reference, some pos⟩, ?_, ?_⟩
  · rw [bind, hname, Schema.resolve, hpos]
  · simp only [eval, hv]

theorem sameOutcome {c : ColumnVar} (h : SameCells [c.reference] s row t other) :
    Result.Both (fun b d => b.eval row = d.eval other) (c.bind s) (c.bind t) := by
  obtain ⟨name, v, hname, hs, ht⟩ := h c.reference (List.mem_singleton_self _)
  obtain ⟨b, hb, hbv⟩ := exists_bind_of_cell? hname hs
  obtain ⟨d, hd, hdv⟩ := exists_bind_of_cell? hname ht
  exact ⟨b, d, hb, hd, hbv.trans hdv.symm⟩

theorem sameOutcomes {cs : List ColumnVar}
    (h : SameCells (cs.map ColumnVar.reference) s row t other) :
    Result.Both (fun bs ds => bs.map (eval row) = ds.map (eval other)) (bindAll s cs)
      (bindAll t cs) := by
  induction cs with
  | nil => exact ⟨[], [], rfl, rfl, rfl⟩
  | cons c cs ih =>
    have happend : SameCells ([c.reference] ++ cs.map ColumnVar.reference) s row t other := h
    obtain ⟨hfirst, hrest⟩ := sameCells_append happend
    obtain ⟨b, d, hb, hd, hsame⟩ := sameOutcome hfirst
    obtain ⟨bs, ds, hbs, hds, hall⟩ := ih hrest
    refine ⟨b :: bs, d :: ds, ?_, ?_, ?_⟩
    · simp only [bindAll, hb, hbs]
    · simp only [bindAll, hd, hds]
    · simp only [List.map_cons, hsame, hall]

end ColumnVar

mutual

/-- An expression binds to two schemas and has the same outcome on two rows that agree on the
columns it names. -/
theorem Expr.sameOutcome {e : Expr} (h : SameCells e.references s row t other) :
    e.SameOutcome s row t other := by
  match e with
  | .const v => exact ⟨_, _, rfl, rfl, rfl⟩
  | .column c => exact (ColumnVar.sameOutcome h).map fun b d hsame => hsame
  | .columns cs =>
    refine (ColumnVar.sameOutcomes h).map fun bs ds hsame => ?_
    simp only [Expr.eval, hsame]
  | .apply f args | .aggregate a args | .get args index | .pick args positions =>
    -- also which arguments are selected, and how many there are, does not depend on the row
    refine (Expr.sameOutcomes h).map fun bs ds hsame => ?_
    simp only [Expr.eval, hsame]
  | .text op arg asText =>
    refine (Expr.sameOutcome (e := arg) h).map fun b d hsame => ?_
    simp only [Expr.eval, hsame]
  | .test p =>
    refine (Predicate.sameOutcome (p := p) h).map fun b d hsame => ?_
    simp only [Expr.eval, hsame]

theorem Expr.sameOutcomes {es : List Expr} (h : SameCells (Expr.referencesAll es) s row t other) :
    Result.Both (fun bs ds => Expr.outcomes row bs = Expr.outcomes other ds) (Expr.bindAll s es)
      (Expr.bindAll t es) := by
  match es with
  | [] => exact ⟨[], [], rfl, rfl, rfl⟩
  | e :: es =>
    obtain ⟨hfirst, hrest⟩ := sameCells_append h
    obtain ⟨b, d, hb, hd, hsame⟩ := Expr.sameOutcome hfirst
    obtain ⟨bs, ds, hbs, hds, hall⟩ := Expr.sameOutcomes hrest
    refine ⟨b :: bs, d :: ds, ?_, ?_, ?_⟩
    · simp only [Expr.bindAll, hb, hbs, Except.map]
    · simp only [Expr.bindAll, hd, hds, Except.map]
    · simp only [Expr.outcomes, hsame, hall]

/-- The same of a predicate. -/
theorem Predicate.sameOutcome {p : Predicate} (h : SameCells p.references s row t other) :
    p.SameOutcome s row t other := by
  match p with
  | .compare op left right =>
    obtain ⟨hleft, hright⟩ := sameCells_append h
    obtain ⟨bl, dl, hbl, hdl, hsameLeft⟩ := Expr.sameOutcome hleft
    obtain ⟨br, dr, hbr, hdr, hsameRight⟩ := Expr.sameOutcome hright
    refine ⟨.compare op bl br, .compare op dl dr, ?_, ?_, ?_⟩
    · simp only [Predicate.bind, hbl, hbr, Except.map]
    · simp only [Predicate.bind, hdl, hdr, Except.map]
    · simp only [Predicate.eval, hsameLeft, hsameRight]
  | .all ps | .any ps =>
    -- the deciding part is found in the list of all outcomes
    refine (Predicate.sameOutcomes h).map fun bs ds hsame => ?_
    simp only [Predicate.eval, hsame]
  | .not p =>
    refine (Predicate.sameOutcome (p := p) h).map fun b d hsame => ?_
    simp only [Predicate.eval, hsame]
  | .isNull e | .isEmpty e | .isIn e domain | .matchText e m | .holds e =>
    refine (Expr.sameOutcome (e := e) h).map fun b d hsame => ?_
    simp only [Predicate.eval, hsame]

theorem Predicate.sameOutcomes {ps : List Predicate}
    (h : SameCells (Predicate.referencesAll ps) s row t other) :
    Result.Both (fun bs ds => Predicate.outcomes row bs = Predicate.outcomes other ds)
      (Predicate.bindAll s ps) (Predicate.bindAll t ps) := by
  match ps with
  | [] => exact ⟨[], [], rfl, rfl, rfl⟩
  | p :: ps =>
    obtain ⟨hfirst, hrest⟩ := sameCells_append h
    obtain ⟨b, d, hb, hd, hsame⟩ := Predicate.sameOutcome hfirst
    obtain ⟨bs, ds, hbs, hds, hall⟩ := Predicate.sameOutcomes hrest
    refine ⟨b :: bs, d :: ds, ?_, ?_, ?_⟩
    · simp only [Predicate.bindAll, hb, hbs, Except.map]
    · simp only [Predicate.bindAll, hd, hds, Except.map]
    · simp only [Predicate.outcomes, hsame, hall]

end

/-! ## Other columns -/

/-- A row in another schema: with some of its columns in any order, or with new ones put in. -/
inductive Rearranged (s : Schema) (row : Row) : Schema → Row → Prop
  | project {positions : List Nat} {out : Schema} {cells : List Value}
      (hproject : s.project positions = .ok out) (hcells : Row.cells row positions = .ok cells) :
      Rearranged s row out cells
  | insert {pos : Option Nat} {names : List String} {vs : List Value} {out : Schema}
      (hvs : vs.length = names.length) (hinsert : s.insert pos names = .ok out) :
      Rearranged s row out
        (row.take (pos.getD s.width) ++ vs ++ row.drop (pos.getD s.width))

/-- The columns are given by names that both schemas have. -/
def NamedInBoth (columns : List ColumnRef) (s t : Schema) : Prop :=
  ∀ column ∈ columns, ∃ name ∈ s.names, name ∈ t.names ∧ column = .name name

theorem Rearranged.sameCells (h : Rearranged s row t other) (hrow : row.length = s.width)
    {columns : List ColumnRef} (hnames : NamedInBoth columns s t) :
    SameCells columns s row t other := by
  intro column hcolumn
  obtain ⟨name, hs, ht, rfl⟩ := hnames column hcolumn
  obtain ⟨v, hv⟩ := Schema.exists_cell? hrow hs
  refine ⟨name, v, rfl, hv, ?_⟩
  cases h with
  | project hproject hcells => rw [Schema.cell?_project hrow hproject hcells ht, hv]
  | insert hvs hinsert => rw [Schema.cell?_insert hrow hvs hinsert hs, hv]

/-- On two rows that agree on the columns an expression names, each under a schema of its own, it
has the same outcome; and other columns may stand elsewhere, go away or be added. -/
theorem outcomes_depend_on_references :
    (∀ e : Expr, SameCells e.references s row t other → e.SameOutcome s row t other) ∧
    (∀ p : Predicate, SameCells p.references s row t other → p.SameOutcome s row t other) ∧
    (row.length = s.width → Rearranged s row t other →
      (∀ e : Expr, NamedInBoth e.references s t → e.SameOutcome s row t other) ∧
      (∀ p : Predicate, NamedInBoth p.references s t → p.SameOutcome s row t other)) := by
  refine ⟨fun e => Expr.sameOutcome, fun p => Predicate.sameOutcome, ?_⟩
  intro hrow hmoved
  constructor
  · intro e hnames
    exact Expr.sameOutcome (hmoved.sameCells hrow hnames)
  · intro p hnames
    exact Predicate.sameOutcome (hmoved.sameCells hrow hnames)

end Outcomes

/-- A cell that is no truth value spoils a test in the same way when its column stands behind
another one, and a comparison of two columns holds wherever they stand. -/
theorem outcomes_of_reordered_columns :
    (Predicate.holds (.ofColumn (.name "a"))).SameOutcome ⟨["a", "b"], by decide⟩
      [.int 1, .int 2] ⟨["b", "a"], by decide⟩ [.int 2, .int 1] ∧
    (Predicate.compare .lt (.ofColumn (.name "a")) (.ofColumn (.name "b"))).SameOutcome
      ⟨["a", "b"], by decide⟩ [.int 1, .int 2] ⟨["b", "c", "a"], by decide⟩
      [.int 2, .null, .int 1] := by
  constructor
  · -- the columns are taken the other way round
    have hmoved : Rearranged ⟨["a", "b"], by decide⟩ [.int 1, .int 2] ⟨["b", "a"], by decide⟩
        [.int 2, .int 1] := @Rearranged.project _ _ [1, 0] _ _ rfl rfl
    refine (outcomes_depend_on_references.2.2 rfl hmoved).2 _ ?_
    intro column hcolumn
    cases List.mem_singleton.mp hcolumn
    exact ⟨"a", by decide, by decide, rfl⟩
  · refine outcomes_depend_on_references.2.1 _ ?_
    intro column hcolumn
    rcases List.mem_pair.mp hcolumn with rfl | rfl
    · exact ⟨"a", .int 1, rfl, rfl, rfl⟩
    · exact ⟨"b", .int 2, rfl, rfl, rfl⟩

end TableFlow
