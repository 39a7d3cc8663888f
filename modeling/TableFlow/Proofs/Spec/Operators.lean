import Mathlib.Data.List.Nodup
import TableFlow.Proofs.Operator.Opening
import TableFlow.Proofs.Result
import TableFlow.Spec.Build

/-!
# The operators of a step

Every step puts some operators behind a pipeline, the same ones behind every pipeline,
or it fails on every pipeline. The lemmas of this module give the operators of each kind
of step, and what they open on: columns are found by name, so the schema of the rows that
come out is told by its names.

* `Step.Makes` lists the operators of each kind of step, and `extendBySteps_eq_ok_iff` says
  that a pipeline is extended by just these;
* `opens_select_iff`, `opens_filter_iff`, `opens_update_iff` and their like say when an operator
  that finds its columns by name opens.

The crux is the renaming step. Its checks rename one column after the other in a list
that changes, its operator replaces names at positions found beforehand.
`replaceNames_eq_renameColumns` is their agreement, as long as every renamed column
is there from the start.
-/

namespace TableFlow

/-! ## Names of columns -/

theorem missingColumns_eq_nil_iff {label : String} {available columns : List String} :
    missingColumns label available columns = [] ↔ ∀ column ∈ columns, column ∈ available := by
  simp [missingColumns]

theorem repeatedNames_eq_nil_iff {seen names : List String} :
    repeatedNames seen names = [] ↔ names.Nodup ∧ ∀ name ∈ names, name ∉ seen := by
  induction names generalizing seen with
  | nil => simp [repeatedNames]
  | cons name names ih =>
    rw [repeatedNames]
    split
    · rename_i hseen
      simp [hseen]
    · rename_i hfresh
      rw [ih, List.nodup_cons, List.forall_mem_cons]
      constructor
      · rintro ⟨hnd, hapart⟩
        refine ⟨⟨fun hmem => ?_, hnd⟩, hfresh, fun other hother hin => ?_⟩
        · exact hapart name hmem List.mem_cons_self
        · exact hapart other hother (List.mem_cons_of_mem _ hin)
      · rintro ⟨⟨hnot, hnd⟩, -, hrest⟩
        refine ⟨hnd, fun other hother hin => ?_⟩
        rcases List.mem_cons.mp hin with rfl | hin
        · exact hnot hother
        · exact hrest other hother hin

/-! ## Renaming -/

section Renaming

variable {first current : List String} {source target : String} {pos : Nat}

/-- A column that is there gets its new name, unless another column has it. -/
theorem renameColumn_eq (hnd : current.Nodup) (hsource : current[pos]? = some source) :
    renameColumn current source target =
      if source ≠ target ∧ target ∈ current then .error (.renameTarget source target)
      else .ok (current.set pos target) := by
  obtain ⟨hlt, hget⟩ := List.getElem?_eq_some_iff.mp hsource
  have hfound : current.idxOf? source = some pos := idxOf?_of_getElem? hnd hsource
  by_cases hsame : source = target
  · -- the name stays, as if it were put where it already is
    subst hsame
    have hset : current.set pos source = current := by
      have hself := List.set_getElem_self hlt
      rwa [hget] at hself
    simp [renameColumn, hfound, hset]
  · simp [renameColumn, hfound, hsame]

theorem nodup_set_of_free (hnd : current.Nodup) (hsource : current[pos]? = some source)
    (hfree : ¬(source ≠ target ∧ target ∈ current)) : (current.set pos target).Nodup := by
  by_cases htaken : target ∈ current
  · have hsame : source = target := by
      by_contra hne
      exact hfree ⟨hne, htaken⟩
    subst hsame
    obtain ⟨hlt, rfl⟩ := List.getElem?_eq_some_iff.mp hsource
    rwa [List.set_getElem_self hlt]
  · exact hnd.set htaken

/-- Another source of a mapping stands elsewhere, since it is another name. -/
theorem idxOf_ne_of_key {entries : List (String × String)} (hkey : source ∉ entries.map Prod.fst)
    (hsource : current[first.idxOf source]? = some source)
    (hplace : ∀ entry ∈ entries, current[first.idxOf entry.1]? = some entry.1) :
    ∀ entry ∈ entries, first.idxOf source ≠ first.idxOf entry.1 := by
  intro entry hentry heq
  have hthere := hplace entry hentry
  rw [← heq, hsource] at hthere
  have hname : source = entry.1 := by simpa using hthere
  exact hkey (hname ▸ List.mem_map_of_mem hentry)

/-- A new name for one column leaves the other ones where they are. -/
theorem getElem?_set_of_key {entries : List (String × String)}
    (hkey : source ∉ entries.map Prod.fst) (hsource : current[first.idxOf source]? = some source)
    (hplace : ∀ entry ∈ entries, current[first.idxOf entry.1]? = some entry.1) :
    ∀ entry ∈ entries,
      (current.set (first.idxOf source) target)[first.idxOf entry.1]? = some entry.1 := by
  intro entry hentry
  rw [List.getElem?_set_ne (idxOf_ne_of_key hkey hsource hplace entry hentry)]
  exact hplace entry hentry

/-- Replacing names at positions found in the first list is renaming the columns one
after the other, if no check fails on the way. -/
theorem replaceNames_eq_renameColumns (width : Nat) (first : List String)
    (entries : List (String × String)) (current : List String) (hnd : current.Nodup)
    (hkeys : (entries.map Prod.fst).Nodup)
    (hplace : ∀ entry ∈ entries, current[first.idxOf entry.1]? = some entry.1)
    (hclean : renameProblems current entries = []) :
    Schema.replaceNames width current
        (entries.map fun entry => (first.idxOf entry.1, entry.2)) =
      .ok (renameColumns current entries) ∧ (renameColumns current entries).Nodup := by
  induction entries generalizing current with
  | nil => exact ⟨rfl, hnd⟩
  | cons entry entries ih =>
    obtain ⟨source, target⟩ := entry
    obtain ⟨hkey, hkeys⟩ := List.nodup_cons.mp hkeys
    obtain ⟨hsource, hplace⟩ := List.forall_mem_cons.mp hplace
    have hlt : first.idxOf source < current.length := (List.getElem?_eq_some_iff.mp hsource).1
    rw [renameProblems, renameColumn_eq hnd hsource] at hclean
    by_cases hblocked : source ≠ target ∧ target ∈ current
    · rw [if_pos hblocked] at hclean
      cases hclean
    · rw [if_neg hblocked] at hclean
      rw [List.map_cons, Schema.replaceNames, if_pos hlt, renameColumns,
        renameColumn_eq hnd hsource, if_neg hblocked]
      exact ih _ (nodup_set_of_free hnd hsource hblocked) hkeys
        (getElem?_set_of_key hkey hsource hplace) hclean

end Renaming

/-- The operator that renames the columns of a mapping. It has a name for each. -/
def Mapping.renaming (mapping : Mapping String) : Operator :=
  .rename (mapping.names.map .name) mapping.values (by simp [names, values])

/-- The operator pairs positions with new names, the checks go by the entries. -/
theorem Mapping.zip_positions (mapping : Mapping String) (names : List String) :
    (mapping.names.map fun name => names.idxOf name).zip mapping.values =
      mapping.entries.map fun entry => (names.idxOf entry.1, entry.2) := by
  rw [Mapping.names, Mapping.values, List.map_map, List.zip_map']
  rfl

/-- Old names that are all there stand at the positions at which they are found. -/
theorem Mapping.getElem?_position {mapping : Mapping String} {names : List String}
    (hall : ∀ name ∈ mapping.names, name ∈ names) :
    ∀ entry ∈ mapping.entries, names[names.idxOf entry.1]? = some entry.1 := by
  intro entry hentry
  exact List.getElem?_idxOf (hall _ (List.mem_map_of_mem hentry))

/-- Renaming columns that are all there opens, if the checks let it pass, on the names
that the checks keep. -/
theorem opens_rename {s : Schema} {mapping : Mapping String}
    (hall : ∀ name ∈ mapping.names, name ∈ s.names)
    (hclean : renameProblems s.names mapping.entries = []) :
    ∃ out, Opens s [mapping.renaming] out ∧
      out.names = renameColumns s.names mapping.entries := by
  obtain ⟨hreplaced, hnd⟩ := replaceNames_eq_renameColumns s.width s.names mapping.entries
    s.names s.nodup mapping.nodup (Mapping.getElem?_position hall) hclean
  have hrenamed : s.rename (mapping.names.map fun name => s.names.idxOf name) mapping.values =
      .ok ⟨_, hnd⟩ := by
    rw [Schema.rename, mapping.zip_positions, hreplaced]
    exact Schema.ofNames_of_nodup hnd
  refine ⟨⟨_, hnd⟩, ?_, rfl⟩
  exact opens_singleton_iff.mpr ⟨.pass, .rename (Schema.resolveAll_names hall) hrenamed⟩

/-- A mapping that opens renames columns that are there from the start, to different names. -/
theorem replaceNames_of_opens {s out : Schema} {mapping : Mapping String}
    (h : Opens s [mapping.renaming] out) :
    (∀ name ∈ mapping.names, name ∈ s.names) ∧
      Schema.replaceNames s.width s.names
        (mapping.entries.map fun entry => (s.names.idxOf entry.1, entry.2)) = .ok out.names := by
  obtain ⟨stage, hop⟩ := opens_singleton_iff.mp h
  cases hop with
  | rename hresolve hrename =>
    have hall := Schema.mem_of_resolveAll_names hresolve
    rw [Schema.resolveAll_names hall] at hresolve
    cases hresolve
    rw [Schema.rename, mapping.zip_positions] at hrename
    split at hrename
    · cases hrename
    · rename_i final hreplaced
      exact ⟨hall, hreplaced.trans (congrArg _ (Schema.ofNames_eq_ok_iff.mp hrename))⟩

/-! ## Selecting -/

/-- A selection opens on columns that are all there, and leaves their names, which differ. -/
theorem opens_select_iff {s out : Schema} {columns : List String} :
    Opens s [.select (columns.map .name)] out ↔
      (∀ column ∈ columns, column ∈ s.names) ∧ out.names = columns := by
  rw [opens_singleton_iff]
  constructor
  · rintro ⟨stage, hop⟩
    cases hop with
    | select hresolve hproject =>
      have hall := Schema.mem_of_resolveAll_names hresolve
      rw [Schema.resolveAll_names hall] at hresolve
      cases hresolve
      rw [Schema.project_names hall] at hproject
      exact ⟨hall, (Schema.ofNames_eq_ok_iff.mp hproject).symm⟩
  · rintro ⟨hall, rfl⟩
    refine ⟨_, .select (Schema.resolveAll_names hall) ?_⟩
    rw [Schema.project_names hall, Schema.ofNames_eq_ok_iff]

/-- New names for all columns of a schema, by position, open on these names, if they differ. -/
theorem opens_rename_all_iff {s out : Schema} {names : List String}
    (named : names.length = ((List.range s.width).map ColumnRef.position).length) :
    Opens s [.rename ((List.range s.width).map .position) names named] out ↔
      out.names = names := by
  have hlen : names.length = s.width := by simpa using named
  have hresolve : s.resolveAll ((List.range s.width).map .position) = .ok (List.range s.width) :=
    Schema.resolveAll_positions fun pos hpos => List.mem_range.mp hpos
  rw [opens_singleton_iff]
  constructor
  · rintro ⟨stage, hop⟩
    cases hop with
    | rename hpositions hrename =>
      obtain rfl := Except.ok.inj (hresolve.symm.trans hpositions)
      rw [Schema.rename_range hlen] at hrename
      exact (Schema.ofNames_eq_ok_iff.mp hrename).symm
  · rintro rfl
    refine ⟨.pass, .rename hresolve ?_⟩
    rw [Schema.rename_range hlen, Schema.ofNames_eq_ok_iff]

/-! ## The other kinds -/

/-- An expression over one column binds where the column is, to its position. -/
theorem bind_ofColumn_eq_ok_iff {s : Schema} {column : String} {e : Expr} :
    (Expr.ofColumn (.name column)).bind s = .ok e ↔
      column ∈ s.names ∧ e = .column ⟨.name column, some (s.names.idxOf column)⟩ := by
  by_cases hmem : column ∈ s.names
  · rw [Expr.ofColumn, Expr.bind, ColumnVar.bind, Schema.resolve_name_of_mem hmem]
    simp [Except.map, hmem, eq_comm]
  · rw [Expr.ofColumn, Expr.bind, ColumnVar.bind, Schema.resolve_name_of_not_mem hmem]
    simp [Except.map, hmem]

theorem bind_ofColumn {s : Schema} {column : String} (hmem : column ∈ s.names) :
    (Expr.ofColumn (.name column)).bind s =
      .ok (.column ⟨.name column, some (s.names.idxOf column)⟩) :=
  bind_ofColumn_eq_ok_iff.mpr ⟨hmem, rfl⟩

section Conditions

variable [Pattern.Engine]

/-- The predicate of a condition binds where its column is. -/
theorem bind_predicate {s : Schema} {condition : Condition} {p : Predicate}
    (hp : condition.predicate = .ok p) (hmem : condition.column ∈ s.names) :
    ∃ bound, p.bind s = .ok bound := by
  have hcolumn := bind_ofColumn hmem
  cases condition with
  | compare op column value =>
    cases hp
    exact ⟨_, by simp only [Predicate.bind, Condition.column] at hcolumn ⊢; rw [hcolumn]; rfl⟩
  | isEmpty column =>
    cases hp
    exact ⟨_, congrArg (Except.map Predicate.isEmpty) hcolumn⟩
  | matchText column pattern whole =>
    rw [Condition.predicate, Predicate.ofPattern] at hp
    split at hp
    · cases hp
    · cases hp
      exact ⟨_, congrArg (Except.map fun e => Predicate.matchText e _) hcolumn⟩

/-- The predicate of a condition, bound to the position of its column. -/
inductive Condition.BindsAt (pos : Nat) : Condition → Predicate → Prop
  | compare {op : CompareOp} {column : String} {value : Value} :
      BindsAt pos (.compare op column value)
        (.compare op (.column ⟨.name column, some pos⟩) (.const value))
  | isEmpty {column : String} :
      BindsAt pos (.isEmpty column) (.isEmpty (.column ⟨.name column, some pos⟩))
  /-- The pattern has been tied to the start of a text or to both of its ends. -/
  | matchText {column pattern : String} {whole : Bool} {compiled : Pattern}
      (hpattern : Pattern.anchored pattern whole = .ok compiled) :
      BindsAt pos (.matchText column pattern whole)
        (.matchText (.column ⟨.name column, some pos⟩) ⟨pattern, whole, compiled, true, false⟩)

/-- Where the predicate of a condition binds, its column is there. -/
theorem bindsAt_of_bind {s : Schema} {condition : Condition} {p bound : Predicate}
    (hp : condition.predicate = .ok p) (hbind : p.bind s = .ok bound) :
    condition.column ∈ s.names ∧ condition.BindsAt (s.names.idxOf condition.column) bound := by
  cases condition with
  | compare op column value =>
    cases hp
    rw [Predicate.bind] at hbind
    split at hbind
    · cases hbind
    · rename_i e he
      obtain ⟨hmem, rfl⟩ := bind_ofColumn_eq_ok_iff.mp he
      cases hbind
      exact ⟨hmem, .compare⟩
  | isEmpty column =>
    cases hp
    obtain ⟨e, he, rfl⟩ := Result.map_eq_ok_iff.mp hbind
    obtain ⟨hmem, rfl⟩ := bind_ofColumn_eq_ok_iff.mp he
    exact ⟨hmem, .isEmpty⟩
  | matchText column pattern whole =>
    rw [Condition.predicate, Predicate.ofPattern] at hp
    split at hp
    · cases hp
    · rename_i compiled hcompiled
      cases hp
      obtain ⟨e, he, rfl⟩ := Result.map_eq_ok_iff.mp hbind
      obtain ⟨hmem, rfl⟩ := bind_ofColumn_eq_ok_iff.mp he
      exact ⟨hmem, .matchText hcompiled⟩

/-- A filter opens where the column of its condition is. -/
theorem opens_filter_iff {s out : Schema} {condition : Condition} {p : Predicate} {negated : Bool}
    (hp : condition.predicate = .ok p) :
    Opens s [.filter p negated] out ↔ condition.column ∈ s.names ∧ out = s := by
  rw [opens_singleton_iff]
  constructor
  · rintro ⟨stage, hop⟩
    cases hop with
    | filter hbind => exact ⟨(bindsAt_of_bind hp hbind).1, rfl⟩
  · rintro ⟨hmem, rfl⟩
    obtain ⟨bound, hbound⟩ := bind_predicate hp hmem
    exact ⟨_, .filter hbound⟩

end Conditions

/-- A column can be inserted anywhere up to the end, under a name that is not there. -/
theorem opens_insert {s : Schema} {name : String} {pos : Option Nat} (value : Value)
    (hpos : pos.getD s.width ≤ s.width) (hnew : name ∉ s.names) :
    ∃ out, Opens s [.insert [name] pos (.const value) (by simp) rfl] out ∧
      out.names = s.names.take (pos.getD s.width) ++ name :: s.names.drop (pos.getD s.width) := by
  obtain ⟨out, hout, hnames⟩ := Schema.insert_name hpos hnew
  exact ⟨out, opens_singleton_iff.mpr ⟨_, .insert hout rfl⟩, hnames⟩

theorem insert_fits_of_opens {s out : Schema} {name : String} {pos : Option Nat} {value : Value}
    (h : Opens s [.insert [name] pos (.const value) (by simp) rfl] out) :
    pos.getD s.width ≤ s.width ∧ name ∉ s.names := by
  obtain ⟨stage, hop⟩ := opens_singleton_iff.mp h
  cases hop with
  | insert hinsert hbind => exact Schema.insert_name_fits hinsert

/-- Validation keeps the same names in the same order. -/
theorem Step.columnsAfter_insert {s : Schema} {name : String} {position : Option UInt64}
    (value : Value) (hnew : name ∉ s.names)
    (hpos : (position.map UInt64.toNat).getD s.width ≤ s.width) :
    (Step.insert name position value).columnsAfter s.names =
      s.names.take ((position.map UInt64.toNat).getD s.width) ++
        name :: s.names.drop ((position.map UInt64.toNat).getD s.width) := by
  cases position with
  | none => simp [columnsAfter, hnew, Schema.width]
  | some pos =>
    have hnear : ¬s.names.length < pos.toNat := Nat.not_lt.mpr hpos
    simp [columnsAfter, hnew, hnear]

/-- An update whose function binds opens where its columns are. -/
theorem opens_update_iff {s out : Schema} {columns : List String} {func bound : UpdateFunc}
    (hbind : func.bind s = .ok bound) (old : columns.map ColumnRef.name ≠ []) :
    Opens s [.update (columns.map .name) func old] out ↔
      (∀ column ∈ columns, column ∈ s.names) ∧ out = s := by
  rw [opens_singleton_iff]
  constructor
  · rintro ⟨stage, hop⟩
    cases hop with
    | update hresolve hbound => exact ⟨Schema.mem_of_resolveAll_names hresolve, rfl⟩
  · rintro ⟨hall, rfl⟩
    exact ⟨_, .update (Schema.resolveAll_names hall) hbind⟩

/-- The function of a value or a mapping uses no columns. -/
theorem bind_updateFunc? {s : Schema} {value : Option Value} {mapping : Option (Mapping Value)}
    {func : UpdateFunc} (hfunc : updateFunc? value mapping = some func) :
    func.bind s = .ok func := by
  unfold updateFunc? at hfunc
  split at hfunc
  · cases hfunc
    rfl
  · cases hfunc
    rfl
  · cases hfunc

namespace Tidying

/-- The operator that cleans one column. -/
def operator (op : Tidying) (column : String) : Operator :=
  .update [.name column] (.expr (.text op.textOp (Expr.ofColumn (.name column)) true)) (by simp)

theorem bind_cleaned_eq_ok_iff {s : Schema} (op : Tidying) {column : String}
    {bound : UpdateFunc} :
    UpdateFunc.bind s (.expr (.text op.textOp (Expr.ofColumn (.name column)) true)) = .ok bound ↔
      column ∈ s.names ∧
        bound = .expr (.text op.textOp (.column ⟨.name column, some (s.names.idxOf column)⟩)
          true) := by
  simp only [UpdateFunc.bind, Expr.bind, Result.map_eq_ok_iff, bind_ofColumn_eq_ok_iff, and_assoc,
    exists_and_left, exists_eq_left, exists_eq_left', @eq_comm _ bound]

/-- What cleans one column opens where the column is. -/
theorem opens_operator_iff {s out : Schema} (op : Tidying) {column : String} :
    Opens s [op.operator column] out ↔ column ∈ s.names ∧ out = s := by
  rw [opens_singleton_iff]
  constructor
  · rintro ⟨stage, hop⟩
    cases hop with
    | update hresolve hbound => exact ⟨(op.bind_cleaned_eq_ok_iff.mp hbound).1, rfl⟩
  · rintro ⟨hmem, rfl⟩
    have hresolve : out.resolveAll ([column].map .name) = .ok _ :=
      Schema.resolveAll_names (by simpa using hmem)
    exact ⟨_, .update hresolve (op.bind_cleaned_eq_ok_iff.mpr ⟨hmem, rfl⟩)⟩

theorem opens_operators_iff {s out : Schema} (op : Tidying) {columns : List String} :
    Opens s (columns.map op.operator) out ↔ (∀ column ∈ columns, column ∈ s.names) ∧ out = s := by
  induction columns with
  | nil => simp [opens_nil_iff, eq_comm]
  | cons column columns ih =>
    rw [List.map_cons, ← List.singleton_append, opens_append_iff]
    simp only [op.opens_operator_iff, and_assoc, exists_and_left, exists_eq_left, ih,
      List.forall_mem_cons]

theorem extend_eq (op : Tidying) (p : Pipeline) (columns : List String) :
    op.extend p columns = .ok ⟨p.source, p.operators ++ columns.map op.operator⟩ := by
  induction columns generalizing p with
  | nil => simp [extend]
  | cons column columns ih =>
    have hbuilt : p.update [.name column]
        (.expr (.text op.textOp (Expr.ofColumn (.name column)) true)) =
          .ok (p.append (op.operator column)) := rfl
    rw [extend, hbuilt]
    simp only
    rw [ih]
    simp [Pipeline.append]

end Tidying

/-! ## What a step makes -/

variable [Pattern.Engine]

namespace Step

/-- The operators of a step, for each kind of step. -/
inductive Makes : Step → List Operator → Prop
  | select {columns : List String} :
      Makes (.select columns none) [.select (columns.map .name)]
  /-- A selection under new names is a selection and a renaming of all that it took. -/
  | selectAs {columns names : List String}
      (named : names.length = ((List.range columns.length).map ColumnRef.position).length) :
      Makes (.select columns (some names))
        [.select (columns.map .name),
          .rename ((List.range columns.length).map .position) names named]
  | rename {mapping : Mapping String} : Makes (.rename mapping) [mapping.renaming]
  | filter {condition : Condition} {p : Predicate} (hp : condition.predicate = .ok p) :
      Makes (.filter condition) [.filter p false]
  | delete {condition : Condition} {p : Predicate} (hp : condition.predicate = .ok p) :
      Makes (.delete condition) [.filter p true]
  | limit {rows : UInt64} : Makes (.limit rows) [.limit rows.toNat]
  | insert {name : String} {position : Option UInt64} {value : Value} :
      Makes (.insert name position value)
        [.insert [name] (position.map UInt64.toNat) (.const value) (by simp) rfl]
  | update {columns : List String} {value : Option Value} {mapping : Option (Mapping Value)}
      {func : UpdateFunc} (hfunc : updateFunc? value mapping = some func)
      (old : columns.map ColumnRef.name ≠ []) :
      Makes (.update columns value mapping) [.update (columns.map .name) func old]
  | typecastAll : Makes (.typecast none) [.typecast {}]
  | typecast {types : List RawType} : Makes (.typecast (some types)) [.typecast ⟨types⟩]
  | tidy {op : Tidying} {columns : List String} :
      Makes (.tidy op columns) (columns.map op.operator)

theorem Makes.extend_eq {step : Step} {ops : List Operator} (h : step.Makes ops) (p : Pipeline) :
    step.extend p = .ok ⟨p.source, p.operators ++ ops⟩ := by
  cases h with
  | select | limit | insert | typecastAll | typecast => rfl
  | selectAs named =>
    simp [extend, Pipeline.selectAs, Operator.ofRename, named, Except.map, Pipeline.select,
      Pipeline.append]
  | rename =>
    simp [extend, Pipeline.rename, Operator.ofRename, Mapping.names, Mapping.values,
      Mapping.renaming, Except.map, Pipeline.append]
  | filter hp | delete hp =>
    rw [extend, hp]
    rfl
  | update hfunc old =>
    simp [extend, hfunc, Pipeline.update, Operator.ofUpdate, old, Except.map, Pipeline.append]
  | tidy => rw [extend, Tidying.extend_eq, Result.mapError_ok]

theorem makes_of_extend {step : Step} {p q : Pipeline} (hq : step.extend p = .ok q) :
    ∃ ops, step.Makes ops ∧ q = ⟨p.source, p.operators ++ ops⟩ := by
  cases step with
  | select columns names =>
    cases names with
    | none =>
      cases hq
      exact ⟨_, .select, rfl⟩
    | some names =>
      obtain ⟨rename, hrename, rfl⟩ := Result.map_eq_ok_iff.mp (Result.mapError_eq_ok_iff.mp hq)
      unfold Operator.ofRename at hrename
      split at hrename
      · rename_i named
        cases hrename
        exact ⟨_, .selectAs (by simpa using named), by simp [Pipeline.select, Pipeline.append]⟩
      · cases hrename
  | rename mapping =>
    -- a mapping has as many new names as old ones, so its renaming is always built
    have hmakes : (Step.rename mapping).Makes [mapping.renaming] := .rename
    rw [hmakes.extend_eq] at hq
    cases hq
    exact ⟨_, hmakes, rfl⟩
  | filter condition =>
    obtain ⟨predicate, hp, rfl⟩ := Result.map_eq_ok_iff.mp (Result.mapError_eq_ok_iff.mp hq)
    exact ⟨_, .filter hp, rfl⟩
  | delete condition =>
    obtain ⟨predicate, hp, rfl⟩ := Result.map_eq_ok_iff.mp (Result.mapError_eq_ok_iff.mp hq)
    exact ⟨_, .delete hp, rfl⟩
  | limit rows =>
    cases hq
    exact ⟨_, .limit, rfl⟩
  | insert name position value =>
    cases hq
    exact ⟨_, .insert, rfl⟩
  | update columns value mapping =>
    rw [extend] at hq
    split at hq
    · rename_i func hfunc
      obtain ⟨update, hupdate, rfl⟩ := Result.map_eq_ok_iff.mp (Result.mapError_eq_ok_iff.mp hq)
      unfold Operator.ofUpdate at hupdate
      split at hupdate
      · cases hupdate
      · rename_i old
        cases hupdate
        exact ⟨_, .update hfunc old, rfl⟩
    · cases hq
  | typecast types =>
    cases types with
    | none =>
      cases hq
      exact ⟨_, .typecastAll, rfl⟩
    | some types =>
      cases hq
      exact ⟨_, .typecast, rfl⟩
  | tidy op columns =>
    rw [extend, Tidying.extend_eq] at hq
    cases hq
    exact ⟨_, .tidy, rfl⟩

/-- A step extends every pipeline by the operators that it makes, and no pipeline if it makes
none. -/
theorem extend_eq_ok_iff {step : Step} {p q : Pipeline} :
    step.extend p = .ok q ↔ ∃ ops, step.Makes ops ∧ q = ⟨p.source, p.operators ++ ops⟩ := by
  constructor
  · exact makes_of_extend
  · rintro ⟨ops, hmakes, rfl⟩
    exact hmakes.extend_eq p

theorem Makes.unique {step : Step} {ops ops' : List Operator} (h : step.Makes ops)
    (h' : step.Makes ops') : ops = ops' := by
  have hsame := (h.extend_eq default).symm.trans (h'.extend_eq default)
  simpa using hsame

end Step

theorem extendBySteps_cons_eq_ok_iff {place : Nat} {step : Step} {steps : List Step}
    {p q : Pipeline} :
    extendBySteps place p (step :: steps) = .ok q ↔
      ∃ mid, step.extend p = .ok mid ∧ extendBySteps (place + 1) mid steps = .ok q := by
  rw [extendBySteps]
  cases step.extend p <;> simp

/-- Steps put the operators that each of them makes behind a pipeline, in order, and change
nothing else of it. -/
theorem extendBySteps_eq_ok_iff {place : Nat} {steps : List Step} {p q : Pipeline} :
    extendBySteps place p steps = .ok q ↔
      ∃ made, List.Forall₂ Step.Makes steps made ∧
        q = ⟨p.source, p.operators ++ made.flatten⟩ := by
  induction steps generalizing place p with
  | nil => simp [extendBySteps, eq_comm]
  | cons step steps ih =>
    rw [extendBySteps_cons_eq_ok_iff]
    constructor
    · rintro ⟨mid, hstep, hsteps⟩
      obtain ⟨ops, hops, rfl⟩ := Step.extend_eq_ok_iff.mp hstep
      obtain ⟨made, hmade, rfl⟩ := ih.mp hsteps
      exact ⟨ops :: made, .cons hops hmade, by simp⟩
    · rintro ⟨_, hmade, rfl⟩
      cases hmade with
      | cons hops hmade =>
        refine ⟨_, hops.extend_eq p, ih.mpr ⟨_, hmade, ?_⟩⟩
        simp

theorem extendBySteps_appends {place : Nat} {steps : List Step} {p q : Pipeline}
    (hq : extendBySteps place p steps = .ok q) : ∃ ops, q = ⟨p.source, p.operators ++ ops⟩ := by
  obtain ⟨made, -, rfl⟩ := extendBySteps_eq_ok_iff.mp hq
  exact ⟨_, rfl⟩

end TableFlow
