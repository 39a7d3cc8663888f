import TableFlow.Pattern.Grammar
import TableFlow.Proofs.Json.Record
import TableFlow.Proofs.Value.Json
import TableFlow.Spec.Validation

/-!
# Specifications written and read back

Main statement: `PipelineSpec.parse?_jsonText_iff`, a specification without doubles is
read back from its text as it was, exactly if no update sets a column to nothing.

* `PipelineSpec.reread` is what such a text stands for: an update to nothing has lost
  its value, as the text says `null` for a value that is absent;
* `Condition.ofJson?_toJson`, `Step.ofJson?_toJson` and `PipelineSpec.ofJson?_toJson` go
  through the records, one case a kind;
* `PipelineSpec.toJson_plain` is what the reader of documents asks for.
-/

namespace TableFlow

open Json (present ofStrings ofMapping ofWord string? word? plain_of_mem_present ofStrings_plain
  ofWord_plain ofMapping_plain)

/-! ## Constants -/

/-- The constant of a condition has no doubles. -/
def Condition.FloatFree : Condition → Prop
  | .compare _ _ value => value.FloatFree
  | .isEmpty _ | .matchText _ _ _ => True

/-- The constants of a step have no doubles. -/
def Step.FloatFree : Step → Prop
  | .filter condition | .delete condition => condition.FloatFree
  | .insert _ _ value => value.FloatFree
  | .update _ value mapping =>
    (∀ v, value = some v → v.FloatFree) ∧
      ∀ m, mapping = some m → ∀ v ∈ m.values, v.FloatFree
  | .select _ _ | .rename _ | .limit _ | .typecast _ | .tidy _ _ => True

/-- The constants of a specification have no doubles. -/
def PipelineSpec.FloatFree (spec : PipelineSpec) : Prop := ∀ step ∈ spec.steps, step.FloatFree

/-! ## Decoding records -/

theorem RawType.ofJson?_name (t : RawType) : RawType.ofJson? (.str t.name) = some t := by
  cases t <;> rfl

theorem InputConfig.ofJson?_toJson (input : InputConfig) :
    InputConfig.ofJson? input.toJson = some input := by
  obtain ⟨path, delimiter, header⟩ := input
  cases path <;> cases delimiter <;> cases header <;>
    simp [InputConfig.toJson, InputConfig.ofJson?, present, Json.record?]

theorem OutputConfig.ofJson?_toJson (output : OutputConfig) :
    OutputConfig.ofJson? output.toJson = some output := by
  obtain ⟨path, delimiter⟩ := output
  cases delimiter <;> rfl

theorem Condition.ofJson?_toJson {condition : Condition} (hfree : condition.FloatFree) :
    Condition.ofJson? condition.toJson = some condition := by
  cases condition with
  | compare op column value =>
    have hvalue := Value.ofJson?_toJson hfree
    cases op <;>
      simp [Condition.toJson, Condition.ofJson?, Json.tagged?, testName?, CompareOp.name,
        CompareOp.ofName?, compareOfJson?, Json.record?, string?, hvalue]
  | isEmpty column => rfl
  | matchText column pattern whole => rfl

/-! ## Steps -/

/-- What a step is read back as. An update to nothing is one without a value. -/
def Step.reread : Step → Step
  | .update columns (some .null) mapping => .update columns none mapping
  | step => step

theorem Step.reread_update (columns : List String) (value : Option Value)
    (mapping : Option (Mapping Value)) :
    (Step.update columns value mapping).reread =
      .update columns (value.bind fun v => if v = .null then none else some v) mapping := by
  cases value with
  | none => rfl
  | some v => cases v <;> rfl

/-- A step is read back as it was, unless it is an update to nothing. -/
theorem Step.reread_eq_self_iff {step : Step} :
    step.reread = step ↔ ∀ columns mapping, step ≠ .update columns (some .null) mapping := by
  unfold reread
  split
  · rename_i columns mapping
    constructor
    · intro heq
      cases heq
    · intro h
      exact absurd rfl (h columns mapping)
  · rename_i hother
    exact ⟨fun _ columns mapping heq => hother columns mapping heq, fun _ => rfl⟩

theorem Value.toJson_ne_null {v : Value} (hfree : v.FloatFree) (hv : v ≠ .null) :
    v.toJson ≠ .null := by
  cases v with
  | null => exact absurd rfl hv
  | float x => exact hfree.elim
  | bool _ | int _ | str _ | list _ =>
    intro heq
    cases heq

namespace Step

theorem op_not_mem_fields (step : Step) : "op" ∉ step.fields.map Prod.fst := by
  cases step with
  | select columns names => cases names <;> simp [fields, present]
  | insert name position value => cases position <;> simp [fields, present]
  | update columns value mapping => cases value <;> cases mapping <;> simp [fields, present]
  | typecast types => cases types <;> simp [fields, present]
  | rename _ | filter _ | delete _ | limit _ | tidy _ _ => simp [fields]

/-- A step is decoded from its fields. -/
theorem ofFields?_fields {step : Step} (hfree : step.FloatFree) :
    ofFields? step.label (.obj step.fields) = some step.reread := by
  cases step with
  | select columns names =>
    cases names <;> simp [ofFields?, fields, label, reread, present, Json.record?]
  | rename mapping =>
    have hmapping : Json.mapping? string? (ofMapping .str mapping) = some mapping :=
      Json.mapping?_ofMapping fun _ _ => rfl
    simp [ofFields?, fields, label, reread, Json.record?, hmapping]
  | filter condition =>
    simp [ofFields?, fields, label, reread, Json.record?, Condition.ofJson?_toJson hfree]
  | delete condition =>
    simp [ofFields?, fields, label, reread, Json.record?, Condition.ofJson?_toJson hfree]
  | limit rows =>
    simp [ofFields?, fields, label, reread, Json.record?]
  | insert name position value =>
    have hvalue := Value.ofJson?_toJson hfree
    cases position <;>
      simp [ofFields?, fields, label, reread, present, Json.record?, string?, hvalue]
  | update columns value mapping =>
    obtain ⟨hvalue, hvalues⟩ := hfree
    -- the text of a value that is nothing is that of an absent one
    have hread : ∀ v, value = some v → Json.nullable? Value.ofJson? v.toJson =
        some (if v = .null then none else some v) := by
      intro v hv
      by_cases hnull : v = .null
      · subst hnull
        rfl
      · rw [if_neg hnull]
        exact Json.nullable?_of_decoded (Value.toJson_ne_null (hvalue v hv) hnull)
          (Value.ofJson?_toJson (hvalue v hv))
    have hkept : ∀ m, mapping = some m →
        Json.nullable? (Json.mapping? Value.ofJson?) (ofMapping Value.toJson m) =
          some (some m) := by
      intro m hm
      exact Json.nullable?_of_decoded (by simp [ofMapping])
        (Json.mapping?_ofMapping fun v hv => Value.ofJson?_toJson (hvalues m hm v hv))
    rw [reread_update]
    cases value with
    | none =>
      cases mapping with
      | none => simp [ofFields?, fields, label, present, Json.record?]
      | some m => simp [ofFields?, fields, label, present, Json.record?, hkept m rfl]
    | some v =>
      cases mapping with
      | none => simp [ofFields?, fields, label, present, Json.record?, hread v rfl]
      | some m => simp [ofFields?, fields, label, present, Json.record?, hread v rfl, hkept m rfl]
  | typecast types =>
    cases types with
    | none => simp [ofFields?, fields, label, reread, present, Json.record?]
    | some types =>
      have harray : Json.array? RawType.ofJson? (ofStrings (types.map RawType.name)) =
          some types := by
        rw [ofStrings, List.map_map]
        have hmap := Json.array?_map id types fun t _ => RawType.ofJson?_name t
        rw [List.map_id] at hmap
        exact hmap
      have hread : Json.nullable? (Json.array? RawType.ofJson?)
          (ofStrings (types.map RawType.name)) = some (some types) :=
        Json.nullable?_of_decoded (by simp [ofStrings]) harray
      simp [ofFields?, fields, label, reread, present, Json.record?, hread]
  | tidy op columns =>
    cases op <;>
      simp [ofFields?, fields, label, reread, Tidying.name, tidyOfJson?, Json.record?]

theorem ofJson?_toJson {step : Step} (hplain : step.toJson.Plain) (hfree : step.FloatFree) :
    Step.ofJson? step.toJson = some step.reread := by
  have hrange : step.toJson.inRange = true := Json.inRange_of_plain hplain
  have htag : Json.tagged? "op" step.toJson = some (.str step.label, .obj step.fields) :=
    Json.tagged?_cons step.op_not_mem_fields
  rw [Step.ofJson?, hrange, htag]
  exact ofFields?_fields hfree

end Step

/-! ## Plain documents -/

theorem Condition.toJson_plain {condition : Condition} (hfree : condition.FloatFree) :
    condition.toJson.Plain := by
  cases condition with
  | compare op column value => exact ⟨trivial, trivial, Value.toJson_plain hfree, trivial⟩
  | isEmpty column => exact ⟨trivial, trivial, trivial⟩
  | matchText column pattern whole => exact ⟨trivial, trivial, trivial, trivial, trivial⟩

theorem Step.toJson_plain {step : Step} (hfree : step.FloatFree) : step.toJson.Plain := by
  refine Json.plainMembers_iff.mpr (List.forall_mem_cons.mpr ⟨trivial, ?_⟩)
  cases step with
  | select columns names =>
    exact List.forall_mem_cons.mpr ⟨ofStrings_plain columns,
      plain_of_mem_present fun names _ => ofStrings_plain names⟩
  | rename mapping =>
    have hmapping : (ofMapping Json.str mapping).Plain := ofMapping_plain fun _ _ => trivial
    simpa [fields] using hmapping
  | filter condition =>
    have hcondition := Condition.toJson_plain hfree
    simpa [fields] using hcondition
  | delete condition =>
    have hcondition := Condition.toJson_plain hfree
    simpa [fields] using hcondition
  | limit rows =>
    have hrows := ofWord_plain rows
    simpa [fields] using hrows
  | insert name position value =>
    have hvalue : ∀ m ∈ [("value", value.toJson)], m.2.Plain := by
      simpa using Value.toJson_plain hfree
    exact List.forall_mem_cons.mpr ⟨trivial, List.forall_mem_append.mpr
      ⟨plain_of_mem_present fun position _ => ofWord_plain position, hvalue⟩⟩
  | update columns value mapping =>
    obtain ⟨hvalue, hvalues⟩ := hfree
    have hfirst : ∀ m ∈ present "value" Value.toJson value, m.2.Plain :=
      plain_of_mem_present fun v hv => Value.toJson_plain (hvalue v hv)
    have hsecond : ∀ m ∈ present "mapping" (ofMapping Value.toJson) mapping, m.2.Plain :=
      plain_of_mem_present fun m hm =>
        ofMapping_plain fun v hv => Value.toJson_plain (hvalues m hm v hv)
    exact List.forall_mem_cons.mpr
      ⟨ofStrings_plain columns, List.forall_mem_append.mpr ⟨hfirst, hsecond⟩⟩
  | typecast types => exact plain_of_mem_present fun types _ => ofStrings_plain _
  | tidy op columns =>
    have hcolumns := ofStrings_plain columns
    simpa [fields] using hcolumns

/-! ## Specifications -/

namespace PipelineSpec

/-- What a specification is read back as. -/
def reread (spec : PipelineSpec) : PipelineSpec :=
  { spec with steps := spec.steps.map Step.reread }

theorem toJson_plain {spec : PipelineSpec} (hfree : spec.FloatFree) : spec.toJson.Plain := by
  have hinput : spec.input.toJson.Plain := by
    refine Json.plainMembers_iff.mpr ?_
    simp only [List.forall_mem_append]
    exact ⟨⟨plain_of_mem_present fun _ _ => trivial, plain_of_mem_present fun _ _ => trivial⟩,
      plain_of_mem_present fun names _ => ofStrings_plain names⟩
  have hsteps : (Json.arr (spec.steps.map Step.toJson)).Plain := by
    refine Json.plainItems_iff.mpr ?_
    intro j hj
    obtain ⟨step, hstep, rfl⟩ := List.mem_map.mp hj
    exact Step.toJson_plain (hfree step hstep)
  have houtput : ∀ output : OutputConfig, output.toJson.Plain := by
    intro output
    exact Json.plainMembers_iff.mpr (List.forall_mem_cons.mpr
      ⟨trivial, plain_of_mem_present fun _ _ => trivial⟩)
  refine Json.plainMembers_iff.mpr ?_
  simp only [List.forall_mem_append]
  refine ⟨⟨⟨?_, plain_of_mem_present fun _ _ => trivial⟩, ?_⟩,
    plain_of_mem_present fun output _ => houtput output⟩
  · simp [Json.Plain]
  · simpa using ⟨hinput, hsteps⟩

theorem ofJson?_toJson {spec : PipelineSpec} (hfree : spec.FloatFree) :
    ofJson? spec.toJson = some spec.reread := by
  have hsteps : Json.array? Step.ofJson? (.arr (spec.steps.map Step.toJson)) =
      some (spec.steps.map Step.reread) :=
    Json.array?_map Step.reread spec.steps fun step hstep =>
      Step.ofJson?_toJson (Step.toJson_plain (hfree step hstep)) (hfree step hstep)
  have houtput : ∀ output : OutputConfig,
      Json.nullable? OutputConfig.ofJson? output.toJson = some (some output) :=
    fun output => Json.nullable?_of_decoded (by simp [OutputConfig.toJson]) output.ofJson?_toJson
  obtain ⟨version, name, description, input, steps, output⟩ := spec
  cases description <;> cases output <;>
    simp [toJson, ofJson?, reread, present, Json.record?, string?, hsteps, houtput,
      InputConfig.ofJson?_toJson]

/-- A specification is read back up to updates to nothing. -/
theorem parse?_jsonText {spec : PipelineSpec} (hfree : spec.FloatFree)
    (hdepth : spec.toJson.depth ≤ Json.maxDepth) : parse? spec.jsonText = some spec.reread := by
  rw [parse?, jsonText, String.toList_ofList, Json.pretty,
    Json.parse?_write .pretty (toJson_plain hfree) hdepth]
  exact ofJson?_toJson hfree

theorem reread_eq_self_iff {spec : PipelineSpec} :
    spec.reread = spec ↔
      ∀ columns mapping, Step.update columns (some .null) mapping ∉ spec.steps := by
  have hmap : ∀ steps : List Step, steps.map Step.reread = steps ↔
      ∀ step ∈ steps, step.reread = step := by
    intro steps
    induction steps with
    | nil => simp
    | cons step steps ih => simp [ih]
  have hsteps : spec.reread = spec ↔ spec.steps.map Step.reread = spec.steps := by
    cases spec
    simp [reread]
  rw [hsteps, hmap]
  constructor
  · intro h columns mapping hmem
    exact Step.reread_eq_self_iff.mp (h _ hmem) columns mapping rfl
  · intro h step hmem
    refine Step.reread_eq_self_iff.mpr fun columns mapping heq => ?_
    exact h columns mapping (heq ▸ hmem)

/-- A specification without doubles, and not nested deeper than the reader goes, is read
back from its text as it was, if and only if it has no update to nothing. -/
theorem parse?_jsonText_iff {spec : PipelineSpec} (hfree : spec.FloatFree)
    (hdepth : spec.toJson.depth ≤ Json.maxDepth) :
    parse? spec.jsonText = some spec ↔
      ∀ columns mapping, Step.update columns (some .null) mapping ∉ spec.steps := by
  rw [parse?_jsonText hfree hdepth, Option.some.injEq]
  exact reread_eq_self_iff

/-- A specification with fields of every shape: nested constants, an order of entries that
is not that of their names, and parts that are absent. -/
def archive : PipelineSpec :=
  { version := "0.1"
    name := "archive"
    description := some "fills \"gaps\"\n"
    input := { path := some "in.csv", header := some ["b", "a"] }
    steps := [
      .rename ⟨[("b", "y"), ("a", "x")], by decide⟩,
      .filter (.compare .ge "x" (.list [.int (-5), .list [.null, .bool true]])),
      .insert "n" (some 0) .null,
      .update ["x"] none (some ⟨[("z", .null), ("b", .str "B")], by decide⟩),
      .typecast (some [.int, .bool]),
      .tidy .trim ["y"]]
    output := some { path := "out.tsv", delimiter := some "tab" } }

theorem archive_parse?_jsonText :
    archive.FloatFree ∧ archive.toJson.depth ≤ Json.maxDepth ∧
      (∀ columns mapping, Step.update columns (some .null) mapping ∉ archive.steps) ∧
      parse? archive.jsonText = some archive := by
  have hfree : archive.FloatFree := by
    simp [FloatFree, archive, Step.FloatFree, Condition.FloatFree, Value.FloatFree,
      Value.FloatFreeList, Mapping.values]
    rintro v x (⟨-, rfl⟩ | ⟨-, rfl⟩) <;> trivial
  have hdepth : archive.toJson.depth ≤ Json.maxDepth := by decide
  have hupdates : ∀ columns mapping, Step.update columns (some .null) mapping ∉ archive.steps := by
    simp [archive]
  exact ⟨hfree, hdepth, hupdates, (parse?_jsonText_iff hfree hdepth).mpr hupdates⟩

/-- Sets a column to nothing. -/
def erasure : PipelineSpec :=
  { version := "0.1", name := "erasure", steps := [.update ["a"] (some .null) none] }

/-- An update to nothing is read back without its value, and is then no update at all:
what was a specification without findings has one. -/
theorem erasure_not_read_back :
    erasure.FloatFree ∧ erasure.toJson.depth ≤ Json.maxDepth ∧
      parse? erasure.jsonText = some { erasure with steps := [.update ["a"] none none] } ∧
      parse? erasure.jsonText ≠ some erasure ∧
      erasure.findings ["a"] = [] ∧
      erasure.reread.findings ["a"] = [⟨some 0, .updateSource⟩] := by
  have hfree : erasure.FloatFree := by
    simp [FloatFree, erasure, Step.FloatFree, Value.FloatFree]
  have hdepth : erasure.toJson.depth ≤ Json.maxDepth := by decide
  have hread : parse? erasure.jsonText =
      some { erasure with steps := [.update ["a"] none none] } := parse?_jsonText hfree hdepth
  refine ⟨hfree, hdepth, hread, ?_, rfl, rfl⟩
  rw [hread]
  decide

end PipelineSpec

end TableFlow
