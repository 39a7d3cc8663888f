import TableFlow.Proofs.Schema.Cells
import TableFlow.Proofs.Spec.Tracking

/-!
# What the checks reject

A specification that builds and opens should have no findings. One kind of step breaks this:
a mapping renames all of its columns at once, while the checks rename them one after the
other, and reject a new name that a column still has whose own turn comes later.

* `renameProblems_eq_nil_iff` says when a mapping that opens passes the checks;
* `Step.problems_eq_nil_iff` is one step that opens, of any kind;
* `findings_eq_nil_iff_renamesInOrder` is the whole specification;
* `exchange_is_rejected` is a specification that opens and has a finding.
-/

namespace TableFlow

/-! ## Renaming -/

/-- A name at a position that no pair replaces stays. -/
theorem Schema.getElem?_replaceNames {width : Nat} {current final : List String}
    {pairs : List (Nat × String)} (h : replaceNames width current pairs = .ok final) {pos : Nat}
    (hpos : ∀ pair ∈ pairs, pair.1 ≠ pos) : final[pos]? = current[pos]? := by
  rw [replaceNames_eq_putAll h, getElem?_putAll_of_ne hpos]

/-- None of the new names is the old name of an entry that comes later. -/
def Mapping.InOrder (mapping : Mapping String) : Prop :=
  mapping.entries.Pairwise fun earlier later => earlier.2 ≠ later.1

instance (mapping : Mapping String) : Decidable mapping.InOrder :=
  inferInstanceAs (Decidable (List.Pairwise _ _))

section Entries

variable {width : Nat} {first current final : List String} {source target : String}
  {entries : List (String × String)}

/-- Where the names differ in the end, a new name is taken on the way only by a column whose
turn is still to come. -/
theorem blocked_iff (hkey : source ∉ entries.map Prod.fst)
    (hsource : current[first.idxOf source]? = some source)
    (hplace : ∀ entry ∈ entries, current[first.idxOf entry.1]? = some entry.1)
    (hreplaced : Schema.replaceNames width (current.set (first.idxOf source) target)
      (entries.map fun entry => (first.idxOf entry.1, entry.2)) = .ok final)
    (hfinal : final.Nodup) :
    source ≠ target ∧ target ∈ current ↔ ∃ later ∈ entries, target = later.1 := by
  have hlt : first.idxOf source < current.length := (List.getElem?_eq_some_iff.mp hsource).1
  constructor
  · rintro ⟨hne, hmem⟩
    by_contra hnone
    obtain ⟨pos, hpos⟩ := List.mem_iff_getElem?.mp hmem
    -- otherwise the name would stay where it is, besides the place where it is put
    have hsame : final[first.idxOf source]? = some target := by
      rw [Schema.getElem?_replaceNames hreplaced, List.getElem?_set_self hlt]
      intro pair hpair
      obtain ⟨entry, hentry, rfl⟩ := List.mem_map.mp hpair
      exact (idxOf_ne_of_key hkey hsource hplace entry hentry).symm
    have hother : final[pos]? = some target := by
      have hapart : first.idxOf source ≠ pos := by
        rintro rfl
        exact hne (Option.some.inj (hsource.symm.trans hpos))
      rw [Schema.getElem?_replaceNames hreplaced, List.getElem?_set_ne hapart, hpos]
      intro pair hpair hat
      obtain ⟨entry, hentry, rfl⟩ := List.mem_map.mp hpair
      have hthere : current[pos]? = some entry.1 := hat ▸ hplace entry hentry
      rw [hpos] at hthere
      exact hnone ⟨entry, hentry, Option.some.inj hthere⟩
    have hplaces : first.idxOf source = pos := by
      have hfound := (idxOf?_of_getElem? hfinal hsame).symm.trans (idxOf?_of_getElem? hfinal hother)
      exact Option.some.inj hfound
    rw [← hplaces, hsource] at hpos
    exact hne (Option.some.inj hpos)
  · rintro ⟨later, hlater, rfl⟩
    refine ⟨?_, List.mem_of_getElem? (hplace later hlater)⟩
    rintro rfl
    exact hkey (List.mem_map_of_mem hlater)

/-- Columns that can be renamed all at once can be renamed one after the other exactly if none
of the new names is the old name of a column whose turn comes later. -/
theorem renameProblems_eq_nil_iff (hnd : current.Nodup) (hkeys : (entries.map Prod.fst).Nodup)
    (hplace : ∀ entry ∈ entries, current[first.idxOf entry.1]? = some entry.1)
    (hreplaced : Schema.replaceNames width current
      (entries.map fun entry => (first.idxOf entry.1, entry.2)) = .ok final)
    (hfinal : final.Nodup) :
    renameProblems current entries = [] ↔
      entries.Pairwise fun earlier later => earlier.2 ≠ later.1 := by
  induction entries generalizing current with
  | nil => simp [renameProblems]
  | cons entry entries ih =>
    obtain ⟨source, target⟩ := entry
    obtain ⟨hkey, hkeys⟩ := List.nodup_cons.mp hkeys
    obtain ⟨hsource, hplace⟩ := List.forall_mem_cons.mp hplace
    rw [List.map_cons, Schema.replaceNames] at hreplaced
    split at hreplaced
    · have hblocked := blocked_iff hkey hsource hplace hreplaced hfinal
      rw [renameProblems, renameColumn_eq hnd hsource, List.pairwise_cons]
      by_cases htaken : source ≠ target ∧ target ∈ current
      · obtain ⟨later, hlater, hsame⟩ := hblocked.mp htaken
        rw [if_pos htaken]
        constructor
        · intro hclean
          cases hclean
        · rintro ⟨hfirst, -⟩
          exact absurd hsame (hfirst later hlater)
      · rw [if_neg htaken]
        have hrest := ih (nodup_set_of_free hnd hsource htaken) hkeys
          (getElem?_set_of_key hkey hsource hplace) hreplaced
        constructor
        · intro hclean
          refine ⟨?_, hrest.mp hclean⟩
          intro later hlater hsame
          exact htaken (hblocked.mpr ⟨later, hlater, hsame⟩)
        · rintro ⟨-, hpairs⟩
          exact hrest.mpr hpairs
    · cases hreplaced

end Entries

/-- The renaming of a mapping that opens passes the checks exactly if its entries come in
order. -/
theorem renameProblems_of_opens {s out : Schema} {mapping : Mapping String}
    (hopens : Opens s [mapping.renaming] out) :
    renameProblems s.names mapping.entries = [] ↔ mapping.InOrder := by
  obtain ⟨hall, hreplaced⟩ := replaceNames_of_opens hopens
  exact renameProblems_eq_nil_iff s.nodup mapping.nodup (Mapping.getElem?_position hall) hreplaced
    out.nodup

section Checks

variable [Pattern.Engine]

/-! ## Conditions -/

/-- A pattern that can be tied to a text is a pattern as it stands. -/
def Condition.PatternStands : Condition → Prop
  | .matchText _ pattern whole =>
    (∃ compiled, Pattern.anchored pattern whole = .ok compiled) →
      ∃ compiled, Pattern.Engine.compile pattern = .ok compiled
  | _ => True

/-- A condition with a predicate has no problems where its column is. -/
theorem Condition.problems_of_predicate {available : List String} {condition : Condition}
    {p : Predicate} (hp : condition.predicate = .ok p) (hstands : condition.PatternStands)
    (hmem : condition.column ∈ available) : condition.problems available = [] := by
  cases condition with
  | compare op column value => simpa [problems] using hmem
  | isEmpty column => simpa [problems] using hmem
  | matchText column pattern whole =>
    rw [predicate, Predicate.ofPattern] at hp
    split at hp
    · cases hp
    · rename_i anchored hanchored
      obtain ⟨compiled, hcompiled⟩ := hstands ⟨anchored, hanchored⟩
      simpa [problems, hcompiled] using hmem

/-! ## One step -/

namespace Step

/-- A selection takes some columns, and a conversion tries some types. -/
def ListsSomething : Step → Prop
  | .select columns _ => columns ≠ []
  | .typecast types => types ≠ some []
  | _ => True

/-- The pattern of a filtering step, if it has one, is a pattern as it stands. -/
def PatternStands : Step → Prop
  | .filter condition => condition.PatternStands
  | .delete condition => condition.PatternStands
  | _ => True

/-- A renaming step gives no column a name that is renamed behind it. -/
def RenamesInOrder : Step → Prop
  | .rename mapping => mapping.InOrder
  | _ => True

instance : DecidablePred RenamesInOrder
  | .rename mapping => inferInstanceAs (Decidable mapping.InOrder)
  | .select _ _ | .filter _ | .delete _ | .limit _ | .insert _ _ _ | .update _ _ _ | .typecast _
  | .tidy _ _ => inferInstanceAs (Decidable True)

/-- A step that opens passes the checks, unless it is a renaming out of order. -/
theorem problems_eq_nil_iff {s out : Schema} {step : Step} {ops : List Operator}
    (hlists : step.ListsSomething) (hstands : step.PatternStands) (hmakes : step.Makes ops)
    (hopens : Opens s ops out) : step.problems s.names = [] ↔ step.RenamesInOrder := by
  cases hmakes with
  | rename => exact renameProblems_of_opens hopens
  | select =>
    obtain ⟨hall, rfl⟩ := opens_select_iff.mp hopens
    refine iff_of_true (select_problems_eq_nil_iff.mpr ⟨hlists, hall, ?_, out.nodup⟩) trivial
    intro new hnew
    cases hnew
  | @selectAs columns names named =>
    rw [← List.singleton_append, opens_append_iff] at hopens
    obtain ⟨mid, hselect, hrename⟩ := hopens
    obtain ⟨hall, rfl⟩ := opens_select_iff.mp hselect
    obtain rfl := (opens_rename_all_iff named).mp hrename
    have hlen : out.names.length = mid.names.length := by simpa using named
    have hunique : (selectedNames mid.names (some out.names)).Nodup := by
      simpa [selectedNames, hlen] using out.nodup
    refine iff_of_true (select_problems_eq_nil_iff.mpr ⟨hlists, hall, ?_, hunique⟩) trivial
    intro new hnew
    cases hnew
    exact hlen
  | filter hp | delete hp =>
    obtain ⟨hmem, -⟩ := (opens_filter_iff hp).mp hopens
    exact iff_of_true (Condition.problems_of_predicate hp hstands hmem) trivial
  | insert =>
    obtain ⟨hpos, hnew⟩ := insert_fits_of_opens hopens
    exact iff_of_true (insert_problems_eq_nil_iff.mpr ⟨hnew, hpos⟩) trivial
  | update hfunc old =>
    obtain ⟨hall, -⟩ := (opens_update_iff (bind_updateFunc? hfunc) old).mp hopens
    exact iff_of_true (update_problems_eq_nil_iff.mpr ⟨hall, _, hfunc⟩) trivial
  | tidy =>
    obtain ⟨hall, -⟩ := (Tidying.opens_operators_iff _).mp hopens
    exact iff_of_true (missingColumns_eq_nil_iff.mpr hall) trivial
  | limit | typecastAll => exact iff_of_true rfl trivial
  | @typecast types =>
    cases types with
    | nil => exact absurd rfl hlists
    | cons first types => exact iff_of_true rfl trivial

end Step

/-! ## All steps -/

/-- Steps that open one after the other pass the checks exactly if all of their renamings come
in order. -/
theorem stepFindings_eq_nil_iff {place : Nat} {s out : Schema} {steps : List Step}
    {made : List (List Operator)} (hlists : ∀ step ∈ steps, step.ListsSomething)
    (hstands : ∀ step ∈ steps, step.PatternStands) (hmade : List.Forall₂ Step.Makes steps made)
    (hopens : Opens s made.flatten out) :
    stepFindings place s.names steps = [] ↔ ∀ step ∈ steps, step.RenamesInOrder := by
  induction hmade generalizing place s with
  | nil => simp [stepFindings]
  | @cons step ops steps made hmakes _ ih =>
    obtain ⟨hlist, hlists⟩ := List.forall_mem_cons.mp hlists
    obtain ⟨hstand, hstands⟩ := List.forall_mem_cons.mp hstands
    obtain ⟨mid, hfront, hback⟩ := opens_append_iff.mp hopens
    have hfirst := Step.problems_eq_nil_iff hlist hstand hmakes hfront
    rw [stepFindings_cons_eq_nil_iff, List.forall_mem_cons, hfirst]
    refine and_congr_right fun hinOrder => ?_
    -- behind a step in order, the checks know the columns that there are
    have hnames : mid.names = step.columnsAfter s.names :=
      Step.names_of_opens (hfirst.mpr hinOrder) hmakes.patternAnchors hmakes hfront
    rw [← hnames]
    exact ih hlists hstands hback

end Checks

/-- **What the checks reject.** A specification of the supported version whose selections and
conversions list something, and whose patterns that can be tied to a text are patterns as they
stand, builds and opens without findings exactly if no mapping gives a column the old name of
one that it renames later. -/
theorem findings_eq_nil_iff_renamesInOrder [Pattern.Engine] (spec : PipelineSpec)
    (source : Source) (s : Schema) (fs : FileSystem) (hsource : source.columns fs = .ok s fs)
    (hversion : spec.version = PipelineSpec.supportedVersion)
    (hlists : ∀ step ∈ spec.steps, step.ListsSomething)
    (hstands : ∀ step ∈ spec.steps, step.PatternStands)
    (hopens : ∃ p out, spec.build (Pipeline.ofSource source) = .ok p ∧
      p.columns fs = .ok out fs) :
    spec.findings s.names = [] ↔ ∀ step ∈ spec.steps, step.RenamesInOrder := by
  obtain ⟨p, out, hbuild, hcolumns⟩ := hopens
  obtain ⟨made, hmade, rfl⟩ := extendBySteps_eq_ok_iff.mp hbuild
  have hstages : Opens s ([] ++ made.flatten) out :=
    (Pipeline.columns_eq_ok_iff hsource).mp hcolumns
  rw [PipelineSpec.findings, if_pos hversion, List.nil_append]
  exact stepFindings_eq_nil_iff hlists hstands hmade hstages

/-- A mapping that hands names on from the last column to the first passes, and so does what
comes behind it. -/
theorem handover_findings_eq_nil :
    let source := Source.rows ⟨["a", "b", "c"], by decide⟩ []
    (∀ step ∈ PipelineSpec.handover.steps, step.ListsSomething) ∧
      (∀ step ∈ PipelineSpec.handover.steps, step.PatternStands) ∧
      (∃ p out, PipelineSpec.handover.build (Pipeline.ofSource source) = .ok p ∧
        p.columns .empty = .ok out .empty) ∧
      PipelineSpec.handover.findings ["a", "b", "c"] = [] := by
  have hlists : ∀ step ∈ PipelineSpec.handover.steps, step.ListsSomething := by
    simp [PipelineSpec.handover, Step.ListsSomething]
  have hstands : ∀ step ∈ PipelineSpec.handover.steps, step.PatternStands := by
    simp only [PipelineSpec.handover, List.forall_mem_cons, List.not_mem_nil, false_implies,
      implies_true, and_true]
    exact ⟨trivial, fun _ => ⟨_, rfl⟩, trivial, trivial⟩
  have hopens : ∃ p out, PipelineSpec.handover.build
      (Pipeline.ofSource (.rows ⟨["a", "b", "c"], by decide⟩ [])) = .ok p ∧
        p.columns .empty = .ok out .empty := ⟨_, _, rfl, rfl⟩
  exact ⟨hlists, hstands, hopens, (findings_eq_nil_iff_renamesInOrder _ _ _ .empty rfl rfl
    hlists hstands hopens).mpr (by decide)⟩

/-- Two columns that exchange their names. -/
def PipelineSpec.exchange : PipelineSpec :=
  .ofStep (.rename ⟨[("a", "b"), ("b", "a")], by decide⟩)

/-- The columns can exchange their names, and the checks find that each of the names is
taken. -/
theorem exchange_is_rejected :
    PipelineSpec.exchange.version = PipelineSpec.supportedVersion ∧
      (∀ step ∈ PipelineSpec.exchange.steps, step.ListsSomething ∧ step.PatternStands) ∧
      (∃ p out, PipelineSpec.exchange.build (Pipeline.ofSource Source.twoColumns) = .ok p ∧
        p.columns .empty = .ok out .empty ∧ out.names = ["b", "a"]) ∧
      PipelineSpec.exchange.findings ["a", "b"] =
        [⟨some 0, .renameTarget "a" "b"⟩, ⟨some 0, .renameTarget "b" "a"⟩] := by
  have hsteps : ∀ step ∈ PipelineSpec.exchange.steps, step.ListsSomething ∧ step.PatternStands := by
    intro step hstep
    cases List.mem_singleton.mp hstep
    exact ⟨trivial, trivial⟩
  exact ⟨rfl, hsteps, ⟨_, _, rfl, rfl, rfl⟩, rfl⟩

end TableFlow
