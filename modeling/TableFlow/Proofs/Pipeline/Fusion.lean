import TableFlow.Proofs.Pipeline.Exchange

/-!
# Filters in one

Filters that stand behind each other are one filter: that of the conjunction of their predicates,
or of the disjunction if they drop what they find. A later predicate is evaluated on the rows that
the earlier ones have let through, and so it is in a conjunction or a disjunction, where an
earlier part may decide.

* `openStages_filters` binds the predicates of several filters;
* `pushStages_filters` is one row in front of them;
* `filters_fuse` is the whole: the operators can be exchanged in every pipeline.
-/

namespace TableFlow

/-! ## Opening -/

/-- Filters open if their predicates bind, the first one that does not decides. -/
theorem openStages_filters (s : Schema) (ps : List Predicate) (negated : Bool) :
    openStages s (ps.map (.filter · negated)) =
      (Predicate.bindAll s ps).map fun bound => (bound.map (.filter · negated), s) := by
  induction ps with
  | nil => rfl
  | cons p ps ih =>
    rw [List.map_cons, openStages, Operator.openOn, Predicate.bindAll]
    cases p.bind s with
    | error e => rfl
    | ok bound =>
      simp only [Except.map, ih]
      cases Predicate.bindAll s ps <;> rfl

theorem openStages_filter (s : Schema) (p : Predicate) (negated : Bool) :
    openStages s [.filter p negated] =
      (p.bind s).map fun bound => ([.filter bound negated], s) := by
  rw [openStages, Operator.openOn]
  cases p.bind s <;> rfl

/-! ## One row -/

/-- What a filter makes of a row on which its predicate has this outcome. -/
def Row.sifted (row : Row) (negated : Bool) (outcome : Result Bool) : Result (Option Row) :=
  outcome.map fun holds => if holds != negated then some row else none

theorem pushStages_filter (row : Row) (p : Predicate) (negated : Bool) (stages : List Stage) :
    (pushStages row (.filter p negated :: stages)).row =
      match row.sifted negated (p.eval row) with
      | .error e => .error e
      | .ok none => .ok none
      | .ok (some _) => (pushStages row stages).row := by
  rw [pushStages_cons, Stage.flow, Row.sifted]
  rcases p.eval row with e | holds
  · rfl
  · simp only [Except.map]
    cases holds != negated <;> rfl

theorem pushStages_single_filter (row : Row) (p : Predicate) (negated : Bool) :
    (pushStages row [.filter p negated]).row = row.sifted negated (p.eval row) := by
  rw [pushStages_filter, Row.sifted]
  rcases p.eval row with e | holds
  · rfl
  · simp only [Except.map]
    cases holds != negated <;> rfl

/-- A row comes out of several filters as if the first outcome that is against it decided: one
that does not hold, or that holds if they drop what they find. -/
theorem pushStages_filters (row : Row) (negated : Bool) (ps : List Predicate) :
    (pushStages row (ps.map (.filter · negated))).row =
      row.sifted negated (firstUnlike (!negated) (Predicate.outcomes row ps)) := by
  induction ps with
  | nil => cases negated <;> rfl
  | cons p ps ih =>
    rw [List.map_cons, pushStages_filter, Predicate.outcomes]
    rcases p.eval row with e | holds
    · rfl
    · cases negated <;> cases holds
      · rfl
      · exact ih
      · exact ih
      · rfl

theorem not_limit_of_filters (ps : List Predicate) (negated : Bool) :
    ∀ stage ∈ ps.map (Stage.filter · negated), stage.isLimit = false := by
  intro stage hstage
  obtain ⟨p, -, rfl⟩ := List.mem_map.mp hstage
  rfl

/-! ## Exchanging -/

/-- Filters open as one with a combination of their predicates does, if binding goes through to
the parts and the combination decides as the filters do one after the other. -/
theorem sameOpening_of_combination {ps : List Predicate} {negated : Bool}
    (combine : List Predicate → Predicate)
    (hbind : ∀ s, (combine ps).bind s = (Predicate.bindAll s ps).map combine)
    (heval : ∀ row bound, (combine bound).eval row =
      firstUnlike (!negated) (Predicate.outcomes row bound)) :
    SameOpening (ps.map (.filter · negated)) [.filter (combine ps) negated] := by
  intro s
  rw [openStages_filters, openStages_filter, hbind]
  cases Predicate.bindAll s ps with
  | error e => exact .inl ⟨e, rfl, rfl⟩
  | ok bound =>
    refine .inr ⟨_, _, rfl, rfl, ⟨not_limit_of_filters bound negated,
      not_limit_of_filters [_] negated, ?_⟩, rfl⟩
    intro row
    rw [pushStages_filters, pushStages_single_filter, heval]

theorem sameOpening_not (p : Predicate) :
    SameOpening [.filter p true] [.filter (.not p) false] := by
  intro s
  rw [openStages_filter, openStages_filter, Predicate.bind]
  cases p.bind s with
  | error e => exact .inl ⟨e, rfl, rfl⟩
  | ok bound =>
    refine .inr ⟨_, _, rfl, rfl, ⟨not_limit_of_filters [bound] true,
      not_limit_of_filters [.not bound] false, ?_⟩, rfl⟩
    intro row
    show (pushStages row [.filter bound true]).row =
      (pushStages row [.filter (.not bound) false]).row
    rw [pushStages_single_filter, pushStages_single_filter, Predicate.eval]
    rcases bound.eval row with e | _ | _ <;> rfl

/-- In every pipeline, several filters can be exchanged for one with the conjunction of their
predicates, several filters that drop what they find for one with their disjunction, and such a
filter for one with the negated predicate. -/
theorem filters_fuse {ps : List Predicate} (hps : ps ≠ []) :
    (∃ all, Predicate.ofAll ps = .ok all ∧
      Interchangeable (ps.map (.filter · false)) [.filter all false]) ∧
    (∃ any, Predicate.ofAny ps = .ok any ∧
      Interchangeable (ps.map (.filter · true)) [.filter any true]) ∧
    ∀ p, Interchangeable [.filter p true] [.filter (.not p) false] := by
  have hsome : ∀ negated, ps.map (Operator.filter · negated) ≠ [] := by
    intro negated
    simpa using hps
  have hempty : ps.isEmpty = false := by simpa using hps
  refine ⟨⟨.all ps, ?_, ?_⟩, ⟨.any ps, ?_, ?_⟩, ?_⟩
  · rw [Predicate.ofAll, hempty]
    rfl
  · exact (sameOpening_of_combination .all (fun s => by rw [Predicate.bind])
      fun row bound => by rw [Predicate.eval, Bool.not_false]).interchangeable
        (hsome false) (List.cons_ne_nil _ _)
  · rw [Predicate.ofAny, hempty]
    rfl
  · exact (sameOpening_of_combination .any (fun s => by rw [Predicate.bind])
      fun row bound => by rw [Predicate.eval, Bool.not_true]).interchangeable
        (hsome true) (List.cons_ne_nil _ _)
  · intro p
    exact (sameOpening_not p).interchangeable (List.cons_ne_nil _ _) (List.cons_ne_nil _ _)

/-- Two filters of which the second one cannot be evaluated on every row, and two that drop what
they find. The second predicate sees no row that the first one decides. -/
theorem two_filters_fuse :
    (∃ all, Predicate.ofAll [.isNull (.ofColumn (.name "a")), .holds (.ofColumn (.name "b"))] =
        .ok all ∧
      Interchangeable [.filter (.isNull (.ofColumn (.name "a"))) false,
        .filter (.holds (.ofColumn (.name "b"))) false] [.filter all false]) ∧
    ∃ any, Predicate.ofAny [.isNull (.ofColumn (.name "a")), .holds (.ofColumn (.name "b"))] =
        .ok any ∧
      Interchangeable [.filter (.isNull (.ofColumn (.name "a"))) true,
        .filter (.holds (.ofColumn (.name "b"))) true] [.filter any true] := by
  obtain ⟨hall, hany, -⟩ := filters_fuse
    (List.cons_ne_nil (.isNull (.ofColumn (.name "a"))) [.holds (.ofColumn (.name "b"))])
  exact ⟨hall, hany⟩

end TableFlow
