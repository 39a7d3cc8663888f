import TableFlow.Expr.Eval
import TableFlow.Proofs.Expr.Building

/-!
# Errors of expressions on rows

What is left to go wrong when an expression that has been built and bound is evaluated on a
row: values of the wrong kind, and the bodies of callables.

* `Callable.Fails` is a call with a number of arguments that the constructors let pass, and
  `Callable.Fails.raises` finds the body's own error in it when no lists are unpacked;
* `Error.OfCalls` puts together the type errors of values and the errors of the calls, each on
  the values of its arguments, and `Expr.Ready.error_of_eval` says that a row raises no others;
* `Error.OfRow` only names the callables, and `Expr.Built.error_of_eval` is the result for
  them, from the constructors on.
-/

namespace TableFlow

/-! ## Calls -/

namespace Arity

theorem error_of_check {a : Arity} {n : Nat} {e : Error} (h : a.check n = .error e) :
    ∃ expected, e = .arity expected n := by
  cases a with
  | exactly k =>
    rw [check] at h
    split at h <;> cases h
    exact ⟨k, rfl⟩
  | atLeast k =>
    rw [check] at h
    split at h <;> cases h
    exact ⟨k, rfl⟩
  | any => cases h

end Arity

namespace Callable

/-- The error is one of a call with a number of arguments that a constructor lets pass. -/
def Fails (f : Callable) (e : Error) : Prop :=
  ∃ args : List Value, f.Takes args.length ∧ f.call args = .error e

/-- The error is one of the callable's body, on a number of arguments that it is declared
for. -/
def Raises (f : Callable) (e : Error) : Prop :=
  ∃ args : List Value, f.arity.check args.length = .ok () ∧ f.func args = .error e

theorem call_eq_callWith {f : Callable} {args : List Value}
    (h : ¬(f.unpackList = true ∧ args.length = 1)) : f.call args = f.callWith args := by
  unfold call
  split
  · rename_i hunpack
    exact absurd ⟨hunpack, rfl⟩ h
  · rfl

/-- A callable that does not unpack lists fails with the errors of its body alone. -/
theorem Fails.raises {f : Callable} {e : Error} (h : f.Fails e) (hplain : f.unpackList = false) :
    f.Raises e := by
  obtain ⟨args, htakes, hcall⟩ := h
  have hcheck : f.arity.check args.length = .ok () := by
    rcases htakes with hcheck | ⟨hunpack, -⟩
    · exact hcheck
    · rw [hplain] at hunpack
      cases hunpack
  rw [call_eq_callWith (by simp [hplain]), callWith, hcheck] at hcall
  exact ⟨args, hcheck, hcall⟩

theorem callWith_eq_error {f : Callable} {args : List Value} {e : Error}
    (h : f.callWith args = .error e) : (∃ expected, e = .arity expected args.length) ∨
      f.func args = .error e := by
  unfold callWith at h
  split at h
  · rename_i cause hcheck
    cases h
    exact .inl (Arity.error_of_check hcheck)
  · exact .inr h

/-- A call fails with an error of arity, or with one of the callable's body. -/
theorem Fails.arity_or_func {f : Callable} {e : Error} (h : f.Fails e) :
    (∃ expected actual, e = .arity expected actual) ∨ ∃ args, f.func args = .error e := by
  obtain ⟨args, -, hcall⟩ := h
  obtain ⟨given, hgiven⟩ : ∃ given, f.callWith given = .error e := by
    unfold call at hcall
    split at hcall <;> exact ⟨_, hcall⟩
  rcases callWith_eq_error hgiven with ⟨expected, harity⟩ | hfunc
  · exact .inl ⟨expected, _, harity⟩
  · exact .inr ⟨given, hfunc⟩

end Callable

/-- A row can raise this error: it is a type error, or a call of one of these callables fails
with it. -/
def Error.OfRow (fs : List Callable) (e : Error) : Prop :=
  (∃ fault, e = .type fault) ∨ ∃ f ∈ fs, f.Fails e

/-- The error is a type error of a value, and not the one of a row that is too short. -/
def Error.OfValue (e : Error) : Prop :=
  ∃ fault, e = .type fault ∧ ∀ pos width, fault ≠ .shortRow pos width

/-- The error is the one of a call with the values that these arguments have on the row. -/
def Callable.FailsOn (f : Callable) (row : Row) (args : List Expr) (e : Error) : Prop :=
  f.Takes args.length ∧
    ∃ vs, collect (Expr.outcomes row args) = .ok vs ∧ f.call vs = .error e

/-- The row can raise this error: it is a type error of a value, or one of these calls fails
with it. -/
def Error.OfCalls (row : Row) (calls : List (Callable × List Expr)) (e : Error) : Prop :=
  e.OfValue ∨ ∃ call ∈ calls, call.1.FailsOn row call.2 e

theorem Error.OfCalls.mono {row : Row} {calls more : List (Callable × List Expr)} {e : Error}
    (h : e.OfCalls row calls) (hsub : calls ⊆ more) : e.OfCalls row more := by
  rcases h with hvalue | ⟨call, hcall, hfails⟩
  · exact .inl hvalue
  · exact .inr ⟨call, hsub hcall, hfails⟩

theorem Error.OfRow.mono {fs gs : List Callable} {e : Error} (h : e.OfRow fs)
    (hsub : fs ⊆ gs) : e.OfRow gs := by
  rcases h with htype | ⟨f, hf, hfails⟩
  · exact .inl htype
  · exact .inr ⟨f, hsub hf, hfails⟩

namespace Aggregator

theorem error_of_addAll {t : Total} {vs : List Value} {e : Error}
    (h : t.addAll vs = .error e) : e.OfValue := by
  induction vs generalizing t with
  | nil => cases h
  | cons v vs ih =>
    rw [Total.addAll] at h
    split at h
    · rename_i cause hadd
      cases h
      -- a value is refused for its kind, or for a sum that does not fit
      unfold Total.add at hadd
      split at hadd
      · split at hadd <;> cases hadd
        exact ⟨_, rfl, nofun⟩
      · cases hadd
      · cases hadd
      · cases hadd
      · cases hadd
        exact ⟨_, rfl, nofun⟩
    · exact ih h

/-- An aggregate of the values of as many arguments as it was checked for fails with a type
error, or by its call. -/
theorem error_of_apply {a : Aggregator} {row : Row} {args : List Expr} {vs : List Value}
    {e : Error} (htakes : a.Takes args.length)
    (hvs : collect (Expr.outcomes row args) = .ok vs) (h : a.apply vs = .error e) :
    e.OfCalls row (a.callables.map (·, args)) := by
  cases a with
  | max | min => cases h
  | mean | sum =>
    rw [apply] at h
    split at h
    · rename_i cause htotal
      cases h
      exact .inl (error_of_addAll htotal)
    · cases h
  | custom f =>
    exact .inr ⟨(f, args), List.mem_singleton_self _, .inl (htakes f (List.mem_singleton_self f)),
      vs, hvs, h⟩

end Aggregator

/-! ## Texts -/

theorem Value.error_of_asText {asText : Bool} {v : Value} {e : Error}
    (h : v.asText asText = .error e) : e.OfValue := by
  unfold Value.asText at h
  split at h
  · cases h
  · split at h
    · cases h
    · cases h
      exact ⟨_, rfl, nofun⟩

theorem Value.error_of_asTexts {asText : Bool} {vs : List Value} {e : Error}
    (h : Value.asTexts asText vs = .error e) : e.OfValue := by
  induction vs with
  | nil => cases h
  | cons v vs ih =>
    rw [Value.asTexts] at h
    split at h
    · rename_i cause hfirst
      cases h
      exact Value.error_of_asText hfirst
    · split at h
      · rename_i cause hrest
        cases h
        exact ih hrest
      · cases h

namespace TextOp

theorem error_of_onScalar {op : TextOp} {asText : Bool} {v : Value} {e : Error}
    (h : op.onScalar asText v = .error e) : e.OfValue := by
  unfold onScalar at h
  split at h
  · rename_i cause htext
    cases h
    exact Value.error_of_asText htext
  · cases h

mutual

theorem error_of_apply {op : TextOp} {asText : Bool} {v : Value} {e : Error}
    (h : op.apply asText v = .error e) : e.OfValue := by
  unfold apply at h
  split at h
  · rename_i vs
    split at h
    · split at h
      · rename_i cause htexts
        cases h
        exact Value.error_of_asTexts htexts
      · cases h
    · split at h
      · rename_i cause hall
        cases h
        exact error_of_applyAll hall
      · cases h
  · exact error_of_onScalar h

theorem error_of_applyAll {op : TextOp} {asText : Bool} {vs : List Value} {e : Error}
    (h : op.applyAll asText vs = .error e) : e.OfValue := by
  match vs with
  | [] => cases h
  | v :: vs =>
    rw [applyAll] at h
    split at h
    · rename_i cause hfirst
      cases h
      exact error_of_apply hfirst
    · split at h
      · rename_i cause hrest
        cases h
        exact error_of_applyAll hrest
      · cases h

end

end TextOp

theorem TextMatch.error_of_test {m : TextMatch} {v : Value} {e : Error}
    (h : m.test v = .error e) : e.OfValue := by
  unfold TextMatch.test at h
  split at h
  · cases h
  · split at h
    · cases h
    · cases h
      exact ⟨_, rfl, nofun⟩

theorem Value.error_of_truth {v : Value} {e : Error} (h : v.truth = .error e) :
    e.OfValue := by
  unfold Value.truth at h
  split at h
  · cases h
  · cases h
    exact ⟨_, rfl, nofun⟩

/-! ## Several outcomes -/

section Outcomes

variable {α : Type}

theorem mem_of_collect {outcomes : List (Result α)} {e : Error}
    (h : collect outcomes = .error e) : .error e ∈ outcomes := by
  fun_induction collect outcomes with
  | case1 => cases h
  | case2 cause rest =>
    cases h
    exact List.mem_cons_self
  | case3 a rest cause hrest ih =>
    cases h
    exact List.mem_cons_of_mem _ (ih hrest)
  | case4 a rest as hrest ih => cases h

theorem collect_length {outcomes : List (Result α)} {values : List α}
    (h : collect outcomes = .ok values) : values.length = outcomes.length := by
  fun_induction collect outcomes generalizing values with
  | case1 =>
    cases h
    rfl
  | case2 cause rest => cases h
  | case3 a rest cause hrest ih => cases h
  | case4 a rest as hrest ih =>
    cases h
    simp [ih hrest]

end Outcomes

theorem mem_of_outcomeAt {outcomes : List (Result Value)} {index : Nat} {e : Error}
    (hindex : index < outcomes.length) (h : outcomeAt outcomes index = .error e) :
    .error e ∈ outcomes := by
  rw [outcomeAt, List.getElem?_eq_getElem hindex] at h
  exact h ▸ List.getElem_mem hindex

theorem mem_of_firstUnlike {usual : Bool} {outcomes : List (Result Bool)} {e : Error}
    (h : firstUnlike usual outcomes = .error e) : .error e ∈ outcomes := by
  fun_induction firstUnlike usual outcomes with
  | case1 => cases h
  | case2 rest ih => exact List.mem_cons_of_mem _ (ih h)
  | case3 => cases h
  | case4 =>
    cases h
    exact List.mem_cons_self

theorem Expr.outcomes_eq_map (row : Row) (es : List Expr) :
    Expr.outcomes row es = es.map (Expr.eval row) := by
  induction es with
  | nil => rfl
  | cons e es ih => rw [Expr.outcomes, ih, List.map_cons]

theorem Predicate.outcomes_eq_map (row : Row) (ps : List Predicate) :
    Predicate.outcomes row ps = ps.map (Predicate.eval row) := by
  induction ps with
  | nil => rfl
  | cons p ps ih => rw [Predicate.outcomes, ih, List.map_cons]

/-- A number of arguments that the constructor refuses is refused by a call as well. -/
theorem Expr.call_of_ofCallable_error {f : Callable} {args : List Expr} {vs : List Value}
    {e : Error} (h : Expr.ofCallable f args = .error e) (hlength : vs.length = args.length) :
    f.call vs = .error e := by
  unfold Expr.ofCallable at h
  split at h
  · cases h
  · rename_i hunpack
    have hplain : ¬(f.unpackList = true ∧ vs.length = 1) := by simpa [hlength] using hunpack
    split at h
    · rename_i cause hcheck
      cases h
      rw [Callable.call_eq_callWith hplain, Callable.callWith, hlength, hcheck]
    · cases h

/-! ## Expressions -/

theorem ColumnVar.eval_of_lt {row : Row} {reference : ColumnRef} {pos : Nat}
    (hpos : pos < row.length) :
    ColumnVar.eval row ⟨reference, some pos⟩ = .ok row[pos] := by
  simp [ColumnVar.eval, hpos]

theorem ColumnVar.Ready.eval {width : Nat} {c : ColumnVar} (h : c.Ready width) {row : Row}
    (hrow : row.length = width) : ∃ v, c.eval row = .ok v := by
  obtain ⟨pos, hpos, hlt⟩ := h
  rw [ColumnVar.eval, hpos]
  simp only
  rw [List.getElem?_eq_getElem (hrow ▸ hlt)]
  exact ⟨_, rfl⟩

section Rows

variable {width : Nat} {row : Row}

/-- The error of one of several arguments is one of the whole. -/
theorem Expr.error_of_mem_outcomes {args : List Expr} {err : Error}
    (hargs : ∀ arg ∈ args, arg.eval row = .error err → err.OfCalls row arg.calls)
    (h : .error err ∈ Expr.outcomes row args) : err.OfCalls row (Expr.callsAll args) := by
  rw [Expr.outcomes_eq_map] at h
  obtain ⟨arg, harg, heval⟩ := List.mem_map.mp h
  exact (hargs arg harg heval).mono (Expr.calls_subset_of_mem harg)

theorem Predicate.error_of_mem_outcomes {ps : List Predicate} {err : Error}
    (hps : ∀ p ∈ ps, p.eval row = .error err → err.OfCalls row p.calls)
    (h : .error err ∈ Predicate.outcomes row ps) : err.OfCalls row (Predicate.callsAll ps) := by
  rw [Predicate.outcomes_eq_map] at h
  obtain ⟨p, hp, heval⟩ := List.mem_map.mp h
  exact (hps p hp heval).mono (Predicate.calls_subset_of_mem hp)

theorem Expr.collect_outcomes_length {args : List Expr} {vs : List Value}
    (h : collect (Expr.outcomes row args) = .ok vs) : vs.length = args.length := by
  rw [collect_length h, Expr.outcomes_eq_map, List.length_map]

mutual

/-- On a row of the schema's width, an expression that is ready fails with a type error of a
value, or by one of its calls. -/
theorem Expr.Ready.error_of_eval {e : Expr} {err : Error} (hrow : row.length = width) :
    e.Ready width → e.eval row = .error err → err.OfCalls row e.calls
  | .const v, h => by cases h
  | .column hc, h => by
    obtain ⟨v, hv⟩ := hc.eval hrow
    rw [Expr.eval, hv] at h
    cases h
  | @Expr.Ready.columns _ cs hcs, h => by
    have hcells := mem_of_collect (Result.map_eq_error_iff.mp h)
    obtain ⟨c, hc, heval⟩ := List.mem_map.mp hcells
    obtain ⟨v, hv⟩ := (hcs c hc).eval hrow
    rw [hv] at heval
    cases heval
  | @Expr.Ready.apply _ f args htakes hargs, h => by
    rw [Expr.eval] at h
    split at h
    · rename_i cause hcollect
      cases h
      have harg := Expr.error_of_mem_outcomes
        (fun arg harg => (hargs arg harg).error_of_eval hrow) (mem_of_collect hcollect)
      exact harg.mono (List.subset_cons_self _ _)
    · rename_i vs hcollect
      exact .inr ⟨(f, args), List.mem_cons_self, htakes, vs, hcollect, h⟩
  | @Expr.Ready.aggregate _ a args htakes hargs, h => by
    rw [Expr.eval] at h
    split at h
    · rename_i cause hcollect
      cases h
      have harg := Expr.error_of_mem_outcomes
        (fun arg harg => (hargs arg harg).error_of_eval hrow) (mem_of_collect hcollect)
      exact harg.mono (List.subset_append_right _ _)
    · rename_i vs hcollect
      exact (Aggregator.error_of_apply htakes hcollect h).mono (List.subset_append_left _ _)
  | @Expr.Ready.text _ op arg asText harg, h => by
    rw [Expr.eval] at h
    split at h
    · rename_i cause heval
      cases h
      show err.OfCalls row arg.calls
      exact harg.error_of_eval hrow heval
    · exact .inl (TextOp.error_of_apply h)
  | @Expr.Ready.get _ args index hindex hargs, h => by
    have hlength : (Expr.outcomes row args).length = args.length := by
      rw [Expr.outcomes_eq_map, List.length_map]
    exact Expr.error_of_mem_outcomes (fun arg harg => (hargs arg harg).error_of_eval hrow)
      (mem_of_outcomeAt (hlength ▸ hindex) h)
  | @Expr.Ready.pick _ args positions hpositions hargs, h => by
    have hlength : (Expr.outcomes row args).length = args.length := by
      rw [Expr.outcomes_eq_map, List.length_map]
    obtain ⟨pos, hpos, houtcome⟩ := List.mem_map.mp (mem_of_collect (Result.map_eq_error_iff.mp h))
    exact Expr.error_of_mem_outcomes (fun arg harg => (hargs arg harg).error_of_eval hrow)
      (mem_of_outcomeAt (hlength ▸ hpositions pos hpos) houtcome)
  | .test hp, h => hp.error_of_eval hrow (Result.map_eq_error_iff.mp h)

/-- The same of a predicate. -/
theorem Predicate.Ready.error_of_eval {p : Predicate} {err : Error} (hrow : row.length = width) :
    p.Ready width → p.eval row = .error err → err.OfCalls row p.calls
  | .compare hleft hright, h => by
    rw [Predicate.eval] at h
    split at h
    · rename_i cause heval
      cases h
      exact (hleft.error_of_eval hrow heval).mono (List.subset_append_left _ _)
    · exact (hright.error_of_eval hrow (Result.map_eq_error_iff.mp h)).mono
        (List.subset_append_right _ _)
  | .all hps, h =>
    Predicate.error_of_mem_outcomes (fun p hp => (hps p hp).error_of_eval hrow)
      (mem_of_firstUnlike h)
  | .any hps, h =>
    Predicate.error_of_mem_outcomes (fun p hp => (hps p hp).error_of_eval hrow)
      (mem_of_firstUnlike h)
  | @Predicate.Ready.not _ p hp, h => by
    have heval : p.eval row = .error err := Result.map_eq_error_iff.mp h
    show err.OfCalls row p.calls
    exact hp.error_of_eval hrow heval
  | .isNull he, h => he.error_of_eval hrow (Result.map_eq_error_iff.mp h)
  | .isEmpty he, h => he.error_of_eval hrow (Result.map_eq_error_iff.mp h)
  | .isIn he, h => he.error_of_eval hrow (Result.map_eq_error_iff.mp h)
  | .matchText he, h => by
    rw [Predicate.eval] at h
    split at h
    · rename_i cause heval
      cases h
      exact he.error_of_eval hrow heval
    · exact .inl (TextMatch.error_of_test h)
  | .holds he, h => by
    rw [Predicate.eval] at h
    split at h
    · rename_i cause heval
      cases h
      exact he.error_of_eval hrow heval
    · exact .inl (Value.error_of_truth h)

end

/-- An error of calls is an error of the callables that they call. -/
theorem Error.OfCalls.ofRow {calls : List (Callable × List Expr)} {e : Error}
    (h : e.OfCalls row calls) : e.OfRow (calls.map Prod.fst) := by
  rcases h with ⟨fault, rfl, -⟩ | ⟨⟨f, args⟩, hcall, htakes, vs, hvs, hfails⟩
  · exact .inl ⟨fault, rfl⟩
  · have hlength : vs.length = args.length := Expr.collect_outcomes_length hvs
    exact .inr ⟨f, List.mem_map_of_mem hcall, vs, hlength ▸ htakes, hfails⟩

end Rows

/-- On a row of the schema's width, an expression that was built and bound fails with errors
of rows. -/
theorem Expr.Built.error_of_eval {s : Schema} {e b : Expr} {row : Row} {err : Error}
    (hbuilt : e.Built) (hbind : e.bind s = .ok b) (hrow : row.length = s.width)
    (h : b.eval row = .error err) : err.OfRow e.callables := by
  rw [← Expr.bind_callables hbind, ← Expr.map_fst_calls]
  exact ((hbuilt.ready hbind).error_of_eval hrow h).ofRow

theorem Predicate.Built.error_of_eval {s : Schema} {p b : Predicate} {row : Row} {err : Error}
    (hbuilt : p.Built) (hbind : p.bind s = .ok b) (hrow : row.length = s.width)
    (h : b.eval row = .error err) : err.OfRow p.callables := by
  rw [← Predicate.bind_callables hbind, ← Predicate.map_fst_calls]
  exact ((hbuilt.ready hbind).error_of_eval hrow h).ofRow

end TableFlow
