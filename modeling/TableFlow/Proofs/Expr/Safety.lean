import TableFlow.Proofs.Expr.Errors

/-!
# Safe evaluation

An expression that was built by the constructors and bound to a schema has nothing left to check
on a row of the schema's width, with one exception: how long a list is that a callable unpacks
comes out only when it is called.

* `Callable.BodyFails` and `Callable.ListMisfits` are the two ways in which a call fails, on the
  values of its arguments on the row, and `Callable.FailsOn.body_or_list` says that there are no
  others;
* `Error.Expected` says what an error is then, and `Schema.evaluates_safely` that all errors of
  expressions and predicates are so.
-/

namespace TableFlow

/-- The error is one of building or binding an expression, or of a row too short for it. -/
def Error.isUnready : Error → Bool
  | .construction _ | .unknownColumn _ | .unprepared _ | .type (.shortRow _ _) => true
  | .type _ | .arity _ _ | .duplicateColumn _ | .duplicateKey _ | .malformed _ _ _ | .contract _
  | .invalidPattern _ | .file _ | .csv _ | .frame _ | .during _ _ | .other _ => false

theorem Error.isUnready_of_ofValue {e : Error} (h : e.OfValue) : e.isUnready = false := by
  obtain ⟨fault, rfl, hfault⟩ := h
  cases fault with
  | shortRow pos width => exact absurd rfl (hfault pos width)
  | notText | sumOverflow | notAddable | notNumeric | notMatchable | notBoolean | notValues => rfl

theorem Error.isUnready_of_check {a : Arity} {n : Nat} {e : Error} (h : a.check n = .error e) :
    e.isUnready = false := by
  obtain ⟨expected, rfl⟩ := Arity.error_of_check h
  rfl

namespace Callable

/-- The values that the body of a callable gets for these arguments. -/
def unpacked (f : Callable) (vs : List Value) : List Value :=
  match f.unpackList, vs with
  | true, [.list given] => given
  | _, vs => vs

variable {f : Callable} {row : Row} {args : List Expr} {vs : List Value} {e : Error}

theorem call_eq_callWith_unpacked : f.call vs = f.callWith (f.unpacked vs) := by
  unfold call
  split
  · rename_i given hunpack
    simp [unpacked, hunpack]
  · rename_i hplain
    unfold unpacked
    split
    · rename_i given hunpack
      exact absurd rfl (hplain given hunpack)
    · rfl

theorem unpacked_eq_or (f : Callable) (vs : List Value) :
    f.unpacked vs = vs ∨ f.unpackList = true ∧ vs.length = 1 := by
  unfold unpacked
  split
  · exact .inr ⟨‹_›, rfl⟩
  · exact .inl rfl

/-- The body takes the values of these arguments on the row, and returns the error. -/
def BodyFails (f : Callable) (row : Row) (args : List Expr) (e : Error) : Prop :=
  ∃ vs, collect (Expr.outcomes row args) = .ok vs ∧
    f.arity.check (f.unpacked vs).length = .ok () ∧ f.func (f.unpacked vs) = .error e

/-- The callable unpacks lists and has one argument, and does not take as many values as it
finds there on the row. -/
def ListMisfits (f : Callable) (row : Row) (args : List Expr) (e : Error) : Prop :=
  f.unpackList = true ∧ args.length = 1 ∧ ∃ vs, collect (Expr.outcomes row args) = .ok vs ∧
    f.arity.check (f.unpacked vs).length = .error e

/-- A call that the constructors let pass fails in its body, or for the list it unpacks. -/
theorem FailsOn.body_or_list (h : f.FailsOn row args e) :
    f.BodyFails row args e ∨ f.ListMisfits row args e := by
  obtain ⟨htakes, vs, hvs, hcall⟩ := h
  have hlength : vs.length = args.length := Expr.collect_outcomes_length hvs
  rw [call_eq_callWith_unpacked, callWith] at hcall
  split at hcall
  · rename_i cause hcheck
    cases hcall
    refine .inr ?_
    -- a count that the constructor has checked is refused only after unpacking
    have hsingle : f.unpackList = true ∧ args.length = 1 := by
      rcases htakes with hpass | hsingle
      · rcases f.unpacked_eq_or vs with hsame | ⟨hunpack, hone⟩
        · rw [hsame, hlength, hpass] at hcheck
          cases hcheck
        · exact ⟨hunpack, hlength ▸ hone⟩
      · exact hsingle
    exact ⟨hsingle.1, hsingle.2, vs, hvs, hcheck⟩
  · rename_i hcheck
    exact .inl ⟨vs, hvs, hcheck, hcall⟩

end Callable

/-- What an error is if everything has been checked that can be checked without the row. -/
structure Error.Expected (row : Row) (calls : List (Callable × List Expr)) (e : Error) : Prop where
  /-- Errors of building, of binding and of short rows come from the body of a callable. -/
  body_of_unready : e.isUnready = true → ∃ call ∈ calls, call.1.BodyFails row call.2 e
  /-- There are errors of bodies, type errors, and errors of arity of a callable that unpacks
  its one argument. -/
  cause : (∃ call ∈ calls, call.1.BodyFails row call.2 e) ∨ (∃ fault, e = .type fault) ∨
    ∃ call ∈ calls, call.1.ListMisfits row call.2 e

theorem Error.OfCalls.expected {row : Row} {calls : List (Callable × List Expr)} {e : Error}
    (h : e.OfCalls row calls) : e.Expected row calls := by
  rcases h with hvalue | ⟨call, hcall, hfails⟩
  · have hready := Error.isUnready_of_ofValue hvalue
    obtain ⟨fault, rfl, -⟩ := hvalue
    exact ⟨fun hunready => absurd hunready (ne_true_of_eq_false hready), .inr (.inl ⟨fault, rfl⟩)⟩
  · rcases hfails.body_or_list with hbody | hlist
    · exact ⟨fun _ => ⟨call, hcall, hbody⟩, .inl ⟨call, hcall, hbody⟩⟩
    · have ⟨_, _, _, _, hcheck⟩ := hlist
      have hready := Error.isUnready_of_check hcheck
      exact ⟨fun hunready => absurd hunready (ne_true_of_eq_false hready),
        .inr (.inr ⟨call, hcall, hlist⟩)⟩

/-- Expressions and predicates that the constructors made and that have been bound to a schema
raise only expected errors on the rows of its width. -/
theorem Schema.evaluates_safely {s : Schema} {row : Row} (hrow : row.length = s.width) :
    (∀ (e b : Expr) (err : Error), e.Built → e.bind s = .ok b → b.eval row = .error err →
      err.Expected row b.calls) ∧
    ∀ (p b : Predicate) (err : Error), p.Built → p.bind s = .ok b → b.eval row = .error err →
      err.Expected row b.calls :=
  ⟨fun _ _ _ hbuilt hbind heval => ((hbuilt.ready hbind).error_of_eval hrow heval).expected,
    fun _ _ _ hbuilt hbind heval => ((hbuilt.ready hbind).error_of_eval hrow heval).expected⟩

/-- Gives back its one argument, or the one value of a list. -/
def unwrap : Callable := (Callable.unary "unwrap" .ok).unpacking

/-- Whether the only one of two cells is null. -/
def onlyNull : Expr :=
  .test (.any [.isNull (.aggregate (.custom unwrap) [.ofColumns [.name "a", .name "b"]])])

/-- The list of two cells is one argument when the expression is built, and two on the row. -/
theorem onlyNull_misfits : ∃ b, onlyNull.Built ∧
    onlyNull.bind ⟨["a", "b"], by decide⟩ = .ok b ∧
      b.eval [.int 1, .int 2] = .error (.arity 1 2) ∧
      Error.Expected [.int 1, .int 2] b.calls (.arity 1 2) := by
  have hcells : Expr.Built (.ofColumns [.name "a", .name "b"]) := .columns _
  have hunwrap : Expr.Built (.aggregate (.custom unwrap) [.ofColumns [.name "a", .name "b"]]) :=
    .aggregate (a := .custom unwrap) (List.forall_mem_singleton.mpr hcells) rfl
  have hbuilt : onlyNull.Built :=
    .test (.any (List.forall_mem_singleton.mpr (.isNull hunwrap)) rfl)
  have hbind : onlyNull.bind ⟨["a", "b"], by decide⟩ = .ok _ := rfl
  exact ⟨_, hbuilt, hbind, rfl, (Schema.evaluates_safely rfl).1 onlyNull _ _ hbuilt hbind rfl⟩

end TableFlow
