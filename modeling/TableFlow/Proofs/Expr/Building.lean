import TableFlow.Expr.Bind
import TableFlow.Proofs.Result
import TableFlow.Proofs.Schema.Names

/-!
# Expressions from their constructors to a schema

The constructors of expressions check numbers of arguments and positions, and binding finds
the columns.

* `Expr.Built` and `Predicate.Built` are what the constructors make, nested to any depth,
  `Expr.callables` the callables in it and `Expr.calls` the callables with their arguments;
* `Expr.Ready` is an expression whose checks have been made and whose columns have been found;
* `Expr.Built.ready` says that binding gives such expressions, and `Expr.bind_callables` that
  they call what they called before.
-/

namespace TableFlow

/-! ## What the constructors check -/

/-- A callable may be built into an expression with this number of arguments. -/
def Callable.Takes (f : Callable) (n : Nat) : Prop :=
  f.arity.check n = .ok () ∨ f.unpackList = true ∧ n = 1

/-- The callables that an aggregate calls. -/
def Aggregator.callables : Aggregator → List Callable
  | .custom f => [f]
  | .max | .min | .mean | .sum => []

/-- An aggregate may be built into an expression with this positive number of arguments. -/
def Aggregator.Takes (a : Aggregator) (n : Nat) : Prop :=
  ∀ f ∈ a.callables, f.arity.check n = .ok ()

theorem Expr.ofCallable_eq_ok_iff {f : Callable} {args : List Expr} {e : Expr} :
    Expr.ofCallable f args = .ok e ↔ f.Takes args.length ∧ .apply f args = e := by
  unfold Expr.ofCallable Callable.Takes
  split
  · rename_i hunpack
    simp only [Bool.and_eq_true, decide_eq_true_eq] at hunpack
    simp [hunpack]
  · rename_i hunpack
    simp only [Bool.and_eq_true, decide_eq_true_eq] at hunpack
    split
    · rename_i cause hcheck
      simp [hcheck, hunpack]
    · rename_i hcheck
      simp [hcheck]

theorem Expr.aggregate_of_ofAggregate {a : Aggregator} {args : List Expr} {e : Expr}
    (h : Expr.ofAggregate a args = .ok e) : a.Takes args.length ∧ .aggregate a args = e := by
  unfold Expr.ofAggregate at h
  split at h
  · cases h
  · split at h
    · split at h
      · cases h
      · rename_i f hcheck
        cases h
        exact ⟨by simpa [Aggregator.Takes, Aggregator.callables] using hcheck, rfl⟩
    · rename_i hcustom
      cases h
      refine ⟨?_, rfl⟩
      cases a with
      | custom f => exact absurd rfl (hcustom f)
      | max | min | mean | sum => simp [Aggregator.Takes, Aggregator.callables]

theorem Expr.get_of_ofIndex {args : List Expr} {index : Nat} {e : Expr}
    (h : Expr.ofIndex args index = .ok e) : index < args.length ∧ .get args index = e := by
  unfold Expr.ofIndex at h
  split at h <;> cases h
  exact ⟨‹_›, rfl⟩

theorem Expr.pick_of_ofPositions {args : List Expr} {positions : List Nat} {e : Expr}
    (h : Expr.ofPositions args positions = .ok e) :
    (∀ pos ∈ positions, pos < args.length) ∧ .pick args positions = e := by
  unfold Expr.ofPositions at h
  split at h
  · cases h
  · rename_i hnone
    cases h
    simpa using List.find?_eq_none.mp hnone

theorem Predicate.all_of_ofAll {ps : List Predicate} {p : Predicate}
    (h : Predicate.ofAll ps = .ok p) : .all ps = p := by
  unfold Predicate.ofAll at h
  split at h <;> cases h
  rfl

theorem Predicate.any_of_ofAny {ps : List Predicate} {p : Predicate}
    (h : Predicate.ofAny ps = .ok p) : .any ps = p := by
  unfold Predicate.ofAny at h
  split at h <;> cases h
  rfl

theorem Predicate.matchText_of_ofPattern [Pattern.Engine] {e : Expr} {source : String}
    {whole asText negated : Bool} {p : Predicate}
    (h : Predicate.ofPattern e source whole asText negated = .ok p) :
    ∃ m, .matchText e m = p := by
  unfold Predicate.ofPattern at h
  split at h <;> cases h
  exact ⟨_, rfl⟩

/-! ## What the constructors make -/

mutual

/-- The expression is made by the constructors of expressions and predicates. A column may
have been bound before. -/
inductive Expr.Built : Expr → Prop
  | const (v : Value) : Expr.Built (.const v)
  | column (c : ColumnVar) : Expr.Built (.column c)
  | columns (cs : List ColumnVar) : Expr.Built (.columns cs)
  | apply {f : Callable} {args : List Expr} {e : Expr} (hargs : ∀ arg ∈ args, Expr.Built arg)
      (h : Expr.ofCallable f args = .ok e) : Expr.Built e
  | aggregate {a : Aggregator} {args : List Expr} {e : Expr}
      (hargs : ∀ arg ∈ args, Expr.Built arg) (h : Expr.ofAggregate a args = .ok e) :
      Expr.Built e
  | text {op : TextOp} {arg : Expr} {asText : Bool} (harg : Expr.Built arg) :
      Expr.Built (.text op arg asText)
  | get {args : List Expr} {index : Nat} {e : Expr} (hargs : ∀ arg ∈ args, Expr.Built arg)
      (h : Expr.ofIndex args index = .ok e) : Expr.Built e
  | pick {args : List Expr} {positions : List Nat} {e : Expr}
      (hargs : ∀ arg ∈ args, Expr.Built arg) (h : Expr.ofPositions args positions = .ok e) :
      Expr.Built e
  | test {p : Predicate} (hp : Predicate.Built p) : Expr.Built (.test p)

/-- The predicate is made by the constructors of expressions and predicates, its patterns by
any engine. -/
inductive Predicate.Built : Predicate → Prop
  | compare {op : CompareOp} {left right : Expr} (hleft : Expr.Built left)
      (hright : Expr.Built right) : Predicate.Built (.compare op left right)
  | all {ps : List Predicate} {p : Predicate} (hps : ∀ part ∈ ps, Predicate.Built part)
      (h : Predicate.ofAll ps = .ok p) : Predicate.Built p
  | any {ps : List Predicate} {p : Predicate} (hps : ∀ part ∈ ps, Predicate.Built part)
      (h : Predicate.ofAny ps = .ok p) : Predicate.Built p
  | not {p : Predicate} (hp : Predicate.Built p) : Predicate.Built (.not p)
  | isNull {e : Expr} (he : Expr.Built e) : Predicate.Built (.isNull e)
  | isEmpty {e : Expr} (he : Expr.Built e) : Predicate.Built (.isEmpty e)
  | isIn {e : Expr} {domain : List Value} (he : Expr.Built e) : Predicate.Built (.isIn e domain)
  | matchText [engine : Pattern.Engine] {e : Expr} {source : String}
      {whole asText negated : Bool} {p : Predicate} (he : Expr.Built e)
      (h : Predicate.ofPattern e source whole asText negated = .ok p) : Predicate.Built p
  | holds {e : Expr} (he : Expr.Built e) : Predicate.Built (.holds e)

end

mutual

/-- The callables that an expression calls. -/
def Expr.callables : Expr → List Callable
  | .const _ | .column _ | .columns _ => []
  | .apply f args => f :: Expr.callablesAll args
  | .aggregate a args => a.callables ++ Expr.callablesAll args
  | .text _ arg _ => arg.callables
  | .get args _ => Expr.callablesAll args
  | .pick args _ => Expr.callablesAll args
  | .test p => p.callables

/-- The callables that expressions call. -/
def Expr.callablesAll : List Expr → List Callable
  | [] => []
  | e :: es => e.callables ++ Expr.callablesAll es

/-- The callables that a predicate calls. -/
def Predicate.callables : Predicate → List Callable
  | .compare _ left right => left.callables ++ right.callables
  | .all ps => Predicate.callablesAll ps
  | .any ps => Predicate.callablesAll ps
  | .not p => p.callables
  | .isNull e => e.callables
  | .isEmpty e => e.callables
  | .isIn e _ => e.callables
  | .matchText e _ => e.callables
  | .holds e => e.callables

/-- The callables that predicates call. -/
def Predicate.callablesAll : List Predicate → List Callable
  | [] => []
  | p :: ps => p.callables ++ Predicate.callablesAll ps

end

mutual

/-- The callables that an expression calls, each with the arguments that it is called with. -/
def Expr.calls : Expr → List (Callable × List Expr)
  | .const _ | .column _ | .columns _ => []
  | .apply f args => (f, args) :: Expr.callsAll args
  | .aggregate a args => a.callables.map (·, args) ++ Expr.callsAll args
  | .text _ arg _ => arg.calls
  | .get args _ => Expr.callsAll args
  | .pick args _ => Expr.callsAll args
  | .test p => p.calls

/-- The calls in expressions. -/
def Expr.callsAll : List Expr → List (Callable × List Expr)
  | [] => []
  | e :: es => e.calls ++ Expr.callsAll es

/-- The callables that a predicate calls, each with the arguments that it is called with. -/
def Predicate.calls : Predicate → List (Callable × List Expr)
  | .compare _ left right => left.calls ++ right.calls
  | .all ps => Predicate.callsAll ps
  | .any ps => Predicate.callsAll ps
  | .not p => p.calls
  | .isNull e => e.calls
  | .isEmpty e => e.calls
  | .isIn e _ => e.calls
  | .matchText e _ => e.calls
  | .holds e => e.calls

/-- The calls in predicates. -/
def Predicate.callsAll : List Predicate → List (Callable × List Expr)
  | [] => []
  | p :: ps => p.calls ++ Predicate.callsAll ps

end

mutual

theorem Expr.map_fst_calls (e : Expr) : e.calls.map Prod.fst = e.callables := by
  match e with
  | .const v | .column c | .columns cs => rfl
  | .apply f args => exact congrArg (f :: ·) (Expr.map_fst_callsAll args)
  | .aggregate a args =>
    rw [Expr.calls, Expr.callables, List.map_append, Expr.map_fst_callsAll args]
    simp [Function.comp_def]
  | .text op arg asText =>
    show arg.calls.map Prod.fst = arg.callables
    exact Expr.map_fst_calls arg
  | .get args index | .pick args positions => exact Expr.map_fst_callsAll args
  | .test p => exact Predicate.map_fst_calls p

theorem Expr.map_fst_callsAll (es : List Expr) :
    (Expr.callsAll es).map Prod.fst = Expr.callablesAll es := by
  match es with
  | [] => rfl
  | e :: es =>
    rw [Expr.callsAll, Expr.callablesAll, List.map_append, Expr.map_fst_calls e,
      Expr.map_fst_callsAll es]

theorem Predicate.map_fst_calls (p : Predicate) : p.calls.map Prod.fst = p.callables := by
  match p with
  | .compare op left right =>
    rw [Predicate.calls, Predicate.callables, List.map_append, Expr.map_fst_calls left,
      Expr.map_fst_calls right]
  | .all ps | .any ps => exact Predicate.map_fst_callsAll ps
  | .not p =>
    show p.calls.map Prod.fst = p.callables
    exact Predicate.map_fst_calls p
  | .isNull e | .isEmpty e | .isIn e domain | .matchText e m | .holds e =>
    exact Expr.map_fst_calls e

theorem Predicate.map_fst_callsAll (ps : List Predicate) :
    (Predicate.callsAll ps).map Prod.fst = Predicate.callablesAll ps := by
  match ps with
  | [] => rfl
  | p :: ps =>
    rw [Predicate.callsAll, Predicate.callablesAll, List.map_append, Predicate.map_fst_calls p,
      Predicate.map_fst_callsAll ps]

end

theorem Expr.calls_subset_of_mem {es : List Expr} {e : Expr} (h : e ∈ es) :
    e.calls ⊆ Expr.callsAll es := by
  induction es with
  | nil => cases h
  | cons first es ih =>
    rw [Expr.callsAll]
    rcases List.mem_cons.mp h with rfl | h
    · exact List.subset_append_left _ _
    · exact List.subset_append_of_subset_right _ (ih h)

theorem Predicate.calls_subset_of_mem {ps : List Predicate} {p : Predicate} (h : p ∈ ps) :
    p.calls ⊆ Predicate.callsAll ps := by
  induction ps with
  | nil => cases h
  | cons first ps ih =>
    rw [Predicate.callsAll]
    rcases List.mem_cons.mp h with rfl | h
    · exact List.subset_append_left _ _
    · exact List.subset_append_of_subset_right _ (ih h)

/-! ## Bound expressions -/

/-- The column has been found in a schema of this width. -/
def ColumnVar.Ready (width : Nat) (c : ColumnVar) : Prop :=
  ∃ pos, c.position = some pos ∧ pos < width

mutual

/-- The checks of an expression have been made, and its columns have been found in a schema
of this width. -/
inductive Expr.Ready (width : Nat) : Expr → Prop
  | const (v : Value) : Expr.Ready width (.const v)
  | column {c : ColumnVar} (hc : c.Ready width) : Expr.Ready width (.column c)
  | columns {cs : List ColumnVar} (hcs : ∀ c ∈ cs, c.Ready width) :
      Expr.Ready width (.columns cs)
  | apply {f : Callable} {args : List Expr} (htakes : f.Takes args.length)
      (hargs : ∀ arg ∈ args, Expr.Ready width arg) : Expr.Ready width (.apply f args)
  | aggregate {a : Aggregator} {args : List Expr} (htakes : a.Takes args.length)
      (hargs : ∀ arg ∈ args, Expr.Ready width arg) : Expr.Ready width (.aggregate a args)
  | text {op : TextOp} {arg : Expr} {asText : Bool} (harg : Expr.Ready width arg) :
      Expr.Ready width (.text op arg asText)
  | get {args : List Expr} {index : Nat} (hindex : index < args.length)
      (hargs : ∀ arg ∈ args, Expr.Ready width arg) : Expr.Ready width (.get args index)
  | pick {args : List Expr} {positions : List Nat} (hpos : ∀ pos ∈ positions, pos < args.length)
      (hargs : ∀ arg ∈ args, Expr.Ready width arg) : Expr.Ready width (.pick args positions)
  | test {p : Predicate} (hp : Predicate.Ready width p) : Expr.Ready width (.test p)

/-- The same of a predicate. -/
inductive Predicate.Ready (width : Nat) : Predicate → Prop
  | compare {op : CompareOp} {left right : Expr} (hleft : Expr.Ready width left)
      (hright : Expr.Ready width right) : Predicate.Ready width (.compare op left right)
  | all {ps : List Predicate} (hps : ∀ part ∈ ps, Predicate.Ready width part) :
      Predicate.Ready width (.all ps)
  | any {ps : List Predicate} (hps : ∀ part ∈ ps, Predicate.Ready width part) :
      Predicate.Ready width (.any ps)
  | not {p : Predicate} (hp : Predicate.Ready width p) : Predicate.Ready width (.not p)
  | isNull {e : Expr} (he : Expr.Ready width e) : Predicate.Ready width (.isNull e)
  | isEmpty {e : Expr} (he : Expr.Ready width e) : Predicate.Ready width (.isEmpty e)
  | isIn {e : Expr} {domain : List Value} (he : Expr.Ready width e) :
      Predicate.Ready width (.isIn e domain)
  | matchText {e : Expr} {m : TextMatch} (he : Expr.Ready width e) :
      Predicate.Ready width (.matchText e m)
  | holds {e : Expr} (he : Expr.Ready width e) : Predicate.Ready width (.holds e)

end

section Binding

variable {s : Schema}

theorem ColumnVar.bind_ready {c bound : ColumnVar} (h : c.bind s = .ok bound) :
    bound.Ready s.width := by
  unfold ColumnVar.bind at h
  split at h
  · cases h
  · rename_i pos hpos
    cases h
    exact ⟨pos, rfl, Schema.lt_width_of_resolve hpos⟩

theorem ColumnVar.bindAll_ready {cs bound : List ColumnVar}
    (h : ColumnVar.bindAll s cs = .ok bound) : ∀ c ∈ bound, c.Ready s.width := by
  induction cs generalizing bound with
  | nil =>
    cases h
    simp
  | cons c cs ih =>
    rw [ColumnVar.bindAll] at h
    split at h
    · cases h
    · rename_i first hfirst
      split at h
      · cases h
      · rename_i rest hrest
        cases h
        exact List.forall_mem_cons.mpr ⟨ColumnVar.bind_ready hfirst, ih hrest⟩

/-- Bound expressions are as many as before, and ready if each of them is ready once it is
bound. -/
theorem Expr.ready_of_bindAll {es bound : List Expr} (h : Expr.bindAll s es = .ok bound)
    (hready : ∀ e ∈ es, ∀ b, e.bind s = .ok b → b.Ready s.width) :
    bound.length = es.length ∧ ∀ b ∈ bound, b.Ready s.width := by
  induction es generalizing bound with
  | nil =>
    cases h
    simp
  | cons e es ih =>
    obtain ⟨he, hes⟩ := List.forall_mem_cons.mp hready
    rw [Expr.bindAll] at h
    split at h
    · cases h
    · rename_i first hfirst
      obtain ⟨rest, hrest, rfl⟩ := Result.map_eq_ok_iff.mp h
      obtain ⟨hlength, hall⟩ := ih hrest hes
      exact ⟨by simp [hlength], List.forall_mem_cons.mpr ⟨he first hfirst, hall⟩⟩

theorem Predicate.ready_of_bindAll {ps bound : List Predicate}
    (h : Predicate.bindAll s ps = .ok bound)
    (hready : ∀ p ∈ ps, ∀ b, p.bind s = .ok b → b.Ready s.width) :
    ∀ b ∈ bound, b.Ready s.width := by
  induction ps generalizing bound with
  | nil =>
    cases h
    simp
  | cons p ps ih =>
    obtain ⟨hp, hps⟩ := List.forall_mem_cons.mp hready
    rw [Predicate.bindAll] at h
    split at h
    · cases h
    · rename_i first hfirst
      obtain ⟨rest, hrest, rfl⟩ := Result.map_eq_ok_iff.mp h
      exact List.forall_mem_cons.mpr ⟨hp first hfirst, ih hrest hps⟩

mutual

/-- Binding keeps what the constructors have checked, and finds all columns. -/
theorem Expr.Built.ready {e b : Expr} : e.Built → e.bind s = .ok b → b.Ready s.width
  | .const v, h => by
    cases h
    exact .const v
  | .column c, h => by
    obtain ⟨bound, hbound, rfl⟩ := Result.map_eq_ok_iff.mp h
    exact .column (ColumnVar.bind_ready hbound)
  | .columns cs, h => by
    obtain ⟨bound, hbound, rfl⟩ := Result.map_eq_ok_iff.mp h
    exact .columns (ColumnVar.bindAll_ready hbound)
  | @Expr.Built.apply f args e hargs hbuilt, h => by
    obtain ⟨htakes, rfl⟩ := Expr.ofCallable_eq_ok_iff.mp hbuilt
    obtain ⟨bound, hbound, rfl⟩ := Result.map_eq_ok_iff.mp h
    obtain ⟨hlength, hready⟩ := Expr.ready_of_bindAll hbound fun arg harg _ hb =>
      (hargs arg harg).ready hb
    exact .apply (by rwa [hlength]) hready
  | @Expr.Built.aggregate a args e hargs hbuilt, h => by
    obtain ⟨htakes, rfl⟩ := Expr.aggregate_of_ofAggregate hbuilt
    obtain ⟨bound, hbound, rfl⟩ := Result.map_eq_ok_iff.mp h
    obtain ⟨hlength, hready⟩ := Expr.ready_of_bindAll hbound fun arg harg _ hb =>
      (hargs arg harg).ready hb
    exact .aggregate (by rwa [hlength]) hready
  | .text harg, h => by
    obtain ⟨bound, hbound, rfl⟩ := Result.map_eq_ok_iff.mp h
    exact .text (harg.ready hbound)
  | @Expr.Built.get args index e hargs hbuilt, h => by
    obtain ⟨hindex, rfl⟩ := Expr.get_of_ofIndex hbuilt
    obtain ⟨bound, hbound, rfl⟩ := Result.map_eq_ok_iff.mp h
    obtain ⟨hlength, hready⟩ := Expr.ready_of_bindAll hbound fun arg harg _ hb =>
      (hargs arg harg).ready hb
    exact .get (by rwa [hlength]) hready
  | @Expr.Built.pick args positions e hargs hbuilt, h => by
    obtain ⟨hpositions, rfl⟩ := Expr.pick_of_ofPositions hbuilt
    obtain ⟨bound, hbound, rfl⟩ := Result.map_eq_ok_iff.mp h
    obtain ⟨hlength, hready⟩ := Expr.ready_of_bindAll hbound fun arg harg _ hb =>
      (hargs arg harg).ready hb
    exact .pick (by rwa [hlength]) hready
  | .test hp, h => by
    obtain ⟨bound, hbound, rfl⟩ := Result.map_eq_ok_iff.mp h
    exact .test (hp.ready hbound)

/-- The same of a predicate. -/
theorem Predicate.Built.ready {p b : Predicate} :
    p.Built → p.bind s = .ok b → b.Ready s.width
  | @Predicate.Built.compare op left right hleft hright, h => by
    rw [Predicate.bind] at h
    split at h
    · cases h
    · rename_i l hl
      obtain ⟨r, hr, rfl⟩ := Result.map_eq_ok_iff.mp h
      exact .compare (hleft.ready hl) (hright.ready hr)
  | @Predicate.Built.all ps p hps hbuilt, h => by
    cases Predicate.all_of_ofAll hbuilt
    obtain ⟨bound, hbound, rfl⟩ := Result.map_eq_ok_iff.mp h
    exact .all (Predicate.ready_of_bindAll hbound fun part hpart _ hb =>
      (hps part hpart).ready hb)
  | @Predicate.Built.any ps p hps hbuilt, h => by
    cases Predicate.any_of_ofAny hbuilt
    obtain ⟨bound, hbound, rfl⟩ := Result.map_eq_ok_iff.mp h
    exact .any (Predicate.ready_of_bindAll hbound fun part hpart _ hb =>
      (hps part hpart).ready hb)
  | .not hp, h => by
    obtain ⟨bound, hbound, rfl⟩ := Result.map_eq_ok_iff.mp h
    exact .not (hp.ready hbound)
  | .isNull he, h => by
    obtain ⟨bound, hbound, rfl⟩ := Result.map_eq_ok_iff.mp h
    exact .isNull (he.ready hbound)
  | .isEmpty he, h => by
    obtain ⟨bound, hbound, rfl⟩ := Result.map_eq_ok_iff.mp h
    exact .isEmpty (he.ready hbound)
  | .isIn he, h => by
    obtain ⟨bound, hbound, rfl⟩ := Result.map_eq_ok_iff.mp h
    exact .isIn (he.ready hbound)
  | @Predicate.Built.matchText engine e source whole asText negated p he hbuilt, h => by
    obtain ⟨m, rfl⟩ := Predicate.matchText_of_ofPattern hbuilt
    obtain ⟨bound, hbound, rfl⟩ := Result.map_eq_ok_iff.mp h
    exact .matchText (he.ready hbound)
  | .holds he, h => by
    obtain ⟨bound, hbound, rfl⟩ := Result.map_eq_ok_iff.mp h
    exact .holds (he.ready hbound)

end

mutual

/-- Binding does not change what an expression calls. -/
theorem Expr.bind_callables {e b : Expr} (h : e.bind s = .ok b) : b.callables = e.callables := by
  match e with
  | .const v =>
    cases h
    rfl
  | .column c | .columns cs =>
    obtain ⟨bound, -, rfl⟩ := Result.map_eq_ok_iff.mp h
    rfl
  | .apply f args =>
    obtain ⟨bound, hbound, rfl⟩ := Result.map_eq_ok_iff.mp h
    exact congrArg (f :: ·) (Expr.bindAll_callables hbound)
  | .aggregate a args =>
    obtain ⟨bound, hbound, rfl⟩ := Result.map_eq_ok_iff.mp h
    exact congrArg (a.callables ++ ·) (Expr.bindAll_callables hbound)
  | .text op arg asText =>
    obtain ⟨bound, hbound, rfl⟩ := Result.map_eq_ok_iff.mp h
    show bound.callables = arg.callables
    exact Expr.bind_callables hbound
  | .get args index | .pick args positions =>
    obtain ⟨bound, hbound, rfl⟩ := Result.map_eq_ok_iff.mp h
    exact Expr.bindAll_callables hbound
  | .test p =>
    obtain ⟨bound, hbound, rfl⟩ := Result.map_eq_ok_iff.mp h
    exact Predicate.bind_callables hbound

theorem Expr.bindAll_callables {es bound : List Expr} (h : Expr.bindAll s es = .ok bound) :
    Expr.callablesAll bound = Expr.callablesAll es := by
  match es with
  | [] =>
    cases h
    rfl
  | e :: es =>
    rw [Expr.bindAll] at h
    split at h
    · cases h
    · rename_i first hfirst
      obtain ⟨rest, hrest, rfl⟩ := Result.map_eq_ok_iff.mp h
      rw [Expr.callablesAll, Expr.callablesAll, Expr.bind_callables hfirst,
        Expr.bindAll_callables hrest]

/-- Binding does not change what a predicate calls. -/
theorem Predicate.bind_callables {p b : Predicate} (h : p.bind s = .ok b) :
    b.callables = p.callables := by
  match p with
  | .compare op left right =>
    rw [Predicate.bind] at h
    split at h
    · cases h
    · rename_i l hl
      obtain ⟨r, hr, rfl⟩ := Result.map_eq_ok_iff.mp h
      rw [Predicate.callables, Predicate.callables, Expr.bind_callables hl,
        Expr.bind_callables hr]
  | .all ps | .any ps =>
    obtain ⟨bound, hbound, rfl⟩ := Result.map_eq_ok_iff.mp h
    exact Predicate.bindAll_callables hbound
  | .not p =>
    obtain ⟨bound, hbound, rfl⟩ := Result.map_eq_ok_iff.mp h
    show bound.callables = p.callables
    exact Predicate.bind_callables hbound
  | .isNull e | .isEmpty e | .isIn e domain | .matchText e m | .holds e =>
    obtain ⟨bound, hbound, rfl⟩ := Result.map_eq_ok_iff.mp h
    exact Expr.bind_callables hbound

theorem Predicate.bindAll_callables {ps bound : List Predicate}
    (h : Predicate.bindAll s ps = .ok bound) :
    Predicate.callablesAll bound = Predicate.callablesAll ps := by
  match ps with
  | [] =>
    cases h
    rfl
  | p :: ps =>
    rw [Predicate.bindAll] at h
    split at h
    · cases h
    · rename_i first hfirst
      obtain ⟨rest, hrest, rfl⟩ := Result.map_eq_ok_iff.mp h
      rw [Predicate.callablesAll, Predicate.callablesAll, Predicate.bind_callables hfirst,
        Predicate.bindAll_callables hrest]

end

end Binding

end TableFlow
