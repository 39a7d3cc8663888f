import TableFlow.Proofs.Expr.Errors
import TableFlow.Proofs.Operator.History

/-!
# Errors before rows and errors on rows

Operators check what they can when they are built and opened, so that a row can fail only for
the kinds of its values and for the callables that it meets. One check is missing: an update
with a callable is built whatever number of arguments the callable takes, and its error of
arity waits for the first row.

* `Operator.Built` are operators whose expressions come from constructors, and
  `Operator.arityFault?` is the error with which the same callable on the same columns would
  have been refused as an expression;
* `Operator.OpensAs.error_of_flow` is one opened operator: its errors on rows are errors of
  rows (`Error.OfRow`) or this one;
* `Chain.exists_op_of_push` finds the operator at which a push fails;
* `Chain.error_of_push` and `Chain.push_of_reachesFault` say the same of a chain, where the
  row has to come as far as the update;
* `Chain.onlyRowErrors_iff` is the condition under which no push fails with an error of
  building or binding.
-/

namespace TableFlow

/-- The error is one that building or binding can give. -/
def Error.isEarly : Error → Bool
  | .construction _ | .arity _ _ | .unknownColumn _ | .duplicateColumn _ | .unprepared _
  | .invalidPattern _ => true
  | .type _ | .duplicateKey _ | .malformed _ _ _ | .contract _ | .file _ | .csv _ | .frame _
  | .during _ _ | .other _ => false

/-! ## Operators that are built -/

/-- The callables that computing the values calls. -/
def InsertValues.callables : InsertValues → List Callable
  | .expr e => e.callables
  | .const _ | .list _ => []

/-- The expression comes from constructors, if there is one. -/
def InsertValues.Built : InsertValues → Prop
  | .expr e => e.Built
  | .const _ | .list _ => True

/-- The callables that computing the values calls. -/
def UpdateFunc.callables : UpdateFunc → List Callable
  | .expr e => e.callables
  | .callable f => [f]
  | .const _ | .map _ => []

/-- The expression comes from constructors, if there is one. -/
def UpdateFunc.Built : UpdateFunc → Prop
  | .expr e => e.Built
  | .const _ | .map _ | .callable _ => True

namespace Operator

/-- The callables that an operator calls. -/
def callables : Operator → List Callable
  | .filter p _ => p.callables
  | .insert _ _ values _ _ => values.callables
  | .update _ func _ => func.callables
  | .select _ | .rename _ _ _ | .limit _ | .typecast _ => []

/-- The expressions of an operator come from constructors. What the operator's own
constructor has checked, it carries. -/
def Built : Operator → Prop
  | .filter p _ => p.Built
  | .insert _ _ values _ _ => values.Built
  | .update _ func _ => func.Built
  | .select _ | .rename _ _ _ | .limit _ | .typecast _ => True

/-- The error with which the callable of an update would be refused as an expression on the
cells of the same columns. -/
def arityFault? : Operator → Option Error
  | .update columns (.callable f) _ =>
    match Expr.ofCallableColumns f columns with
    | .error e => some e
    | .ok _ => none
  | _ => none

theorem arityFault?_update_callable {columns : List ColumnRef} {f : Callable}
    {old : columns ≠ []} {e : Error} :
    (Operator.update columns (.callable f) old).arityFault? = some e ↔
      Expr.ofCallableColumns f columns = .error e := by
  rw [arityFault?]
  cases Expr.ofCallableColumns f columns <;> simp

theorem arity_of_arityFault {op : Operator} {e : Error} (h : op.arityFault? = some e) :
    ∃ expected actual, e = .arity expected actual := by
  unfold arityFault? at h
  split at h
  · split at h
    · rename_i cause hrefused
      cases h
      unfold Expr.ofCallableColumns Expr.ofCallable at hrefused
      split at hrefused
      · cases hrefused
      · split at hrefused
        · rename_i arity harity
          cases hrefused
          obtain ⟨expected, rfl⟩ := Arity.error_of_check harity
          exact ⟨expected, _, rfl⟩
        · cases hrefused
    · cases h
  · cases h

end Operator

/-! ## One operator -/

theorem Value.error_of_spread {width : Nat} {v : Value} {e : Error}
    (h : v.spread width = .error e) : ∃ fault, e = .type fault := by
  unfold Value.spread at h
  split at h
  · cases h
  · split at h
    · split at h <;> cases h
      exact ⟨_, rfl⟩
    · cases h
      exact ⟨_, rfl⟩

/-- Values go to positions that are all there. -/
theorem Row.assign_of_lt {row : Row} {cells : List (Nat × Value)}
    (hlt : ∀ cell ∈ cells, cell.1 < row.length) : ∃ out, Row.assign row cells = .ok out := by
  induction cells generalizing row with
  | nil => exact ⟨row, rfl⟩
  | cons cell cells ih =>
    obtain ⟨hcell, hrest⟩ := List.forall_mem_cons.mp hlt
    rw [Row.assign, if_pos hcell]
    apply ih
    simpa using hrest

section Opened

variable {s : Schema} {row : Row} {e : Error}

theorem InsertValues.error_of_values {values bound : InsertValues} {width : Nat}
    (hbuilt : values.Built) (hbind : values.bind s = .ok bound) (hrow : row.length = s.width)
    (h : bound.values row width = .error e) : e.OfRow values.callables := by
  cases values with
  | const v =>
    cases hbind
    cases h
  | list vs =>
    cases hbind
    cases h
  | expr expr =>
    obtain ⟨b, hb, rfl⟩ := Result.map_eq_ok_iff.mp hbind
    rw [InsertValues.values] at h
    split at h
    · rename_i cause heval
      cases h
      exact Expr.Built.error_of_eval hbuilt hb hrow heval
    · exact .inl (Value.error_of_spread h)

theorem UpdateFunc.error_of_values {func bound : UpdateFunc} {columns : List ColumnRef}
    {positions : List Nat} {old : columns ≠ []} (hbuilt : func.Built)
    (hresolve : s.resolveAll columns = .ok positions) (hbind : func.bind s = .ok bound)
    (hrow : row.length = s.width) (h : bound.values row positions = .error e) :
    e.OfRow func.callables ∨ (Operator.update columns func old).arityFault? = some e := by
  obtain ⟨hcount, hlt⟩ := Schema.lt_width_of_resolveAll hresolve
  obtain ⟨vs, hcells⟩ := Row.cells_of_lt (hrow ▸ hlt)
  cases func with
  | const v =>
    cases hbind
    cases h
  | expr expr =>
    obtain ⟨b, hb, rfl⟩ := Result.map_eq_ok_iff.mp hbind
    rw [UpdateFunc.values] at h
    split at h
    · rename_i cause heval
      cases h
      exact .inl (Expr.Built.error_of_eval hbuilt hb hrow heval)
    · exact .inl (.inl (Value.error_of_spread h))
  | map pairs =>
    cases hbind
    rw [UpdateFunc.values, hcells] at h
    cases h
  | callable f =>
    cases hbind
    rw [UpdateFunc.values, hcells] at h
    simp only at h
    have hargs : vs.length = (columns.map Expr.ofColumn).length := by
      rw [List.length_map, Row.cells_length hcells, hcount]
    split at h
    · rename_i cause hcall
      cases h
      -- either the constructor of expressions lets this number of arguments pass, or not
      cases hmade : Expr.ofCallableColumns f columns with
      | error refused =>
        have hrefused := Expr.call_of_ofCallable_error hmade hargs
        rw [hcall] at hrefused
        cases hrefused
        exact .inr (Operator.arityFault?_update_callable.mpr hmade)
      | ok made =>
        obtain ⟨htakes, -⟩ := Expr.ofCallable_eq_ok_iff.mp hmade
        exact .inl (.inr ⟨f, List.mem_singleton_self f, vs, hargs ▸ htakes, hcall⟩)
    · exact .inl (.inl (Value.error_of_spread h))

namespace Operator

variable {op : Operator} {opened : OpenedStage}

/-- On a row of the schema's width, an opened operator fails with errors of rows, or with the
one of a callable that was never checked. -/
theorem OpensAs.error_of_flow (h : op.OpensAs s opened) (hbuilt : op.Built)
    (hrow : row.length = s.width) (hflow : opened.stage.flow row = .error e) :
    e.OfRow op.callables ∨ op.arityFault? = some e := by
  cases h with
  | @filter p bound negated hbind =>
    have heval : bound.eval row = .error e := Result.map_eq_error_iff.mp hflow
    exact .inl (Predicate.Built.error_of_eval hbuilt hbind hrow heval)
  | select hresolve hproject =>
    obtain ⟨-, hlt⟩ := Schema.lt_width_of_resolveAll hresolve
    obtain ⟨vs, hcells⟩ := Row.cells_of_lt (hrow ▸ hlt)
    rw [Stage.flow, hcells] at hflow
    cases hflow
  | rename hresolve hrename => cases hflow
  | @limit rows =>
    obtain ⟨flow, hlimit⟩ := Stage.flow_limit rows 0 row
    rw [hlimit] at hflow
    cases hflow
  | insert hinsert hbind =>
    have hvalues := Result.map_eq_error_iff.mp hflow
    exact .inl (InsertValues.error_of_values hbuilt hbind hrow hvalues)
  | update hresolve hbind =>
    rw [Stage.flow] at hflow
    split at hflow
    · rename_i cause hvalues
      cases hflow
      exact UpdateFunc.error_of_values hbuilt hresolve hbind hrow hvalues
    · rename_i vs hvalues
      obtain ⟨-, hlt⟩ := Schema.lt_width_of_resolveAll hresolve
      obtain ⟨out, hout⟩ := Row.assign_of_lt (fun cell hcell =>
        hrow ▸ hlt cell.1 (List.of_mem_zip hcell).1)
      rw [hout] at hflow
      cases hflow
  | typecast => cases hflow

/-- A callable that was never checked fails on every row that it meets. -/
theorem OpensAs.flow_of_arityFault (h : op.OpensAs s opened) (hfault : op.arityFault? = some e)
    (hrow : row.length = s.width) : opened.stage.flow row = .error e := by
  cases h with
  | @update columns func bound old positions hresolve hbind =>
    cases func with
    | callable f =>
      cases hbind
      obtain ⟨hcount, hlt⟩ := Schema.lt_width_of_resolveAll hresolve
      obtain ⟨vs, hcells⟩ := Row.cells_of_lt (hrow ▸ hlt)
      have hargs : vs.length = (columns.map Expr.ofColumn).length := by
        rw [List.length_map, Row.cells_length hcells, hcount]
      have hcall : f.call vs = .error e :=
        Expr.call_of_ofCallable_error (arityFault?_update_callable.mp hfault) hargs
      rw [Stage.flow, UpdateFunc.values, hcells]
      simp only [hcall]
    | const v => cases hfault
    | expr expr => cases hfault
    | map pairs => cases hfault
  | filter hbind => cases hfault
  | select hresolve hproject => cases hfault
  | rename hresolve hrename => cases hfault
  | limit => cases hfault
  | insert hinsert hbind => cases hfault
  | typecast => cases hfault

end Operator

end Opened

/-! ## Chains -/

/-- Operators open, and after some rows a row comes out of them for another one. -/
def Emits (s : Schema) (ops : List Operator) (rows : List Row) (row : Row) : Prop :=
  ∃ c out, Chain.openOn s ops = .ok c ∧ ((c.after rows).push row).1 = .ok (some out)

/-- After some rows, another one comes as far as an update whose callable was never checked,
and would have been refused with this error. -/
def ReachesFault (s : Schema) (ops : List Operator) (rows : List Row) (row : Row)
    (e : Error) : Prop :=
  ∃ front op back, ops = front ++ op :: back ∧ op.arityFault? = some e ∧ Emits s front rows row

namespace Chain

variable {s : Schema} {ops : List Operator} {c : Chain} {rows : List Row} {row : Row} {e : Error}

theorem openOn_singleton {op : Operator} (h : openOn s [op] = .ok c) :
    ∃ opened, op.OpensAs s opened ∧ c.stages = [opened.stage] ∧ c.schema = opened.schema := by
  unfold openOn at h
  split at h
  · cases h
  · rename_i stages out hstages
    cases h
    rw [openStages] at hstages
    split at hstages
    · cases hstages
    · rename_i opened hopened
      cases hstages
      exact ⟨opened, Operator.opensAs_of_openOn hopened, rfl, rfl⟩

/-- Through no operators, every row comes out. -/
theorem push_after_of_openOn_nil (h : openOn s [] = .ok c) (rows : List Row) (row : Row) :
    ((c.after rows).push row).1 = .ok (some row) := by
  have hstages : (c.after rows).stages = [] := by
    cases h
    exact after_stages_eq_nil rfl rows
  show (pushStages row (c.after rows).stages).row = _
  rw [hstages]
  rfl

/-- A push that fails does so at one of the operators, on a row that has come out of those in
front of it. -/
theorem exists_op_of_push (hopen : openOn s ops = .ok c)
    (hrows : ∀ r ∈ rows, r.length = s.width) (hrow : row.length = s.width)
    (h : ((c.after rows).push row).1 = .error e) :
    ∃ front op back a opened out, ops = front ++ op :: back ∧ openOn s front = .ok a ∧
      ((a.after rows).push row).1 = .ok (some out) ∧ out.length = a.schema.width ∧
      op.OpensAs a.schema opened ∧ opened.stage.flow out = .error e := by
  -- the operators behind the first one see the rows that come out of it
  induction ops generalizing s c rows row with
  | nil =>
    rw [push_after_of_openOn_nil hopen] at h
    cases h
  | cons op ops ih =>
    rw [← List.singleton_append] at hopen
    obtain ⟨a, b, ha, hb, rfl⟩ := openOn_append_eq_ok_iff.mp hopen
    have hcarry := openOn_carries ha
    rw [after_followedBy, push_followedBy] at h
    rcases hfirst : (a.after rows).push row with ⟨cause | out, later⟩
    · rw [hfirst] at h
      cases h
      obtain ⟨opened, hopened, hstage, -⟩ := openOn_singleton ha
      have hflow : opened.stage.flow row = .error e :=
        (push_after_eq_error_iff hstage rows).mp (congrArg Prod.fst hfirst)
      exact ⟨[], op, ops, _, opened, row, rfl, rfl, push_after_of_openOn_nil rfl rows row, hrow,
        hopened, hflow⟩
    · cases out with
      | none =>
        rw [hfirst] at h
        cases h
      | some out =>
        rw [hfirst] at h
        have hout : out.length = a.schema.width :=
          push_after_width hcarry hrows hrow (congrArg Prod.fst hfirst)
        obtain ⟨front, bad, back, d, opened, last, rfl, hd, hlast, hwidth, hopened, hflow⟩ :=
          ih hb (emitted_width hcarry hrows) hout h
        refine ⟨op :: front, bad, back, a.followedBy d, opened, last, rfl, ?_, ?_, hwidth,
          hopened, hflow⟩
        · exact openOn_append_eq_ok_iff.mpr ⟨a, d, ha, hd, rfl⟩
        · rw [after_followedBy, push_followedBy, hfirst]
          exact hlast

/-- A push fails with an error of rows, or at an update whose callable was never checked. -/
theorem error_of_push (hbuilt : ∀ op ∈ ops, op.Built) (hopen : openOn s ops = .ok c)
    (hrows : ∀ r ∈ rows, r.length = s.width) (hrow : row.length = s.width)
    (h : ((c.after rows).push row).1 = .error e) :
    e.OfRow (ops.flatMap Operator.callables) ∨ ReachesFault s ops rows row e := by
  obtain ⟨front, op, back, a, opened, out, rfl, ha, hout, hwidth, hopened, hflow⟩ :=
    exists_op_of_push hopen hrows hrow h
  have hmem : op ∈ front ++ op :: back := by simp
  rcases hopened.error_of_flow (hbuilt op hmem) hwidth hflow with hrowError | hfault
  · refine .inl (hrowError.mono fun f hf => ?_)
    exact List.mem_flatMap.mpr ⟨op, hmem, hf⟩
  · exact .inr ⟨front, op, back, rfl, hfault, a, out, ha, hout⟩

/-- A row that comes as far as an update whose callable was never checked fails there. -/
theorem push_of_reachesFault (hopen : openOn s ops = .ok c)
    (hrows : ∀ r ∈ rows, r.length = s.width) (hrow : row.length = s.width)
    (h : ReachesFault s ops rows row e) : ((c.after rows).push row).1 = .error e := by
  obtain ⟨front, op, back, rfl, hfault, a, out, ha, hout⟩ := h
  obtain ⟨a', b, ha', hb, rfl⟩ := openOn_append_eq_ok_iff.mp hopen
  rw [ha] at ha'
  cases ha'
  rw [← List.singleton_append] at hb
  obtain ⟨u, v, hu, -, rfl⟩ := openOn_append_eq_ok_iff.mp hb
  obtain ⟨opened, hopened, hstage, -⟩ := openOn_singleton hu
  have hwidth : out.length = a.schema.width :=
    push_after_width (openOn_carries ha) hrows hrow hout
  have hfails : ((u.after (a.emitted rows)).push out).1 = .error e :=
    (push_after_eq_error_iff hstage _).mpr (hopened.flow_of_arityFault hfault hwidth)
  rw [after_followedBy, push_followedBy]
  rcases hfirst : (a.after rows).push row with ⟨outcome, later⟩
  rw [hfirst] at hout
  cases hout
  simp only [after_followedBy, push_followedBy]
  rcases hsecond : (u.after (a.emitted rows)).push out with ⟨outcome, latest⟩
  rw [hsecond] at hfails
  cases hfails
  rfl

/-- Whatever rows of the width are pushed, one after the other, those that fail do so with a
type error or with one that a callable raises, and never with one of building or binding. -/
def OnlyRowErrors (c : Chain) (width : Nat) (fs : List Callable) : Prop :=
  ∀ (rows : List Row) (row : Row) (e : Error), (∀ r ∈ rows, r.length = width) →
    row.length = width → ((c.after rows).push row).1 = .error e →
      e.isEarly = false ∧ ((∃ fault, e = .type fault) ∨ ∃ f ∈ fs, f.Raises e)

/-- Built operators whose callables unpack no lists and raise no errors of building or binding
keep these errors away from rows exactly if no row ever comes as far as an update whose
callable does not take as many arguments as there are columns to update. -/
theorem onlyRowErrors_iff {s : Schema} {ops : List Operator} {c : Chain}
    (hbuilt : ∀ op ∈ ops, op.Built)
    (hplain : ∀ f ∈ ops.flatMap Operator.callables, f.unpackList = false)
    (hbodies : ∀ f ∈ ops.flatMap Operator.callables, ∀ e, f.Raises e → e.isEarly = false)
    (hopen : openOn s ops = .ok c) :
    c.OnlyRowErrors s.width (ops.flatMap Operator.callables) ↔
      ∀ front op back, ops = front ++ op :: back → op.arityFault?.isSome →
        ∀ rows row, (∀ r ∈ rows, r.length = s.width) → row.length = s.width →
          ¬Emits s front rows row := by
  constructor
  · intro hlate front op back hsplit hfault rows row hrows hrow hemits
    obtain ⟨e, he⟩ := Option.isSome_iff_exists.mp hfault
    have hpush : ((c.after rows).push row).1 = .error e :=
      push_of_reachesFault hopen hrows hrow ⟨front, op, back, hsplit, he, hemits⟩
    obtain ⟨expected, actual, rfl⟩ := Operator.arity_of_arityFault he
    have hearly := (hlate rows row _ hrows hrow hpush).1
    cases hearly
  · intro hnever rows row e hrows hrow hpush
    rcases error_of_push hbuilt hopen hrows hrow hpush with hrowError | hfault
    · rcases hrowError with ⟨fault, rfl⟩ | ⟨f, hf, hfails⟩
      · exact ⟨rfl, .inl ⟨fault, rfl⟩⟩
      · have hraises := hfails.raises (hplain f hf)
        exact ⟨hbodies f hf e hraises, .inr ⟨f, hf, hraises⟩⟩
    · obtain ⟨front, op, back, hsplit, he, hemits⟩ := hfault
      exact absurd hemits (hnever front op back hsplit (by simp [he]) rows row hrows hrow)

/-- Exchanges two values. -/
def swap : Callable :=
  .ofFunc "swap" (.exactly 2) fun
    | [x, y] => .ok (.list [y, x])
    | _ => .error (.other "not two values")

theorem isEarly_of_swap_raises {e : Error} (h : swap.Raises e) : e.isEarly = false := by
  obtain ⟨args, -, hfunc⟩ := h
  match args with
  | [x, y] => cases hfunc
  | [] | [x] | x :: y :: z :: rest =>
    cases hfunc
    rfl

/-- Rows of two columns that have a first cell, with their two cells exchanged. -/
def exchange : List Operator :=
  [.filter (.isEmpty (.ofColumn (.name "a"))) true,
    .update [.name "a", .name "b"] (.callable swap) (by decide)]

/-- The callable takes two arguments and there are two columns, so no row is left to fail. -/
theorem exchange_onlyRowErrors :
    ∃ c, openOn ⟨["a", "b"], by decide⟩ exchange = .ok c ∧
      (c.push [.int 1, .int 2]).1 = .ok (some [.int 2, .int 1]) ∧
      (∀ op ∈ exchange, op.Built) ∧ c.OnlyRowErrors 2 [swap] := by
  have hbuilt : ∀ op ∈ exchange, op.Built := by
    intro op hop
    rcases List.mem_pair.mp hop with rfl | rfl
    · exact .isEmpty (.column _)
    · trivial
  have hopen : openOn ⟨["a", "b"], by decide⟩ exchange = .ok _ := rfl
  refine ⟨_, hopen, rfl, hbuilt, (onlyRowErrors_iff hbuilt ?_ ?_ hopen).mpr ?_⟩
  · intro f hf
    cases List.mem_singleton.mp hf
    rfl
  · intro f hf e he
    cases List.mem_singleton.mp hf
    exact isEarly_of_swap_raises he
  · intro front op back hsplit hfault
    have hop : op ∈ exchange := by simp [hsplit]
    rcases List.mem_pair.mp hop with rfl | rfl <;> cases hfault

/-- Two columns are updated with a callable of one argument. The operator is built and opened,
and the first row fails with an error of arity. -/
theorem update_defers_arity :
    ∃ op c, Operator.ofUpdate [.name "a", .name "b"] (.callable (.unary "first" .ok)) = .ok op ∧
      op.Built ∧ (∀ f ∈ op.callables, f.unpackList = false) ∧
      (∀ f ∈ op.callables, ∀ e, f.Raises e → e.isEarly = false) ∧
      openOn ⟨["a", "b"], by decide⟩ [op] = .ok c ∧
      (c.push [.int 1, .int 2]).1 = .error (.arity 1 2) ∧ ¬c.OnlyRowErrors 2 op.callables := by
  refine ⟨_, _, rfl, trivial, ?_, ?_, rfl, rfl, ?_⟩
  · intro f hf
    cases List.mem_singleton.mp hf
    rfl
  · intro f hf e he
    cases List.mem_singleton.mp hf
    obtain ⟨args, hcheck, hfunc⟩ := he
    match args with
    | [x] => cases hfunc
    | [] => cases hcheck
    | x :: y :: rest =>
      rw [Callable.unary, Callable.ofFunc, Arity.check, if_neg (by simp)] at hcheck
      cases hcheck
  · intro hlate
    have hearly := (hlate [] [.int 1, .int 2] (.arity 1 2) (by simp) rfl rfl).1
    cases hearly

end Chain

end TableFlow
