import TableFlow.Expr.Bind
import TableFlow.Proofs.Result

/-!
# Expressions that are bound again

A binding writes the position of every column that an expression uses and reads only what the
columns are called. So it does not matter what the positions were before: whether the expression was
bound to other schemas, to the same one, or to one that lacks a column, half-way.

* `Expr.unbound` and `Predicate.unbound` forget all positions. A binding sees no more than that
  (`Expr.bind_unbound`) and changes nothing else (`Expr.unbound_of_bind`).
* `Expr.bind_attempts` and `Predicate.bind_attempts` are about bindings of which some failed.
* `bind_forgets_history` is about bindings that all went through; after the last one, each column
  stands where the last schema has it.
-/

namespace TableFlow

/-! ## Expressions without positions -/

/-- The column without its position. -/
def ColumnVar.unbound (c : ColumnVar) : ColumnVar := ⟨c.reference, none⟩

mutual

/-- The expression without the positions of its columns. -/
def Expr.unbound : Expr → Expr
  | .const v => .const v
  | .column c => .column c.unbound
  | .columns cs => .columns (cs.map ColumnVar.unbound)
  | .apply f args => .apply f (Expr.unboundAll args)
  | .aggregate a args => .aggregate a (Expr.unboundAll args)
  | .text op arg asText => .text op arg.unbound asText
  | .get args index => .get (Expr.unboundAll args) index
  | .pick args positions => .pick (Expr.unboundAll args) positions
  | .test p => .test p.unbound

def Expr.unboundAll : List Expr → List Expr
  | [] => []
  | e :: es => e.unbound :: Expr.unboundAll es

/-- The predicate without the positions of its columns. -/
def Predicate.unbound : Predicate → Predicate
  | .compare op left right => .compare op left.unbound right.unbound
  | .all ps => .all (Predicate.unboundAll ps)
  | .any ps => .any (Predicate.unboundAll ps)
  | .not p => .not p.unbound
  | .isNull e => .isNull e.unbound
  | .isEmpty e => .isEmpty e.unbound
  | .isIn e domain => .isIn e.unbound domain
  | .matchText e m => .matchText e.unbound m
  | .holds e => .holds e.unbound

def Predicate.unboundAll : List Predicate → List Predicate
  | [] => []
  | p :: ps => p.unbound :: Predicate.unboundAll ps

end

section

variable {s : Schema}

/-! ## What a binding reads -/

theorem ColumnVar.bind_unbound (c : ColumnVar) : c.unbound.bind s = c.bind s := rfl

theorem ColumnVar.bindAll_unbound (cs : List ColumnVar) :
    ColumnVar.bindAll s (cs.map ColumnVar.unbound) = ColumnVar.bindAll s cs := by
  induction cs with
  | nil => rfl
  | cons c cs ih => rw [List.map_cons, bindAll, bindAll, bind_unbound, ih]

mutual

/-- A binding does not look at the positions that are there. -/
theorem Expr.bind_unbound (e : Expr) : e.unbound.bind s = e.bind s := by
  match e with
  | .const v => rfl
  | .column c => rfl
  | .columns cs => rw [Expr.unbound, Expr.bind, Expr.bind, ColumnVar.bindAll_unbound]
  | .apply f args | .aggregate a args | .get args index | .pick args positions =>
    rw [Expr.unbound, Expr.bind, Expr.bind, Expr.bindAll_unbound args]
  | .text op arg asText => rw [Expr.unbound, Expr.bind, Expr.bind, Expr.bind_unbound arg]
  | .test p => rw [Expr.unbound, Expr.bind, Expr.bind, Predicate.bind_unbound p]

theorem Expr.bindAll_unbound (es : List Expr) :
    Expr.bindAll s (Expr.unboundAll es) = Expr.bindAll s es := by
  match es with
  | [] => rfl
  | e :: es =>
    rw [Expr.unboundAll, Expr.bindAll, Expr.bindAll, Expr.bind_unbound e, Expr.bindAll_unbound es]

theorem Predicate.bind_unbound (p : Predicate) : p.unbound.bind s = p.bind s := by
  match p with
  | .compare op left right =>
    rw [Predicate.unbound, Predicate.bind, Predicate.bind, Expr.bind_unbound left,
      Expr.bind_unbound right]
  | .all ps | .any ps =>
    rw [Predicate.unbound, Predicate.bind, Predicate.bind, Predicate.bindAll_unbound ps]
  | .not p => rw [Predicate.unbound, Predicate.bind, Predicate.bind, Predicate.bind_unbound p]
  | .isNull e | .isEmpty e | .isIn e domain | .matchText e m | .holds e =>
    rw [Predicate.unbound, Predicate.bind, Predicate.bind, Expr.bind_unbound e]

theorem Predicate.bindAll_unbound (ps : List Predicate) :
    Predicate.bindAll s (Predicate.unboundAll ps) = Predicate.bindAll s ps := by
  match ps with
  | [] => rfl
  | p :: ps =>
    rw [Predicate.unboundAll, Predicate.bindAll, Predicate.bindAll, Predicate.bind_unbound p,
      Predicate.bindAll_unbound ps]

end

/-! ## What a binding changes -/

theorem ColumnVar.unbound_of_bind {c b : ColumnVar} (h : c.bind s = .ok b) :
    b.unbound = c.unbound := by
  unfold ColumnVar.bind at h
  split at h <;> cases h
  rfl

theorem ColumnVar.unbound_of_bindAll {cs bs : List ColumnVar}
    (h : ColumnVar.bindAll s cs = .ok bs) :
    bs.map ColumnVar.unbound = cs.map ColumnVar.unbound := by
  induction cs generalizing bs with
  | nil =>
    cases h
    rfl
  | cons c cs ih =>
    rw [bindAll] at h
    split at h
    · cases h
    · rename_i b hb
      split at h
      · cases h
      · rename_i rest hrest
        cases h
        rw [List.map_cons, List.map_cons, unbound_of_bind hb, ih hrest]

mutual

/-- A binding changes only positions. -/
theorem Expr.unbound_of_bind {e b : Expr} (h : e.bind s = .ok b) : b.unbound = e.unbound := by
  match e with
  | .const v =>
    cases h
    rfl
  | .column c =>
    obtain ⟨d, hd, rfl⟩ := Result.map_eq_ok_iff.mp h
    exact congrArg Expr.column (ColumnVar.unbound_of_bind hd)
  | .columns cs =>
    obtain ⟨ds, hds, rfl⟩ := Result.map_eq_ok_iff.mp h
    exact congrArg Expr.columns (ColumnVar.unbound_of_bindAll hds)
  | .apply f args | .aggregate a args | .get args index | .pick args positions =>
    obtain ⟨bs, hbs, rfl⟩ := Result.map_eq_ok_iff.mp h
    rw [Expr.unbound, Expr.unbound, Expr.unbound_of_bindAll hbs]
  | .text op arg asText =>
    obtain ⟨b, hb, rfl⟩ := Result.map_eq_ok_iff.mp h
    rw [Expr.unbound, Expr.unbound, Expr.unbound_of_bind hb]
  | .test p =>
    obtain ⟨b, hb, rfl⟩ := Result.map_eq_ok_iff.mp h
    rw [Expr.unbound, Expr.unbound, Predicate.unbound_of_bind hb]

theorem Expr.unbound_of_bindAll {es bs : List Expr} (h : Expr.bindAll s es = .ok bs) :
    Expr.unboundAll bs = Expr.unboundAll es := by
  match es with
  | [] =>
    cases h
    rfl
  | e :: es =>
    rw [Expr.bindAll] at h
    split at h
    · cases h
    · rename_i b hb
      obtain ⟨rest, hrest, rfl⟩ := Result.map_eq_ok_iff.mp h
      rw [Expr.unboundAll, Expr.unboundAll, Expr.unbound_of_bind hb, Expr.unbound_of_bindAll hrest]

theorem Predicate.unbound_of_bind {p b : Predicate} (h : p.bind s = .ok b) :
    b.unbound = p.unbound := by
  match p with
  | .compare op left right =>
    rw [Predicate.bind] at h
    split at h
    · cases h
    · rename_i l hl
      obtain ⟨r, hr, rfl⟩ := Result.map_eq_ok_iff.mp h
      rw [Predicate.unbound, Predicate.unbound, Expr.unbound_of_bind hl, Expr.unbound_of_bind hr]
  | .all ps | .any ps =>
    obtain ⟨bs, hbs, rfl⟩ := Result.map_eq_ok_iff.mp h
    rw [Predicate.unbound, Predicate.unbound, Predicate.unbound_of_bindAll hbs]
  | .not p =>
    obtain ⟨b, hb, rfl⟩ := Result.map_eq_ok_iff.mp h
    rw [Predicate.unbound, Predicate.unbound, Predicate.unbound_of_bind hb]
  | .isNull e | .isEmpty e | .isIn e domain | .matchText e m | .holds e =>
    obtain ⟨b, hb, rfl⟩ := Result.map_eq_ok_iff.mp h
    rw [Predicate.unbound, Predicate.unbound, Expr.unbound_of_bind hb]

theorem Predicate.unbound_of_bindAll {ps bs : List Predicate}
    (h : Predicate.bindAll s ps = .ok bs) :
    Predicate.unboundAll bs = Predicate.unboundAll ps := by
  match ps with
  | [] =>
    cases h
    rfl
  | p :: ps =>
    rw [Predicate.bindAll] at h
    split at h
    · cases h
    · rename_i b hb
      obtain ⟨rest, hrest, rfl⟩ := Result.map_eq_ok_iff.mp h
      rw [Predicate.unboundAll, Predicate.unboundAll, Predicate.unbound_of_bind hb,
        Predicate.unbound_of_bindAll hrest]

end

/-! ## Bindings that failed -/

theorem ColumnVar.unbound_bindPartly (c : ColumnVar) : (c.bindPartly s).unbound = c.unbound := by
  unfold bindPartly
  split
  · rename_i b hb
    exact unbound_of_bind hb
  · rfl

theorem ColumnVar.unbound_bindPartlyAll (cs : List ColumnVar) :
    (ColumnVar.bindPartlyAll s cs).map ColumnVar.unbound = cs.map ColumnVar.unbound := by
  induction cs with
  | nil => rfl
  | cons c cs ih =>
    rw [bindPartlyAll]
    split
    · rename_i b hb
      rw [List.map_cons, List.map_cons, unbound_of_bind hb, ih]
    · rfl

mutual

/-- What a binding leaves when it fails differs from the expression in positions only. -/
theorem Expr.unbound_bindPartly (e : Expr) : (e.bindPartly s).unbound = e.unbound := by
  match e with
  | .const v => rfl
  | .column c => exact congrArg Expr.column (ColumnVar.unbound_bindPartly c)
  | .columns cs => exact congrArg Expr.columns (ColumnVar.unbound_bindPartlyAll cs)
  | .apply f args | .aggregate a args | .get args index | .pick args positions =>
    rw [Expr.bindPartly, Expr.unbound, Expr.unbound, Expr.unbound_bindPartlyAll args]
  | .text op arg asText =>
    rw [Expr.bindPartly, Expr.unbound, Expr.unbound, Expr.unbound_bindPartly arg]
  | .test p => rw [Expr.bindPartly, Expr.unbound, Expr.unbound, Predicate.unbound_bindPartly p]

theorem Expr.unbound_bindPartlyAll (es : List Expr) :
    Expr.unboundAll (Expr.bindPartlyAll s es) = Expr.unboundAll es := by
  match es with
  | [] => rfl
  | e :: es =>
    rw [Expr.bindPartlyAll]
    split
    · rename_i b hb
      rw [Expr.unboundAll, Expr.unboundAll, Expr.unbound_of_bind hb, Expr.unbound_bindPartlyAll es]
    · rw [Expr.unboundAll, Expr.unboundAll, Expr.unbound_bindPartly e]

theorem Predicate.unbound_bindPartly (p : Predicate) : (p.bindPartly s).unbound = p.unbound := by
  match p with
  | .compare op left right =>
    rw [Predicate.bindPartly]
    split
    · rename_i l hl
      rw [Predicate.unbound, Predicate.unbound, Expr.unbound_of_bind hl,
        Expr.unbound_bindPartly right]
    · rw [Predicate.unbound, Predicate.unbound, Expr.unbound_bindPartly left]
  | .all ps | .any ps =>
    rw [Predicate.bindPartly, Predicate.unbound, Predicate.unbound,
      Predicate.unbound_bindPartlyAll ps]
  | .not p =>
    rw [Predicate.bindPartly, Predicate.unbound, Predicate.unbound, Predicate.unbound_bindPartly p]
  | .isNull e | .isEmpty e | .isIn e domain | .matchText e m | .holds e =>
    rw [Predicate.bindPartly, Predicate.unbound, Predicate.unbound, Expr.unbound_bindPartly e]

theorem Predicate.unbound_bindPartlyAll (ps : List Predicate) :
    Predicate.unboundAll (Predicate.bindPartlyAll s ps) = Predicate.unboundAll ps := by
  match ps with
  | [] => rfl
  | p :: ps =>
    rw [Predicate.bindPartlyAll]
    split
    · rename_i b hb
      rw [Predicate.unboundAll, Predicate.unboundAll, Predicate.unbound_of_bind hb,
        Predicate.unbound_bindPartlyAll ps]
    · rw [Predicate.unboundAll, Predicate.unboundAll, Predicate.unbound_bindPartly p]

end

end

/-! ## Where the columns stand -/

/-- The column has the position that the schema gives it. -/
def ColumnVar.StandsIn (s : Schema) (c : ColumnVar) : Prop :=
  ∃ pos, s.resolve c.reference = .ok pos ∧ c.position = some pos

mutual

/-- The columns of an expression with their positions, from left to right. -/
def Expr.columnVars : Expr → List ColumnVar
  | .const _ => []
  | .column c => [c]
  | .columns cs => cs
  | .apply _ args => Expr.columnVarsAll args
  | .aggregate _ args => Expr.columnVarsAll args
  | .text _ arg _ => arg.columnVars
  | .get args _ => Expr.columnVarsAll args
  | .pick args _ => Expr.columnVarsAll args
  | .test p => p.columnVars

def Expr.columnVarsAll : List Expr → List ColumnVar
  | [] => []
  | e :: es => e.columnVars ++ Expr.columnVarsAll es

/-- The columns of a predicate with their positions, from left to right. -/
def Predicate.columnVars : Predicate → List ColumnVar
  | .compare _ left right => left.columnVars ++ right.columnVars
  | .all ps => Predicate.columnVarsAll ps
  | .any ps => Predicate.columnVarsAll ps
  | .not p => p.columnVars
  | .isNull e => e.columnVars
  | .isEmpty e => e.columnVars
  | .isIn e _ => e.columnVars
  | .matchText e _ => e.columnVars
  | .holds e => e.columnVars

def Predicate.columnVarsAll : List Predicate → List ColumnVar
  | [] => []
  | p :: ps => p.columnVars ++ Predicate.columnVarsAll ps

end

section

variable {s : Schema}

theorem ColumnVar.standsIn_of_bind {c b : ColumnVar} (h : c.bind s = .ok b) : b.StandsIn s := by
  unfold ColumnVar.bind at h
  split at h <;> cases h
  rename_i pos hpos
  exact ⟨pos, hpos, rfl⟩

theorem ColumnVar.standIn_of_bindAll {cs bs : List ColumnVar}
    (h : ColumnVar.bindAll s cs = .ok bs) : ∀ b ∈ bs, b.StandsIn s := by
  induction cs generalizing bs with
  | nil =>
    cases h
    exact List.forall_mem_nil _
  | cons c cs ih =>
    rw [bindAll] at h
    split at h
    · cases h
    · rename_i b hb
      split at h
      · cases h
      · rename_i rest hrest
        cases h
        exact List.forall_mem_cons.mpr ⟨standsIn_of_bind hb, ih hrest⟩

mutual

/-- Where a binding goes through, it leaves no column without the position of its schema. -/
theorem Expr.standIn_of_bind {e b : Expr} (h : e.bind s = .ok b) :
    ∀ c ∈ b.columnVars, c.StandsIn s := by
  match e with
  | .const v =>
    cases h
    exact List.forall_mem_nil _
  | .column c =>
    obtain ⟨d, hd, rfl⟩ := Result.map_eq_ok_iff.mp h
    exact List.forall_mem_singleton.mpr (ColumnVar.standsIn_of_bind hd)
  | .columns cs =>
    obtain ⟨ds, hds, rfl⟩ := Result.map_eq_ok_iff.mp h
    exact ColumnVar.standIn_of_bindAll hds
  | .apply f args | .aggregate a args | .get args index | .pick args positions =>
    obtain ⟨bs, hbs, rfl⟩ := Result.map_eq_ok_iff.mp h
    exact Expr.standIn_of_bindAll hbs
  | .text op arg asText =>
    obtain ⟨b, hb, rfl⟩ := Result.map_eq_ok_iff.mp h
    show ∀ c ∈ b.columnVars, c.StandsIn s
    exact Expr.standIn_of_bind hb
  | .test p =>
    obtain ⟨b, hb, rfl⟩ := Result.map_eq_ok_iff.mp h
    exact Predicate.standIn_of_bind hb

theorem Expr.standIn_of_bindAll {es bs : List Expr} (h : Expr.bindAll s es = .ok bs) :
    ∀ c ∈ Expr.columnVarsAll bs, c.StandsIn s := by
  match es with
  | [] =>
    cases h
    exact List.forall_mem_nil _
  | e :: es =>
    rw [Expr.bindAll] at h
    split at h
    · cases h
    · rename_i b hb
      obtain ⟨rest, hrest, rfl⟩ := Result.map_eq_ok_iff.mp h
      exact List.forall_mem_append.mpr ⟨Expr.standIn_of_bind hb, Expr.standIn_of_bindAll hrest⟩

theorem Predicate.standIn_of_bind {p b : Predicate} (h : p.bind s = .ok b) :
    ∀ c ∈ b.columnVars, c.StandsIn s := by
  match p with
  | .compare op left right =>
    rw [Predicate.bind] at h
    split at h
    · cases h
    · rename_i l hl
      obtain ⟨r, hr, rfl⟩ := Result.map_eq_ok_iff.mp h
      exact List.forall_mem_append.mpr ⟨Expr.standIn_of_bind hl, Expr.standIn_of_bind hr⟩
  | .all ps | .any ps =>
    obtain ⟨bs, hbs, rfl⟩ := Result.map_eq_ok_iff.mp h
    exact Predicate.standIn_of_bindAll hbs
  | .not p =>
    obtain ⟨b, hb, rfl⟩ := Result.map_eq_ok_iff.mp h
    show ∀ c ∈ b.columnVars, c.StandsIn s
    exact Predicate.standIn_of_bind hb
  | .isNull e | .isEmpty e | .isIn e domain | .matchText e m | .holds e =>
    obtain ⟨b, hb, rfl⟩ := Result.map_eq_ok_iff.mp h
    exact Expr.standIn_of_bind hb

theorem Predicate.standIn_of_bindAll {ps bs : List Predicate}
    (h : Predicate.bindAll s ps = .ok bs) : ∀ c ∈ Predicate.columnVarsAll bs, c.StandsIn s := by
  match ps with
  | [] =>
    cases h
    exact List.forall_mem_nil _
  | p :: ps =>
    rw [Predicate.bindAll] at h
    split at h
    · cases h
    · rename_i b hb
      obtain ⟨rest, hrest, rfl⟩ := Result.map_eq_ok_iff.mp h
      exact List.forall_mem_append.mpr
        ⟨Predicate.standIn_of_bind hb, Predicate.standIn_of_bindAll hrest⟩

end

end

/-! ## Histories of bindings -/

/-- The expression after an attempt to bind it. -/
def Expr.attempt (s : Schema) (e : Expr) : Expr :=
  match e.bind s with
  | .ok b => b
  | .error _ => e.bindPartly s

/-- The predicate after an attempt to bind it. -/
def Predicate.attempt (s : Schema) (p : Predicate) : Predicate :=
  match p.bind s with
  | .ok b => b
  | .error _ => p.bindPartly s

theorem Expr.unbound_attempt (s : Schema) (e : Expr) : (e.attempt s).unbound = e.unbound := by
  unfold attempt
  split
  · rename_i b hb
    exact unbound_of_bind hb
  · exact e.unbound_bindPartly

theorem Predicate.unbound_attempt (s : Schema) (p : Predicate) :
    (p.attempt s).unbound = p.unbound := by
  unfold attempt
  split
  · rename_i b hb
    exact unbound_of_bind hb
  · exact p.unbound_bindPartly

section

variable (history : List Schema) (s : Schema)

/-- After any attempts, whether or not they went through, a binding is as without them. -/
theorem Expr.bind_attempts (e : Expr) :
    (history.foldl (fun e t => e.attempt t) e).bind s = e.bind s := by
  induction history generalizing e with
  | nil => rfl
  | cons t history ih =>
    rw [List.foldl_cons, ih, ← Expr.bind_unbound, Expr.unbound_attempt, Expr.bind_unbound]

theorem Predicate.bind_attempts (p : Predicate) :
    (history.foldl (fun p t => p.attempt t) p).bind s = p.bind s := by
  induction history generalizing p with
  | nil => rfl
  | cons t history ih =>
    rw [List.foldl_cons, ih, ← Predicate.bind_unbound, Predicate.unbound_attempt,
      Predicate.bind_unbound]

/-- After bindings that went through, one after the other, the next one is as without them: it
fails alike, or it gives the same expression, with each column where the last schema has it. Once
more, it changes nothing. -/
theorem bind_forgets_history :
    (∀ e b : Expr, history.foldlM (fun e t => e.bind t) e = .ok b →
      b.bind s = e.bind s ∧ ∀ bound, b.bind s = .ok bound →
        (∀ c ∈ bound.columnVars, c.StandsIn s) ∧ bound.bind s = .ok bound) ∧
    (∀ p b : Predicate, history.foldlM (fun p t => p.bind t) p = .ok b →
      b.bind s = p.bind s ∧ ∀ bound, b.bind s = .ok bound →
        (∀ c ∈ bound.columnVars, c.StandsIn s) ∧ bound.bind s = .ok bound) := by
  constructor
  · intro e b hb
    have hsame : b.unbound = e.unbound :=
      Result.foldlM_keeps (fun _ _ _ hstep => Expr.unbound_of_bind hstep) hb
    refine ⟨by rw [← Expr.bind_unbound, hsame, Expr.bind_unbound], fun bound hbound => ?_⟩
    refine ⟨Expr.standIn_of_bind hbound, ?_⟩
    rw [← Expr.bind_unbound, Expr.unbound_of_bind hbound, Expr.bind_unbound, hbound]
  · intro p b hb
    have hsame : b.unbound = p.unbound :=
      Result.foldlM_keeps (fun _ _ _ hstep => Predicate.unbound_of_bind hstep) hb
    refine ⟨by rw [← Predicate.bind_unbound, hsame, Predicate.bind_unbound], fun bound hbound => ?_⟩
    refine ⟨Predicate.standIn_of_bind hbound, ?_⟩
    rw [← Predicate.bind_unbound, Predicate.unbound_of_bind hbound, Predicate.bind_unbound, hbound]

end

/-- A comparison inside an expression that was bound to two schemas with other orders of the columns
is bound to a third one as if it were new, and a predicate fails at the column that is missing
there. -/
theorem reordered_bind_forgets :
    (∃ b bound : Expr,
      [⟨["a", "b"], by decide⟩, ⟨["b", "c", "a"], by decide⟩].foldlM (fun e t => e.bind t)
        (Expr.test (.compare .lt (.ofColumn (.name "b")) (.ofColumns [.name "a", .position 1]))) =
          .ok b ∧
      b.bind ⟨["c", "a", "b"], by decide⟩ = .ok bound ∧
      ∀ c ∈ bound.columnVars, c.StandsIn ⟨["c", "a", "b"], by decide⟩) ∧
    ∃ b : Predicate,
      [⟨["a", "b"], by decide⟩].foldlM (fun p t => p.bind t)
        (Predicate.all [.isNull (.ofColumn (.name "a")), .not (.isEmpty (.ofColumn (.name "b")))]) =
          .ok b ∧
      b.bind ⟨["a"], by decide⟩ = .error (.unknownColumn (.reference (.name "b"))) := by
  have hexpr := (bind_forgets_history
    [⟨["a", "b"], by decide⟩, ⟨["b", "c", "a"], by decide⟩] ⟨["c", "a", "b"], by decide⟩).1
    (Expr.test (.compare .lt (.ofColumn (.name "b")) (.ofColumns [.name "a", .position 1]))) _ rfl
  have hpredicate := (bind_forgets_history [⟨["a", "b"], by decide⟩] ⟨["a"], by decide⟩).2
    (Predicate.all [.isNull (.ofColumn (.name "a")), .not (.isEmpty (.ofColumn (.name "b")))]) _ rfl
  exact ⟨⟨_, _, rfl, rfl, (hexpr.2 _ rfl).1⟩, _, rfl, hpredicate.1⟩

end TableFlow
