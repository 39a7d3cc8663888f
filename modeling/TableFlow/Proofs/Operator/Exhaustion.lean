import TableFlow.Proofs.Operator.History
import TableFlow.Proofs.Operator.Passage

/-!
# Chains that can emit nothing more

A chain may be pushed on after its end, and after pushes that failed. What it counts stays
right all the same, because every limit among its stages has seen each row that came out.

* `pushStages_limit` is what one push does to a limit, wherever it stands;
* `Chain.Accounted` is the invariant, `Chain.Accounted.push` one push and
  `Chain.Accounted.after` any number of them; `Chain.Counted` is its part about numbers, which
  holds with any collector at the end of the chain;
* `Chain.Over` and `Running.Over` are what it means to be exhausted for good, and
  `Running.chain_after` says that a chain does not notice who takes its rows, as long as the
  collector never stops;
* `Chain.pushes_accounted` puts these together.
-/

namespace TableFlow

/-! ## One push -/

namespace Stage

theorem isExhausted_iff {stage : Stage} :
    stage.isExhausted = true ↔ ∃ limit count, stage = .limit limit count ∧ limit ≤ count := by
  cases stage <;> simp [isExhausted]

/-- A limit that lets a row through has room for it, and counts it. -/
theorem Gives.counts_row {limit count : Nat} {row out : Row} {flow : Flow}
    (h : (Stage.limit limit count).Gives row flow) (hout : flow.row? = some out) :
    count < limit ∧ (Stage.limit limit count).next = .limit limit (count + 1) := by
  have hroom : count < limit := by
    cases h with
    | full hfull => cases hout
    | last => omega
    | counted hmore => omega
  exact ⟨hroom, by simp [next, Nat.not_le.mpr hroom]⟩

/-- Only a limit says that no further row will go on, and then it is reached. -/
theorem Gives.isExhausted_next {stage : Stage} {row : Row} {flow : Flow}
    (h : stage.Gives row flow) (hstops : flow.stops = true) : stage.next.isExhausted = true := by
  cases h with
  | full hfull => simp [next, isExhausted, hfull]
  | last => simp only [next, isExhausted, Nat.not_succ_le_self, if_false, Nat.le_refl, decide_true]
  | kept | dropped | select | pass | counted | insert | update | typecast => cases hstops

theorem next_limit (limit count : Nat) :
    ∃ later, (Stage.limit limit count).next = .limit limit later ∧ count ≤ later ∧
      (count ≤ limit → later ≤ limit) := by
  rw [next]
  split
  · exact ⟨count, rfl, Nat.le_refl count, id⟩
  · exact ⟨count + 1, rfl, Nat.le_succ count, fun _ => by omega⟩

end Stage

/-- What a push does to a limit among the stages: it may count a row that gets lost behind
it, and it has room for a row that comes out, and counts it. -/
theorem pushStages_limit {stages : List Stage} {limit count : Nat}
    (hmem : .limit limit count ∈ stages) (row : Row) :
    ∃ later, .limit limit later ∈ (pushStages row stages).stages ∧ count ≤ later ∧
      (count ≤ limit → later ≤ limit) ∧
      ∀ out, (pushStages row stages).row = .ok (some out) → count < limit ∧ later = count + 1 := by
  induction stages generalizing row with
  | nil => cases hmem
  | cons stage stages ih =>
    rw [pushStages_cons]
    cases hflow : stage.flow row with
    | error e => exact ⟨count, hmem, Nat.le_refl count, id, fun _ hout => by cases hout⟩
    | ok flow =>
      have hgives := Stage.gives_of_flow hflow
      cases hgoes : flow.row? with
      | none =>
        -- the row goes no further, so nothing comes out
        simp only [hgoes]
        rcases List.mem_cons.mp hmem with rfl | hrest
        · obtain ⟨later, hnext, hle, hlimit⟩ := Stage.next_limit limit count
          exact ⟨later, hnext ▸ List.mem_cons_self, hle, hlimit, fun _ hout => by cases hout⟩
        · exact ⟨count, List.mem_cons_of_mem _ hrest, Nat.le_refl count, id,
            fun _ hout => by cases hout⟩
      | some next =>
        simp only [hgoes]
        rcases List.mem_cons.mp hmem with rfl | hrest
        · obtain ⟨hroom, hnext⟩ := hgives.counts_row hgoes
          exact ⟨count + 1, hnext ▸ List.mem_cons_self, Nat.le_succ count, fun _ => hroom,
            fun _ _ => ⟨hroom, rfl⟩⟩
        · obtain ⟨later, hlater, hle, hlimit, hcounted⟩ := ih hrest next
          exact ⟨later, List.mem_cons_of_mem _ hlater, hle, hlimit, hcounted⟩

/-- Stages that ask to stop have a limit among them that is reached. -/
theorem pushStages_stopped {stages : List Stage} {row : Row}
    (h : (pushStages row stages).stopped = true) :
    ∃ stage ∈ (pushStages row stages).stages, stage.isExhausted = true := by
  induction stages generalizing row with
  | nil => cases h
  | cons stage stages ih =>
    rw [pushStages_cons] at h ⊢
    cases hflow : stage.flow row with
    | error e =>
      rw [hflow] at h
      cases h
    | ok flow =>
      have hgives := Stage.gives_of_flow hflow
      rw [hflow] at h
      cases hgoes : flow.row? with
      | none =>
        simp only [hgoes] at h ⊢
        exact ⟨_, List.mem_cons_self, hgives.isExhausted_next h⟩
      | some next =>
        simp only [hgoes, Bool.or_eq_true] at h ⊢
        rcases h with hstops | hrest
        · exact ⟨_, List.mem_cons_self, hgives.isExhausted_next hstops⟩
        · obtain ⟨last, hlast, hend⟩ := ih hrest
          exact ⟨last, List.mem_cons_of_mem _ hlast, hend⟩

/-- Every limit among the operators is one among the stages, and has counted nothing yet. -/
theorem openStages_limit {s out : Schema} {ops : List Operator} {stages : List Stage} {limit : Nat}
    (hmem : .limit limit ∈ ops) (hopen : openStages s ops = .ok (stages, out)) :
    .limit limit 0 ∈ stages := by
  induction ops generalizing s stages with
  | nil => cases hmem
  | cons op ops ih =>
    rw [openStages] at hopen
    split at hopen
    · cases hopen
    rename_i opened hopened
    split at hopen
    · cases hopen
    rename_i rest last hrest
    cases hopen
    rcases List.mem_cons.mp hmem with rfl | hlater
    · cases hopened
      exact List.mem_cons_self
    · exact List.mem_cons_of_mem _ (ih hlater hrest)

namespace Chain

/-! ## Any number of pushes -/

/-- What the numbers of a chain of operators say after so many pushes. -/
structure Counted (ops : List Operator) (pushes : Nat) (c : Chain) : Prop where
  read_eq : c.stats.read = pushes
  emitted_le_read : c.stats.emitted ≤ c.stats.read
  /-- A limit has counted every row that came out, and no more than it lets through. -/
  counted : ∀ limit, .limit limit ∈ ops →
    ∃ count, .limit limit count ∈ c.stages ∧ c.stats.emitted ≤ count ∧ count ≤ limit

/-- What holds of a chain of operators after so many pushes, unless a collector has asked to
stop: it is stopped by nothing but a limit that is reached. -/
structure Accounted (ops : List Operator) (pushes : Nat) (c : Chain) : Prop
    extends Counted ops pushes c where
  exhausted_of_stopped : c.stopped = true → ∃ stage ∈ c.stages, stage.isExhausted = true

variable {s : Schema} {ops : List Operator} {c : Chain} {pushes : Nat}

theorem accounted_of_openOn (h : openOn s ops = .ok c) : c.Accounted ops 0 := by
  unfold openOn at h
  split at h
  · cases h
  rename_i stages out hstages
  cases h
  refine ⟨⟨rfl, Nat.le_refl 0, ?_⟩, fun hstopped => by cases hstopped⟩
  intro limit hmem
  exact ⟨0, openStages_limit hmem hstages, Nat.le_refl 0, Nat.zero_le limit⟩

/-- A limit that is reached stays so. -/
theorem exists_exhausted_push {row : Row} (h : ∃ stage ∈ c.stages, stage.isExhausted = true) :
    ∃ stage ∈ (c.push row).2.stages, stage.isExhausted = true := by
  obtain ⟨stage, hmem, hend⟩ := h
  obtain ⟨limit, count, rfl, hreached⟩ := Stage.isExhausted_iff.mp hend
  obtain ⟨later, hlater, hle, -, -⟩ := pushStages_limit hmem row
  exact ⟨_, hlater, Stage.isExhausted_iff.mpr ⟨limit, later, rfl, Nat.le_trans hreached hle⟩⟩

/-- A chain that is exhausted stays so, whatever has stopped it. -/
theorem isExhausted_push (h : c.isExhausted = true) (row : Row) :
    (c.push row).2.isExhausted = true := by
  rw [isExhausted, Bool.or_eq_true, List.any_eq_true] at h ⊢
  exact h.imp (fun hstopped => Bool.or_eq_true_iff.mpr (.inl hstopped)) exists_exhausted_push

theorem isExhausted_heed (h : c.isExhausted = true) (flow : Flow) :
    (c.heed flow).isExhausted = true := by
  rw [isExhausted, Bool.or_eq_true] at h ⊢
  exact h.imp_left fun hstopped => Bool.or_eq_true_iff.mpr (.inl hstopped)

theorem push_emitted_of_row {row out : Row} (h : (c.push row).1 = .ok (some out)) :
    (c.push row).2.stats.emitted = c.stats.emitted + 1 := by
  rw [push_emitted, h]

theorem push_emitted_of_no_row {row : Row} (h : ∀ out, (c.push row).1 ≠ .ok (some out)) :
    (c.push row).2.stats.emitted = c.stats.emitted := by
  rw [push_emitted]
  split
  · rename_i out hout
    exact absurd hout (h out)
  · rfl

theorem Counted.push (h : c.Counted ops pushes) (row : Row) :
    (c.push row).2.Counted ops (pushes + 1) := by
  have hread := c.push_read row
  have hle := h.emitted_le_read
  by_cases hout : ∃ out, (c.push row).1 = .ok (some out)
  · -- each limit has had room for the row, and has counted it
    obtain ⟨out, hout⟩ := hout
    have hemitted := push_emitted_of_row hout
    refine ⟨by rw [hread, h.read_eq], by omega, ?_⟩
    intro limit hlimit
    obtain ⟨count, hmem, hcount, hroom⟩ := h.counted limit hlimit
    obtain ⟨later, hlater, -, hkept, hcounts⟩ := pushStages_limit hmem row
    obtain ⟨-, rfl⟩ := hcounts out hout
    exact ⟨count + 1, hlater, by omega, hkept hroom⟩
  · have hemitted := push_emitted_of_no_row fun out h => hout ⟨out, h⟩
    refine ⟨by rw [hread, h.read_eq], by omega, ?_⟩
    intro limit hlimit
    obtain ⟨count, hmem, hcount, hroom⟩ := h.counted limit hlimit
    obtain ⟨later, hlater, hgrows, hkept, -⟩ := pushStages_limit hmem row
    exact ⟨later, hlater, by omega, hkept hroom⟩

/-- A collector that asks to stop changes no numbers. -/
theorem Counted.heed (h : c.Counted ops pushes) (flow : Flow) :
    (c.heed flow).Counted ops pushes :=
  ⟨h.read_eq, h.emitted_le_read, h.counted⟩

theorem Accounted.push (h : c.Accounted ops pushes) (row : Row) :
    (c.push row).2.Accounted ops (pushes + 1) := by
  refine ⟨h.toCounted.push row, fun hstopped => ?_⟩
  rcases Bool.or_eq_true_iff.mp hstopped with hbefore | hnow
  · exact exists_exhausted_push (h.exhausted_of_stopped hbefore)
  · exact pushStages_stopped hnow

theorem Accounted.after (h : c.Accounted ops pushes) (rows : List Row) :
    (c.after rows).Accounted ops (pushes + rows.length) := by
  induction rows generalizing c pushes with
  | nil => exact h
  | cons row rows ih =>
    have hlater := ih (h.push row)
    rwa [Nat.add_assoc, Nat.add_comm 1] at hlater

/-! ## At the end -/

/-- Nothing comes out of a chain that is exhausted. -/
theorem Accounted.push_of_isExhausted (h : c.Accounted ops pushes) (hend : c.isExhausted = true)
    (row : Row) : ∀ out, (c.push row).1 ≠ .ok (some out) := by
  have hreached : ∃ stage ∈ c.stages, stage.isExhausted = true := by
    rw [isExhausted, Bool.or_eq_true, List.any_eq_true] at hend
    exact hend.elim h.exhausted_of_stopped id
  intro out hout
  obtain ⟨stage, hmem, hstage⟩ := hreached
  obtain ⟨limit, count, rfl, hfull⟩ := Stage.isExhausted_iff.mp hstage
  obtain ⟨later, -, -, -, hcounts⟩ := pushStages_limit hmem row
  exact absurd hfull (Nat.not_le.mpr (hcounts out hout).1)

/-- The chain is exhausted, and so it stays however often it is pushed on: no row comes out. -/
structure Over (c : Chain) : Prop where
  stays : ∀ more, (c.after more).isExhausted = true
  emitted : ∀ more, (c.after more).stats.emitted = c.stats.emitted
  no_row : ∀ more row out, ((c.after more).push row).1 ≠ .ok (some out)

theorem Over.push (h : c.Over) (row : Row) : (c.push row).2.Over where
  stays more := h.stays (row :: more)
  emitted more := (h.emitted (row :: more)).trans (h.emitted [row]).symm
  no_row more := h.no_row (row :: more)

theorem Accounted.over (h : c.Accounted ops pushes) (hend : c.isExhausted = true) : c.Over := by
  have hstays : ∀ more, (c.after more).isExhausted = true := by
    intro more
    induction more generalizing c pushes with
    | nil => exact hend
    | cons row more ih => exact ih (h.push row) (isExhausted_push hend row)
  have hnone : ∀ more row out, ((c.after more).push row).1 ≠ .ok (some out) :=
    fun more row => (h.after more).push_of_isExhausted (hstays more) row
  refine ⟨hstays, fun more => ?_, hnone⟩
  clear hstays hnone
  induction more generalizing c pushes with
  | nil => rfl
  | cons row more ih =>
    have hsame := push_emitted_of_no_row (h.push_of_isExhausted hend row)
    exact (ih (h.push row) (isExhausted_push hend row)).trans hsame

end Chain

/-! ## Into a collector -/

namespace Running

variable {σ α : Type} {collector : Collector σ α} {ops : List Operator} {pushes : Nat}

/-- The run after rows have been pushed, whatever became of them. -/
def after (collector : Collector σ α) (r : Running σ) : List Entry → Running σ
  | [] => r
  | entry :: entries => after collector (r.push collector entry).2 entries

/-- No collector makes a difference to what the chain counts. -/
theorem counted_after {r : Running σ} (h : r.chain.Counted ops pushes)
    (collector : Collector σ α) (entries : List Entry) :
    (after collector r entries).chain.Counted ops (pushes + entries.length) := by
  induction entries generalizing r pushes with
  | nil => exact h
  | cons entry entries ih =>
    obtain ⟨flow, hchain, -⟩ := push_chain collector r entry
    have hlater := ih (hchain ▸ (h.push entry.2).heed flow)
    rwa [Nat.add_assoc, Nat.add_comm 1] at hlater

theorem isExhausted_chain_after {r : Running σ} (h : r.chain.isExhausted = true)
    (collector : Collector σ α) (entries : List Entry) :
    (after collector r entries).chain.isExhausted = true := by
  induction entries generalizing r with
  | nil => exact h
  | cons entry entries ih =>
    obtain ⟨flow, hchain, -⟩ := push_chain collector r entry
    exact ih (hchain ▸ Chain.isExhausted_heed (Chain.isExhausted_push h entry.2) flow)

/-- A collector that never stops makes no difference to the chain at all. -/
theorem chain_after (hlasts : collector.NeverStops) (r : Running σ) (entries : List Entry) :
    (after collector r entries).chain = r.chain.after (entries.map Prod.snd) := by
  induction entries generalizing r with
  | nil => rfl
  | cons entry entries ih =>
    obtain ⟨flow, hchain, hgoes⟩ := push_chain collector r entry
    rw [after, ih, hchain, Chain.heed_of_goes_on (hgoes hlasts)]
    rfl

/-- A collector is only asked to take rows that come out. -/
theorem push_of_no_row {r : Running σ} {entry : Entry}
    (h : ∀ out, (r.chain.push entry.2).1 ≠ .ok (some out)) :
    (r.push collector entry).2.state = r.state ∧
      ∀ {β : Type} (other : Collector σ β), r.push other entry = r.push collector entry := by
  unfold push
  rcases hpush : r.chain.push entry.2 with ⟨e | none | out, chain⟩
  · exact ⟨rfl, fun _ => rfl⟩
  · exact ⟨rfl, fun _ => rfl⟩
  · exact absurd (congrArg Prod.fst hpush) (h out)

/-- The run is exhausted, and so it stays however often it is pushed on: the collector is asked
to take nothing, so any other one might stand in its place. -/
structure Over (collector : Collector σ α) (r : Running σ) : Prop where
  stays : ∀ more, (after collector r more).isExhausted collector = true
  emitted : ∀ more, (after collector r more).chain.stats.emitted = r.chain.stats.emitted
  state : ∀ more, (after collector r more).state = r.state
  unasked : ∀ more entry {β : Type} (other : Collector σ β),
    (after collector r more).push other entry = (after collector r more).push collector entry

theorem state_after_of_over (hlasts : collector.NeverStops) {r : Running σ} (h : r.chain.Over)
    (more : List Entry) : (after collector r more).state = r.state := by
  induction more generalizing r with
  | nil => rfl
  | cons entry more ih =>
    have hchain : (r.push collector entry).2.chain = (r.chain.push entry.2).2 :=
      chain_after hlasts r [entry]
    have hkept : (r.push collector entry).2.state = r.state :=
      (push_of_no_row (h.no_row [] entry.2)).1
    exact (ih (hchain ▸ h.push entry.2)).trans hkept

theorem over_of_chain (hlasts : collector.NeverStops) {r : Running σ} (h : r.chain.Over) :
    r.Over collector where
  stays more := by
    rw [isExhausted_of_neverStops hlasts, chain_after hlasts]
    exact h.stays _
  emitted more := by
    rw [chain_after hlasts]
    exact h.emitted _
  state := state_after_of_over hlasts h
  unasked more entry _ other := by
    refine (push_of_no_row fun out => ?_).2 other
    rw [chain_after hlasts]
    exact h.no_row _ entry.2 out

end Running

/-- The numbers of a chain of operators after so many pushes. -/
structure Stats.Within (ops : List Operator) (pushes : Nat) (stats : Stats) : Prop where
  read_eq : stats.read = pushes
  emitted_le_read : stats.emitted ≤ stats.read
  emitted_le_limit : ∀ limit, .limit limit ∈ ops → stats.emitted ≤ limit

namespace Chain

theorem Counted.within {ops : List Operator} {pushes : Nat} {c : Chain}
    (h : c.Counted ops pushes) : c.stats.Within ops pushes where
  read_eq := h.read_eq
  emitted_le_read := h.emitted_le_read
  emitted_le_limit limit hlimit := by
    obtain ⟨count, -, hemitted, hroom⟩ := h.counted limit hlimit
    exact Nat.le_trans hemitted hroom

/-- A chain that has been opened, after any number of pushes, whatever became of them. It has
counted each of them, and nothing comes out that did not go in or that a limit has no room
for. Once it is exhausted it stays so, and no row comes out. All this holds with a collector
at its end, too: the numbers and that an exhausted chain stays so with any collector, and that
nothing is handed to the collector any more if it is not the collector that has stopped the
run. None of the collectors that pipelines run into does. -/
theorem pushes_accounted {s : Schema} {ops : List Operator} {c : Chain}
    (hopen : openOn s ops = .ok c) :
    (∀ rows, (c.after rows).stats.Within ops rows.length ∧
      ((c.after rows).isExhausted = true → (c.after rows).Over)) ∧
    (∀ {σ α : Type} (collector : Collector σ α) (state : σ) (entries : List Entry)
      (run : Running σ), Running.after collector ⟨c, state⟩ entries = run →
      run.chain.stats.Within ops entries.length ∧
      (run.chain.isExhausted = true →
        ∀ more, (Running.after collector run more).chain.isExhausted = true) ∧
      (collector.NeverStops → run.isExhausted collector = true → run.Over collector)) ∧
    ∀ {σ α : Type} (collector : Collector σ α), collector.OfLibrary → collector.NeverStops := by
  have haccounted := accounted_of_openOn hopen
  have hover : ∀ rows, (c.after rows).isExhausted = true → (c.after rows).Over :=
    fun rows => (haccounted.after rows).over
  refine ⟨fun rows => ⟨?_, hover rows⟩, ?_, fun collector hlibrary => hlibrary.neverStops⟩
  · have hcounted := (haccounted.after rows).within
    rwa [Nat.zero_add] at hcounted
  · rintro σ α collector state entries run rfl
    have hcounted := (Running.counted_after (r := ⟨c, state⟩) haccounted.toCounted collector
      entries).within
    rw [Nat.zero_add] at hcounted
    refine ⟨hcounted, fun hend => Running.isExhausted_chain_after hend collector, ?_⟩
    intro hlasts hend
    refine Running.over_of_chain hlasts ?_
    rw [Running.isExhausted_of_neverStops hlasts, Running.chain_after hlasts] at hend
    rw [Running.chain_after hlasts]
    exact hover _ hend

/-- Three rows, none of which may be empty, and of these the large numbers. -/
def sampling : List Operator :=
  [.limit 3,
    .update [.name "n"]
      (.callable (.unary "known" fun v => if v.isNull then .error (.other "no value") else .ok v))
      (by decide),
    .filter (.compare .gt (.ofColumn (.name "n")) (.const (.int 2))) false]

/-- The limit has counted a row that failed behind it and one that was dropped, so one row
comes out, and a collector that counts them counts no other. -/
theorem sampling_accounted :
    ∃ c, openOn ⟨["n"], by decide⟩ sampling = .ok c ∧
      (c.push [.null]).1 = .error (.other "no value") ∧
      (c.after [[.null], [.int 1], [.int 7]]).isExhausted = true ∧
      (c.after [[.null], [.int 1], [.int 7]]).stats = ⟨3, 1⟩ ∧
      (∀ row out, ((c.after [[.null], [.int 1], [.int 7]]).push row).1 ≠ .ok (some out)) ∧
      ∀ more, (Running.after Collector.count (Running.after Collector.count ⟨c, 0⟩
        [(0, [.null]), (1, [.int 1]), (2, [.int 7])]) more).state = (1 : Nat) := by
  have hopen : openOn ⟨["n"], by decide⟩ sampling = .ok _ := rfl
  obtain ⟨halone, hcollected, hlibrary⟩ := pushes_accounted hopen
  obtain ⟨-, hend⟩ := halone [[.null], [.int 1], [.int 7]]
  obtain ⟨-, -, hidle⟩ := hcollected Collector.count 0
    [(0, [.null]), (1, [.int 1]), (2, [.int 7])] _ rfl
  have hover := hidle (hlibrary _ .count) rfl
  exact ⟨_, hopen, rfl, rfl, rfl, (hend rfl).no_row [], hover.state⟩

end Chain

end TableFlow
