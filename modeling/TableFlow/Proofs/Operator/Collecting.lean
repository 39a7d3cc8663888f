import TableFlow.Pipeline

/-!
# Collectors that take every row

A collector may ask a run to stop, or say that it takes no further row. The collectors that
pipelines run into do neither: a row is taken, or the run fails on it.

* `Collector.NeverStops` is this property, and `Collector.OfLibrary.neverStops` says who has it;
* `Running.isExhausted_of_neverStops` and `Running.push_chain` are what it means for a run, where
  only the chain in front of the collector can be exhausted;
* `Running.push_state` is why it matters: a push does not look at whether the run is exhausted.
-/

namespace TableFlow

namespace Collector

variable {σ α : Type}

/-- The collector never asks for the end of a run. -/
structure NeverStops (collector : Collector σ α) : Prop where
  add : ∀ {state entry flow}, (collector.add state entry).1 = .ok flow → flow.stops = false
  isExhausted : ∀ state, collector.isExhausted state = false

theorem pure_neverStops (start : Schema → Result σ) (add : σ → Entry → Result σ)
    (finish : σ → Result α) : (pure start add finish).NeverStops where
  add {state entry flow} h := by
    simp only [pure] at h
    cases hadd : add state entry with
    | error e => simp [hadd] at h
    | ok later =>
      rw [hadd] at h
      cases h
      rfl
  isExhausted _ := rfl

theorem write_neverStops (file : CsvFile) : (write file).NeverStops where
  add {w entry flow} h := by
    simp only [write] at h
    rcases hwrite : w.writer.writeRow entry.2 with ⟨e | u, writer⟩
    · simp [hwrite] at h
    · rw [hwrite] at h
      cases h
      rfl
  isExhausted _ := rfl

/-- The collectors that pipelines run into. -/
inductive OfLibrary : ∀ {σ α : Type}, Collector σ α → Prop
  | table : OfLibrary table
  | count : OfLibrary count
  | distinct (columns : List ColumnRef) : OfLibrary (distinct columns)
  | profile (columns : Option (List ColumnRef)) (topCount : Nat) (converter : Converter) :
      OfLibrary (profile columns topCount converter)
  | write (file : CsvFile) : OfLibrary (write file)
  | discard : OfLibrary Pipeline.discard

theorem OfLibrary.neverStops {collector : Collector σ α} (h : collector.OfLibrary) :
    collector.NeverStops := by
  cases h with
  | table | count | distinct | profile | discard => exact pure_neverStops _ _ _
  | write file => exact write_neverStops file

end Collector

namespace Running

variable {σ α : Type} {collector : Collector σ α}

theorem isExhausted_of_neverStops (h : collector.NeverStops) (r : Running σ) :
    r.isExhausted collector = r.chain.isExhausted := by
  rw [isExhausted, h.isExhausted, Bool.or_false]

/-- The collector only has a say in whether the chain goes on. -/
theorem push_chain (collector : Collector σ α) (r : Running σ) (entry : Entry) :
    ∃ flow, (r.push collector entry).2.chain = (r.chain.push entry.2).2.heed flow ∧
      (collector.NeverStops → flow.stops = false) := by
  unfold push
  rcases r.chain.push entry.2 with ⟨e | _ | row, chain⟩
  · exact ⟨.drop, (chain.heed_drop).symm, fun _ => rfl⟩
  · exact ⟨.drop, (chain.heed_drop).symm, fun _ => rfl⟩
  · rcases hadd : collector.add r.state (entry.1, row) with ⟨e | flow, state⟩
    · exact ⟨.drop, by simp [hadd], fun _ => rfl⟩
    · exact ⟨flow, by simp [hadd], fun hlasts => hlasts.add (congrArg Prod.fst hadd)⟩

/-- What comes out is handed to the collector, also where it has asked for the end before. -/
theorem push_state {r : Running σ} {entry : Entry} {row : Row}
    (h : (r.chain.push entry.2).1 = .ok (some row)) :
    (r.push collector entry).2.state = (collector.add r.state (entry.1, row)).2 := by
  unfold push
  rcases hpush : r.chain.push entry.2 with ⟨out, chain⟩
  rw [hpush] at h
  obtain rfl : out = .ok (some row) := h
  rcases hadd : collector.add r.state (entry.1, row) with ⟨e | flow, state⟩ <;> simp [hadd]

-- a collector that stops with its first row, and counts the second one all the same
example :
    let stopper : Collector Nat Nat :=
      { Collector.count with add := fun n _ => (.ok .stop, n + 1) }
    let once := ((⟨default, 0⟩ : Running Nat).push stopper (0, [])).2
    once.isExhausted stopper = true ∧ (once.push stopper (1, [])).2.state = 2 := by
  decide

end Running

end TableFlow
