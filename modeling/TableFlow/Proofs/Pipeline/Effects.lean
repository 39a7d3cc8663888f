import TableFlow.Proofs.Files.Footprint
import TableFlow.Proofs.Pipeline.Writing

/-!
# What a run of a pipeline leaves in the file system

A run changes files where its collector does: when it starts, and when it finishes or
abandons the run. Between these, rows only change the state of the collector.

* `Collector.Guards` is a property of the file system that the collector holds on to once it
  has started, and `Collector.Guards.streamWithStats` the same for a whole run;
* `Pipeline.leaves_streamWithStats_count` and `Pipeline.touched_streamWithStats_write` are the
  runs into a count, which change nothing, and into a file. They hold of runs that fail, too.
-/

namespace TableFlow

/-! ## Actions -/

namespace Action

variable {ε α β : Type} {P : FileSystem → Prop}

/-- The file system that an action leaves behind, whether or not it fails. -/
def leaves (a : Action ε α) (fs : FileSystem) : FileSystem :=
  match a fs with
  | .ok _ after => after
  | .error _ after => after

theorem leaves_of_error {a : Action ε α} {e : ε} {fs after : FileSystem}
    (h : a fs = .error e after) : a.leaves fs = after := by
  rw [leaves, h]

/-- Where the property held before the action, it holds again when the action is over. -/
def Keeps (P : FileSystem → Prop) (a : Action ε α) : Prop :=
  ∀ fs, P fs → P (a.leaves fs)

theorem leaves_bind (a : Action ε α) (f : α → Action ε β) (fs : FileSystem) :
    (a >>= f).leaves fs =
      match a fs with
      | .ok x after => (f x).leaves after
      | .error _ after => after := by
  unfold leaves
  show (match EStateM.bind a f fs with
    | .ok _ after => after
    | .error _ after => after) = _
  simp only [EStateM.bind]
  cases a fs <;> rfl

theorem Keeps.bind {a : Action ε α} {f : α → Action ε β} (ha : a.Keeps P)
    (hf : ∀ x, (f x).Keeps P) : (a >>= f).Keeps P := by
  intro fs hfs
  have hmid := ha fs hfs
  rw [leaves_bind]
  unfold leaves at hmid
  cases hresult : a fs with
  | error e after => simpa only [hresult] using hmid
  | ok x after =>
    rw [hresult] at hmid
    exact hf x after hmid

theorem Keeps.change {f : FileSystem → Except ε FileSystem}
    (h : ∀ fs later, P fs → f fs = .ok later → P later) : (Action.change f).Keeps P := by
  intro fs hfs
  unfold leaves Action.change
  cases hresult : f fs with
  | error e => simpa only [hresult] using hfs
  | ok later => simpa only [hresult] using h fs later hfs hresult

end Action

/-! ## Collectors -/

section Guarding

variable {σ α : Type} {collector : Collector σ α} {good : σ → Prop} {P : FileSystem → Prop}

/-- A collector whose state is good keeps a property of the file system when the run is over,
and a row leaves its state good, also one that is refused. -/
structure Collector.Guards (collector : Collector σ α) (good : σ → Prop)
    (P : FileSystem → Prop) : Prop where
  add : ∀ state entry, good state → good (collector.add state entry).2
  finish : ∀ state, good state → (collector.finish state).Keeps P
  abandon : ∀ state, good state → (collector.abandon state).Keeps P

theorem Running.push_good
    (hadd : ∀ state entry, good state → good (collector.add state entry).2) {r : Running σ}
    (h : good r.state) (entry : Entry) : good (r.push collector entry).2.state := by
  unfold Running.push
  split
  · exact h
  · exact h
  · rename_i row chain hpush
    have hlater := hadd r.state (entry.1, row) h
    split
    · rename_i e state hrefused
      rwa [hrefused] at hlater
    · rename_i flow state htaken
      rwa [htaken] at hlater

theorem drive_good
    (hadd : ∀ state entry, good state → good (collector.add state entry).2) {r : Running σ}
    (h : good r.state) (items : List Item) : good (drive collector r items).running.state := by
  induction items generalizing r with
  | nil => exact h
  | cons item items ih =>
    rw [drive.eq_def]
    simp only
    split
    · exact h
    · cases item with
      | error e => exact h
      | ok entry =>
        have hpush := Running.push_good hadd h entry
        simp only
        split
        · rename_i e later hlater
          rwa [hlater] at hpush
        · rename_i later hlater
          rw [hlater] at hpush
          exact ih hpush

namespace Collector.Guards

/-- Once the collector has started, the run is over with what its end leaves. -/
theorem driveInto (h : collector.Guards good P) (p : Pipeline) (chain : Chain) {state : σ}
    (hstate : good state) : (p.driveInto collector chain state).Keeps P := by
  intro fs hfs
  unfold Action.leaves Pipeline.driveInto
  rw [p.source.items_eq]
  cases p.source.itemsIn fs with
  | error e =>
    have habandon := h.abandon state hstate fs hfs
    unfold Action.leaves at habandon
    simp only [Action.ofExcept]
    cases hresult : collector.abandon state fs <;> simpa only [hresult] using habandon
  | ok items =>
    have hgood := drive_good h.add (r := ⟨chain, state⟩) hstate items
    simp only [Action.ofExcept]
    generalize drive collector ⟨chain, state⟩ items = driven at hgood ⊢
    cases driven.error with
    | some e =>
      have habandon := h.abandon driven.running.state hgood fs hfs
      unfold Action.leaves at habandon
      cases hresult : collector.abandon driven.running.state fs <;>
        simpa only [hresult] using habandon
    | none =>
      have hfinish := h.finish driven.running.state hgood fs hfs
      unfold Action.leaves at hfinish
      cases hresult : collector.finish driven.running.state fs <;>
        simpa only [hresult] using hfinish

/-- If the start of the collector leaves the property, so does a run of a pipeline that
opens. -/
theorem streamWithStats (h : collector.Guards good P) {p : Pipeline} {fs : FileSystem}
    {chain : Chain} (hchain : p.chainIn fs = .ok chain)
    (hstart : P ((collector.start chain.schema).leaves fs))
    (hgood : ∀ state after, collector.start chain.schema fs = .ok state after → good state) :
    P ((p.streamWithStats collector).leaves fs) := by
  unfold Action.leaves at hstart ⊢
  rw [p.streamWithStats_eq, hchain]
  cases hresult : collector.start chain.schema fs with
  | error e after => simpa only [hresult] using hstart
  | ok state after =>
    simp only [hresult] at hstart ⊢
    have hdriven := h.driveInto p chain (hgood state after hresult) after hstart
    unfold Action.leaves at hdriven
    cases hdrive : p.driveInto collector chain state after with
    | error e last => simpa only [hdrive] using hdriven
    | ok report last =>
      simp only [hdrive] at hdriven ⊢
      cases report.result <;> exact hdriven

end Collector.Guards

end Guarding

/-! ## Runs into a count -/

theorem Collector.count_guards (P : FileSystem → Prop) :
    Collector.count.Guards (fun _ => True) P where
  add _ _ _ := trivial
  finish _ _ _ hfs := hfs
  abandon _ _ _ hfs := hfs

/-- Counting the rows changes nothing. -/
theorem Pipeline.leaves_streamWithStats_count {p : Pipeline} {fs : FileSystem} {chain : Chain}
    (hchain : p.chainIn fs = .ok chain) :
    (p.streamWithStats Collector.count).leaves fs = fs :=
  (Collector.count_guards (· = fs)).streamWithStats hchain rfl fun _ _ _ => trivial

/-- A count over a source that cannot be opened fails with its error. -/
theorem Pipeline.streamWithStats_count_unread {p : Pipeline} {fs : FileSystem} {chain : Chain}
    {e : Error} (hchain : p.chainIn fs = .ok chain) (hitems : p.source.itemsIn fs = .error e) :
    p.streamWithStats Collector.count fs = .error e fs := by
  have hstart : Collector.count.start chain.schema fs = .ok 0 fs := rfl
  rw [streamWithStats_eq, hchain]
  simp only [hstart, driveInto, p.source.items_eq, hitems, Action.ofExcept]
  rfl

/-! ## Runs into a file -/

namespace CsvWriter

@[simp] theorem writeTexts_file (w : CsvWriter) (texts : List String) :
    (w.writeTexts texts).2.file = w.file := by
  unfold writeTexts
  split <;> rfl

@[simp] theorem writeHeader_file (w : CsvWriter) (s : Schema) :
    (w.writeHeader s).2.file = w.file := by
  unfold writeHeader
  split <;> simp

@[simp] theorem writeRow_file (w : CsvWriter) (row : Row) :
    (w.writeRow row).2.file = w.file :=
  w.writeTexts_file _

/-- What has been written goes where the file was created. -/
theorem flush_keeps {w : CsvWriter} {file : CsvFile} (hfile : w.file = file) (fs : FileSystem) :
    w.flush.Keeps (fs.Touched file.path) := by
  refine Action.Keeps.change fun opened later hopened hflush => ?_
  rw [hfile] at hflush
  split at hflush
  · cases hflush
  · rename_i written hwrite
    cases hflush
    exact hopened.write hwrite

end CsvWriter

namespace CsvFile

variable {f : CsvFile} {fs : FileSystem}

theorem file_of_create {w : CsvWriter} {after : FileSystem} (h : f.create fs = .ok w after) :
    w.file = f := by
  rw [create_apply] at h
  split at h
  · cases h
  split at h
  · cases h
  cases h
  rfl

/-- A file that could not be created may leave some of the directories above it. -/
theorem create_touches (f : CsvFile) (fs : FileSystem) : fs.Touched f.path (f.create.leaves fs) := by
  have hmade := @FileSystem.Touched.directories fs f.path
  have hfile := @FileSystem.Touched.file fs f.path
  unfold Action.leaves
  rw [create_apply]
  generalize fs.makeDirectories (Files.parentComponents f.path) = outcome at hmade hfile ⊢
  obtain ⟨e | u, made⟩ := outcome
  · exact hmade
  · simp only
    cases hplace : made.filePlace f.path with
    | error e => exact hmade
    | ok place => exact hfile [] hplace

end CsvFile

namespace Collector

theorem write_guards (file : CsvFile) (fs : FileSystem) :
    (write file).Guards (fun w => w.writer.file = file) (fs.Touched file.path) where
  add w entry hfile := by
    have hkept := w.writer.writeRow_file entry.2
    simp only [write]
    split
    · rename_i later hlater
      rwa [hlater, hfile] at hkept
    · rename_i e later hlater
      rwa [hlater, hfile] at hkept
  finish w hfile := (CsvWriter.flush_keeps hfile fs).bind fun _ _ hflushed => hflushed
  abandon w hfile := CsvWriter.flush_keeps hfile fs

theorem write_start_touches (file : CsvFile) (s : Schema) (fs : FileSystem) :
    fs.Touched file.path (((write file).start s).leaves fs) := by
  have hcreate := file.create_touches fs
  unfold Action.leaves at hcreate
  show fs.Touched file.path (Action.leaves (_ >>= _) fs)
  rw [Action.leaves_bind]
  cases hresult : file.create fs with
  | error e after => simpa only [hresult] using hcreate
  | ok writer after =>
    rw [hresult] at hcreate
    have hkept := writer.writeHeader_file s
    rw [CsvFile.file_of_create hresult] at hkept
    simp only
    split
    · exact hcreate
    · -- the header was refused, and what had been taken of it is written
      rename_i e later hlater
      rw [hlater] at hkept
      have hthrow : ∀ u : Unit, (throw e : Action Error Writing).Keeps (fs.Touched file.path) :=
        fun _ _ hflushed => hflushed
      exact (CsvWriter.flush_keeps hkept fs).bind hthrow after hcreate

theorem file_of_write_start {file : CsvFile} {s : Schema} {fs after : FileSystem} {w : Writing}
    (h : (write file).start s fs = .ok w after) : w.writer.file = file := by
  obtain ⟨writer, hcreate, rfl⟩ := exists_of_write_start h
  rw [CsvWriter.writeHeader_file, CsvFile.file_of_create hcreate]

end Collector

/-- A run into a file leaves what creating and writing the file may leave. -/
theorem Pipeline.touched_streamWithStats_write {p : Pipeline} {fs : FileSystem} {chain : Chain}
    (hchain : p.chainIn fs = .ok chain) (file : CsvFile) :
    fs.Touched file.path ((p.streamWithStats (Collector.write file)).leaves fs) :=
  (Collector.write_guards file fs).streamWithStats hchain
    (Collector.write_start_touches file chain.schema fs)
    fun _ _ hstart => Collector.file_of_write_start hstart

end TableFlow
