import TableFlow.Proofs.Files.Frame

/-!
# The footprint of a file

Writing a file at a path changes the place to which the path leads, and makes the missing
directories above it. Everything else stands where it stood.

* `FileSystem.ChangesOnlyAt` is this footprint, place by place, and
  `FileSystem.ChangesOnlyAt.lookup_of_apart` what it means for another path;
* `FileSystem.Touched` is what may be left when a file was to be created and written, and
  `FileSystem.Touched.changesOnlyAt` says that it is within the footprint.
-/

namespace TableFlow.FileSystem

open Files (Node Fault)

variable {fs later : FileSystem} {path : String}

/-! ## Changes at one path -/

/-- A file that is new or has been written in the second file system, at the end of the path. -/
structure FileAt (fs later : FileSystem) (path : String) (place : List String) : Prop where
  leads : later.walk [] (Files.components path) = .ok place
  noDirectory : fs.node? place ≠ some .directory
  file : ∃ content, later.node? place = some (.file content)

/-- Nothing changes but the file at a path, and missing directories above it. -/
def ChangesOnlyAt (fs later : FileSystem) (path : String) : Prop :=
  ∀ place, later.node? place ≠ fs.node? place →
    fs.FileAt later path place ∨ fs.NewDirectory later (Files.parentComponents path) place

namespace ChangesOnlyAt

theorem refl (fs : FileSystem) (path : String) : fs.ChangesOnlyAt fs path :=
  fun _ hchange => absurd rfl hchange

/-- No directory goes away or becomes a file. -/
theorem keepsDirectories (h : fs.ChangesOnlyAt later path) : fs.KeepsDirectories later := by
  intro place hplace
  by_cases hsame : later.node? place = fs.node? place
  · rw [hsame, hplace]
  · rcases h place hsame with hfile | hnew
    · exact absurd hplace hfile.noDirectory
    · exact hnew.directory

/-- What stands at another path is found as before. -/
theorem lookup_of_apart (h : fs.ChangesOnlyAt later path) {other : String} {node : Node}
    (hother : fs.lookup other = .ok node) (hapart : ¬later.SamePlace other path) :
    later.lookup other = .ok node := by
  rw [lookup_eq_ok_iff] at hother ⊢
  obtain ⟨hname, hend, place, hwalk, hnode⟩ := hother
  have hlater := walk_mono h.keepsDirectories hwalk
  refine ⟨hname, hend, place, hlater, ?_⟩
  by_cases hsame : later.node? place = fs.node? place
  · rw [hsame, hnode]
  · rcases h place hsame with hfile | hnew
    · exact absurd ⟨place, hlater, hfile.leads⟩ hapart
    · rw [hnew.missing] at hnode
      cases hnode

end ChangesOnlyAt

/-! ## Creating and writing a file -/

/-- What may be left when a file was to be created at a path: the directories above it as far
as they could be made, and the file with some content if it could be created too. -/
inductive Touched (fs : FileSystem) (path : String) : FileSystem → Prop
  | directories : Touched fs path (fs.makeDirectories (Files.parentComponents path)).2
  | file {place : List String} (content : List UInt8)
      (hplace : (fs.makeDirectories (Files.parentComponents path)).2.filePlace path = .ok place) :
      Touched fs path
        ((fs.makeDirectories (Files.parentComponents path)).2.put place (.file content))

namespace Touched

/-- Writing the file once more leaves it as if only this had been written. -/
theorem write {content : List UInt8} {last : FileSystem} (h : fs.Touched path later)
    (hwrite : later.write path content = .ok last) : fs.Touched path last := by
  unfold FileSystem.write at hwrite
  split at hwrite
  · cases hwrite
  rename_i place hplace
  cases hwrite
  cases h with
  | directories => exact .file content hplace
  | file old hopened =>
    rw [filePlace_put hopened] at hplace
    cases hplace
    rw [put_put]
    exact .file content hopened

theorem changesOnlyAt (h : fs.Touched path later) : fs.ChangesOnlyAt later path := by
  have hmade := makeDirectories_madeAlong fs (Files.parentComponents path)
  cases h with
  | directories => exact fun place hchange => .inr (hmade place hchange)
  | file content hplace =>
    rename_i opened
    have hkeeps := keepsDirectories_put hplace content
    intro place hchange
    by_cases hopened : place = opened
    · subst hopened
      refine .inl ⟨walk_of_filePlace (filePlace_put hplace content), ?_, content, ?_⟩
      · exact fun hdirectory => free_of_filePlace hplace (hmade.keeps place _ hdirectory)
      · exact node?_put_self (place_ne_nil hplace) _
    · -- elsewhere only the directories have been made
      rw [node?_put_of_ne hopened] at hchange
      obtain ⟨hmissing, hdirectory, front, hfront, hwalk⟩ := hmade place hchange
      exact .inr ⟨hmissing, hkeeps place hdirectory, front, hfront, walk_mono hkeeps hwalk⟩

end Touched

end TableFlow.FileSystem
