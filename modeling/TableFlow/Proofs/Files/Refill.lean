import TableFlow.Files.System

/-!
# Files of another content

What stands where in a file system does not depend on what the files hold.

* `FileSystem.lookup_refill` finds a file of any content where there was a file before;
* `FileSystem.lookup_empty` finds none if there are none.
-/

namespace TableFlow.FileSystem

open Files (Node Fault)

/-- The same files and directories, with this content in all files. -/
def refill (fs : FileSystem) (content : List UInt8) : FileSystem :=
  ⟨fs.entries.map fun entry =>
    (entry.1, match entry.2 with
      | .file _ => .file content
      | .directory => .directory)⟩

theorem node?_refill (fs : FileSystem) (content : List UInt8) (path : List String) :
    (fs.refill content).node? path = (fs.node? path).map fun node =>
      match node with
      | .file _ => .file content
      | .directory => .directory := by
  cases path with
  | nil =>
    -- the root is a directory in every file system
    rfl
  | cons name path =>
    simp only [node?, refill]
    induction fs.entries with
    | nil => rfl
    | cons entry entries ih =>
      obtain ⟨key, node⟩ := entry
      simp only [List.map_cons, List.lookup_cons]
      cases (name :: path) == key with
      | true => rfl
      | false => exact ih

theorem walk_refill (fs : FileSystem) (content : List UInt8) (current path : List String) :
    (fs.refill content).walk current path = fs.walk current path := by
  induction path generalizing current with
  | nil => rfl
  | cons name path ih =>
    -- a step asks whether there is a directory, never what is in a file
    by_cases hup : name = ".."
    · subst hup
      simp only [walk, node?_refill]
      cases fs.node? current with
      | none => rfl
      | some node =>
        cases node with
        | file old => rfl
        | directory => exact ih _
    · simp only [walk, node?_refill]
      cases fs.node? current with
      | none => rfl
      | some node =>
        cases node with
        | file old => rfl
        | directory => exact ih _

/-- A file is found where one was found before. -/
theorem lookup_refill {fs : FileSystem} {path : String} {old : List UInt8}
    (h : fs.lookup path = .ok (.file old)) (content : List UInt8) :
    (fs.refill content).lookup path = .ok (.file content) := by
  unfold lookup at h ⊢
  split at h
  · cases h
  · rename_i hsome
    rw [if_neg hsome, walk_refill]
    split at h
    · cases h
    · rename_i place _
      simp only [node?_refill]
      cases hnode : fs.node? place with
      | none => simp [hnode] at h
      | some node =>
        cases node with
        | directory => simp [hnode] at h
        | file found =>
          rw [hnode] at h
          simp only at h
          split at h
          · cases h
          · rename_i hend
            simp [hend]

/-- Without files, no path leads to a file. -/
theorem lookup_empty (path : String) (content : List UInt8) :
    empty.lookup path ≠ .ok (.file content) := by
  intro h
  unfold lookup at h
  split at h
  · cases h
  · split at h
    · cases h
    · rename_i place _
      cases place with
      | nil => cases h
      | cons name place => cases h

end TableFlow.FileSystem
