import TableFlow.Files.System

/-!
# What a change to a file system leaves alone

Making directories only adds to a file system, and writing a file changes what stands at
one place. Paths lead where they led before.

* `FileSystem.makeDirectories_madeAlong` and `FileSystem.node?_put_of_ne` are these two facts;
* `FileSystem.walk_mono` says that a path leads to the same place as long as directories
  stay directories;
* `FileSystem.lookup_put_self` and `FileSystem.lookup_put_of_ne` are what stands at the path
  of a file that was written, and at other paths.
-/

namespace TableFlow.FileSystem

open Files (Node Fault)

variable {fs later : FileSystem}

/-! ## Places -/

theorem lookup_putEntry_self (path : List String) (node : Node)
    (entries : List (List String × Node)) :
    (putEntry path node entries).lookup path = some node := by
  induction entries with
  | nil => simp [putEntry]
  | cons entry entries ih =>
    obtain ⟨other, old⟩ := entry
    rw [putEntry]
    split
    · simp
    · rename_i hne
      rw [List.lookup_cons, ih]
      have hkey : (path == other) = false := by simpa using Ne.symm hne
      rw [hkey]

theorem lookup_putEntry_of_ne {path other : List String} (hne : other ≠ path) (node : Node)
    (entries : List (List String × Node)) :
    (putEntry path node entries).lookup other = entries.lookup other := by
  induction entries with
  | nil => simp [putEntry, hne]
  | cons entry entries ih =>
    obtain ⟨key, old⟩ := entry
    rw [putEntry]
    split
    · rename_i hkey
      subst hkey
      have hmiss : (other == key) = false := by simpa using hne
      simp only [List.lookup_cons, hmiss]
    · rw [List.lookup_cons, List.lookup_cons, ih]

/-- What was put is there. -/
theorem node?_put_self {place : List String} (hplace : place ≠ []) (node : Node) :
    (fs.put place node).node? place = some node := by
  cases place with
  | nil => exact absurd rfl hplace
  | cons name place => exact lookup_putEntry_self _ _ _

/-- Elsewhere nothing changes. -/
theorem node?_put_of_ne {place other : List String} (hne : other ≠ place) (node : Node) :
    (fs.put place node).node? other = fs.node? other := by
  cases other with
  | nil => rfl
  | cons name other => exact lookup_putEntry_of_ne hne _ _

theorem put_put (fs : FileSystem) (place : List String) (a b : Node) :
    (fs.put place a).put place b = fs.put place b := by
  simp only [put, FileSystem.mk.injEq]
  induction fs.entries with
  | nil => simp [putEntry]
  | cons entry entries ih =>
    obtain ⟨key, old⟩ := entry
    simp only [putEntry]
    split
    · simp [putEntry]
    · rename_i hne
      simp [putEntry, hne, ih]

/-! ## Paths -/

/-- Directories stay directories. -/
def KeepsDirectories (fs later : FileSystem) : Prop :=
  ∀ place, fs.node? place = some .directory → later.node? place = some .directory

/-- Everything that stands in the first file system stands in the second one. -/
def Extends (fs later : FileSystem) : Prop :=
  ∀ place node, fs.node? place = some node → later.node? place = some node

theorem Extends.keepsDirectories (h : fs.Extends later) : fs.KeepsDirectories later :=
  fun place hplace => h place .directory hplace

theorem walk_cons_eq_ok_iff {current rest place : List String} {name : String} :
    fs.walk current (name :: rest) = .ok place ↔
      fs.node? current = some .directory ∧
        fs.walk (if name = ".." then current.dropLast else current ++ [name]) rest = .ok place := by
  by_cases hup : name = ".."
  · subst hup
    rw [walk, if_pos rfl]
    cases fs.node? current with
    | none => simp
    | some node => cases node <;> simp
  · rw [walk, if_neg hup]
    · cases fs.node? current with
      | none => simp
      | some node => cases node <;> simp
    · exact hup

/-- A path leads to the same place as long as directories stay directories. -/
theorem walk_mono (h : fs.KeepsDirectories later) {current path place : List String}
    (hwalk : fs.walk current path = .ok place) : later.walk current path = .ok place := by
  induction path generalizing current with
  | nil => exact hwalk
  | cons name rest ih =>
    rw [walk_cons_eq_ok_iff] at hwalk ⊢
    exact ⟨h current hwalk.1, ih hwalk.2⟩

theorem walk_append_eq_ok_iff {current xs ys place : List String} :
    fs.walk current (xs ++ ys) = .ok place ↔
      ∃ mid, fs.walk current xs = .ok mid ∧ fs.walk mid ys = .ok place := by
  induction xs generalizing current with
  | nil => simp [walk]
  | cons name rest ih =>
    simp only [List.cons_append, walk_cons_eq_ok_iff, ih]
    constructor
    · rintro ⟨hdirectory, mid, hmid, hplace⟩
      exact ⟨mid, ⟨hdirectory, hmid⟩, hplace⟩
    · rintro ⟨mid, ⟨hdirectory, hmid⟩, hplace⟩
      exact ⟨hdirectory, mid, hmid, hplace⟩

/-- A name below a directory leads to its place there. -/
theorem walk_concat {parents parent : List String} {name : String} (hname : name ≠ "..")
    (hwalk : fs.walk [] parents = .ok parent) (hparent : fs.node? parent = some .directory) :
    fs.walk [] (parents ++ [name]) = .ok (parent ++ [name]) := by
  rw [walk_append_eq_ok_iff]
  refine ⟨parent, hwalk, ?_⟩
  rw [walk_cons_eq_ok_iff, if_neg hname]
  exact ⟨hparent, rfl⟩

/-- Something is found at a path exactly if its components lead to the place of it. A path
that ends in a slash asks for a directory. -/
theorem lookup_eq_ok_iff {path : String} {node : Node} :
    fs.lookup path = .ok node ↔
      path ≠ "" ∧ (node = .directory ∨ Files.endsInSlash path = false) ∧
        ∃ place, fs.walk [] (Files.components path) = .ok place ∧
          fs.node? place = some node := by
  unfold lookup
  by_cases hempty : path = ""
  · simp [hempty]
  · rw [if_neg hempty]
    cases hwalk : fs.walk [] (Files.components path) with
    | error fault => simp
    | ok place =>
      cases hnode : fs.node? place with
      | none => simp [hnode]
      | some found =>
        cases found with
        | directory => cases node <;> simp [hempty, hnode]
        | file content =>
          cases hend : Files.endsInSlash path <;> cases node <;> simp [hempty, hnode]

theorem pathExists_iff {path : String} :
    fs.pathExists path = true ↔ ∃ node, fs.lookup path = .ok node := by
  unfold pathExists
  cases fs.lookup path <;> simp

theorem lookup_mono (h : fs.Extends later) {path : String} {node : Node}
    (hlookup : fs.lookup path = .ok node) : later.lookup path = .ok node := by
  rw [lookup_eq_ok_iff] at hlookup ⊢
  obtain ⟨hpath, hend, place, hwalk, hnode⟩ := hlookup
  exact ⟨hpath, hend, place, walk_mono h.keepsDirectories hwalk, h place node hnode⟩

/-- A file can be created where a directory is above it and no directory in its place. -/
theorem filePlace_eq_ok_iff {path : String} {place : List String} :
    fs.filePlace path = .ok place ↔
      path ≠ "" ∧ Files.endsInSlash path = false ∧
        ∃ parents name parent, Files.components path = parents ++ [name] ∧ name ≠ ".." ∧
          fs.walk [] parents = .ok parent ∧ fs.node? parent = some .directory ∧
          place = parent ++ [name] ∧ fs.node? place ≠ some .directory := by
  constructor
  · intro h
    unfold filePlace at h
    split at h
    · cases h
    rename_i hpath
    split at h
    · cases h
    rename_i name parents hparts
    have hcomponents : Files.components path = parents.reverse ++ [name] := by
      rw [← List.reverse_reverse (Files.components path), hparts, List.reverse_cons]
    split at h
    · cases h
    rename_i parent hwalk
    split at h
    · cases h
    · cases h
    rename_i hparent
    split at h
    · cases h
    rename_i hfile
    obtain ⟨hname, hend⟩ : name ≠ ".." ∧ Files.endsInSlash path = false := by simpa using hfile
    split at h
    · cases h
    rename_i hfree
    cases h
    exact ⟨hpath, hend, parents.reverse, name, parent, hcomponents, hname, hwalk, hparent, rfl,
      hfree⟩
  · rintro ⟨hpath, hend, parents, name, parent, hcomponents, hname, hwalk, hparent, rfl, hfree⟩
    unfold filePlace
    rw [if_neg hpath, hcomponents, List.reverse_concat]
    simp only [List.reverse_reverse, hwalk, hparent, hname, hend, decide_false, Bool.or_self,
      Bool.false_eq_true, if_false]

theorem place_ne_nil {path : String} {place : List String} (h : fs.filePlace path = .ok place) :
    place ≠ [] := by
  rw [filePlace_eq_ok_iff] at h
  obtain ⟨-, -, parents, name, parent, -, -, -, -, rfl, -⟩ := h
  simp

/-- No directory is in the way of the file. -/
theorem free_of_filePlace {path : String} {place : List String}
    (h : fs.filePlace path = .ok place) : fs.node? place ≠ some .directory := by
  rw [filePlace_eq_ok_iff] at h
  obtain ⟨-, -, -, -, -, -, -, -, -, -, hfree⟩ := h
  exact hfree

/-- The components of the path of a file lead to its place. -/
theorem walk_of_filePlace {path : String} {place : List String}
    (h : fs.filePlace path = .ok place) : fs.walk [] (Files.components path) = .ok place := by
  rw [filePlace_eq_ok_iff] at h
  obtain ⟨-, -, parents, name, parent, hcomponents, hname, hwalk, hparent, rfl, -⟩ := h
  rw [hcomponents]
  exact walk_concat hname hwalk hparent

/-! ## Writing -/

/-- A file that is written takes the place of no directory. -/
theorem keepsDirectories_put {path : String} {place : List String}
    (h : fs.filePlace path = .ok place) (content : List UInt8) :
    fs.KeepsDirectories (fs.put place (.file content)) := by
  intro other hother
  have hne : other ≠ place := by
    rintro rfl
    exact free_of_filePlace h hother
  rw [node?_put_of_ne hne, hother]

/-- Where a file was written it can be written again. -/
theorem filePlace_put {path : String} {place : List String}
    (h : fs.filePlace path = .ok place) (content : List UInt8) :
    (fs.put place (.file content)).filePlace path = .ok place := by
  have hkeeps := keepsDirectories_put h content
  have hself : (fs.put place (.file content)).node? place = some (.file content) :=
    node?_put_self (place_ne_nil h) _
  rw [filePlace_eq_ok_iff] at h ⊢
  obtain ⟨hpath, hend, parents, name, parent, hcomponents, hname, hwalk, hparent, hplace, -⟩ := h
  refine ⟨hpath, hend, parents, name, parent, hcomponents, hname, walk_mono hkeeps hwalk,
    hkeeps parent hparent, hplace, ?_⟩
  rw [hself]
  simp

/-- A file that was written is found at its path. -/
theorem lookup_put_self {path : String} {place : List String}
    (h : fs.filePlace path = .ok place) (content : List UInt8) :
    (fs.put place (.file content)).lookup path = .ok (.file content) := by
  have hwalk := walk_of_filePlace (filePlace_put h content)
  have hnode : (fs.put place (.file content)).node? place = some (.file content) :=
    node?_put_self (place_ne_nil h) _
  rw [filePlace_eq_ok_iff] at h
  rw [lookup_eq_ok_iff]
  exact ⟨h.1, .inr h.2.1, place, hwalk, hnode⟩

/-- Two paths lead to one place. -/
def SamePlace (fs : FileSystem) (a b : String) : Prop :=
  ∃ place, fs.walk [] (Files.components a) = .ok place ∧
    fs.walk [] (Files.components b) = .ok place

/-- Without double dots a path leads to the place that it spells out. -/
theorem walk_of_plain {current path place : List String} (hplain : ".." ∉ path)
    (hwalk : fs.walk current path = .ok place) : place = current ++ path := by
  induction path generalizing current with
  | nil =>
    rw [walk] at hwalk
    cases hwalk
    exact (List.append_nil _).symm
  | cons name rest ih =>
    obtain ⟨hname, hrest⟩ := List.ne_and_not_mem_of_not_mem_cons hplain
    rw [walk_cons_eq_ok_iff, if_neg hname.symm] at hwalk
    rw [ih hrest hwalk.2, List.append_assoc, List.singleton_append]

/-- Without double dots only the same components lead to the same place. -/
theorem SamePlace.components_eq {a b : String} (h : fs.SamePlace a b)
    (ha : ".." ∉ Files.components a) (hb : ".." ∉ Files.components b) :
    Files.components a = Files.components b := by
  obtain ⟨place, hplaceA, hplaceB⟩ := h
  rw [← List.nil_append (Files.components a), ← walk_of_plain ha hplaceA, walk_of_plain hb hplaceB,
    List.nil_append]

theorem SamePlace.mono (h : fs.KeepsDirectories later) {a b : String}
    (hsame : fs.SamePlace a b) : later.SamePlace a b := by
  obtain ⟨place, ha, hb⟩ := hsame
  exact ⟨place, walk_mono h ha, walk_mono h hb⟩

/-- Whether two paths lead to one place is not changed by writing a file. -/
theorem samePlace_put_iff {path : String} {place : List String}
    (h : fs.filePlace path = .ok place) (content : List UInt8) {a b : String} :
    (fs.put place (.file content)).SamePlace a b ↔ fs.SamePlace a b := by
  have hback : (fs.put place (.file content)).KeepsDirectories fs := by
    intro other hother
    by_cases hplace : other = place
    · rw [hplace, node?_put_self (place_ne_nil h)] at hother
      cases hother
    · rwa [node?_put_of_ne hplace] at hother
  exact ⟨SamePlace.mono hback, SamePlace.mono (keepsDirectories_put h content)⟩

/-- What stands at another place is found as before. -/
theorem lookup_put_of_ne {path other : String} {place : List String} {node : Node}
    (h : fs.filePlace path = .ok place) (content : List UInt8)
    (hother : fs.lookup other = .ok node) (hapart : ¬fs.SamePlace other path) :
    (fs.put place (.file content)).lookup other = .ok node := by
  rw [lookup_eq_ok_iff] at hother ⊢
  obtain ⟨hpath, hend, there, hwalk, hnode⟩ := hother
  have hne : there ≠ place := by
    rintro rfl
    exact hapart ⟨there, hwalk, walk_of_filePlace h⟩
  refine ⟨hpath, hend, there, walk_mono (keepsDirectories_put h content) hwalk, ?_⟩
  rw [node?_put_of_ne hne, hnode]

/-- A path that leads to a file that was written leads to its content. -/
theorem lookup_put_of_samePlace {path other : String} {place : List String} {node : Node}
    (h : fs.filePlace path = .ok place) (content : List UInt8) (hsame : fs.SamePlace other path)
    (hother : (fs.put place (.file content)).lookup other = .ok node) : node = .file content := by
  rw [← samePlace_put_iff h content] at hsame
  rw [lookup_eq_ok_iff] at hother
  obtain ⟨there, hthere, hplace⟩ := hsame
  obtain ⟨-, -, found, hfound, hnode⟩ := hother
  rw [walk_of_filePlace (filePlace_put h content)] at hplace
  rw [hthere] at hfound
  cases hplace
  cases hfound
  rw [node?_put_self (place_ne_nil h)] at hnode
  exact (Option.some.inj hnode).symm

/-- A path that led to a file leads to the one that was written in its place. -/
theorem lookup_put_of_file {path other : String} {place : List String} {old : List UInt8}
    (h : fs.filePlace path = .ok place) (content : List UInt8) (hsame : fs.SamePlace other path)
    (hother : fs.lookup other = .ok (.file old)) :
    (fs.put place (.file content)).lookup other = .ok (.file content) := by
  obtain ⟨hpath, hend, there, hwalk, -⟩ := lookup_eq_ok_iff.mp hother
  obtain ⟨found, hfound, hplace⟩ := hsame
  rw [hwalk] at hfound
  rw [walk_of_filePlace h] at hplace
  cases hfound
  cases hplace
  exact lookup_eq_ok_iff.mpr ⟨hpath, .inr (hend.resolve_left (by simp)), place,
    walk_mono (keepsDirectories_put h content) hwalk, node?_put_self (place_ne_nil h) _⟩

/-! ## Making directories -/

/-- A directory that is new in the second file system, and stands on the way along these
components. -/
structure NewDirectory (fs later : FileSystem) (path place : List String) : Prop where
  missing : fs.node? place = none
  directory : later.node? place = some .directory
  onWay : ∃ front, front <+: path ∧ later.walk [] front = .ok place

/-- Nothing changes but that there are new directories on the way along these components. -/
def MadeAlong (fs later : FileSystem) (path : List String) : Prop :=
  ∀ place, later.node? place ≠ fs.node? place → fs.NewDirectory later path place

namespace MadeAlong

theorem refl (fs : FileSystem) (path : List String) : fs.MadeAlong fs path :=
  fun _ hchange => absurd rfl hchange

theorem keeps {path : List String} (h : fs.MadeAlong later path) : fs.Extends later := by
  intro place node hnode
  by_cases hsame : later.node? place = fs.node? place
  · rw [hsame, hnode]
  · rw [(h place hsame).missing] at hnode
    cases hnode

/-- Directories that are made one after the other, further along the same way. -/
theorem trans {last : FileSystem} {front path : List String} (h : fs.MadeAlong later front)
    (hfront : front <+: path) (hnext : later.MadeAlong last path) : fs.MadeAlong last path := by
  intro place hchange
  by_cases hlater : later.node? place = fs.node? place
  · have hnew := hnext place (by rwa [hlater])
    exact ⟨hlater ▸ hnew.missing, hnew.directory, hnew.onWay⟩
  · obtain ⟨hmissing, hdirectory, start, hstart, hwalk⟩ := h place hlater
    exact ⟨hmissing, hnext.keeps place _ hdirectory, start, hstart.trans hfront,
      walk_mono hnext.keeps.keepsDirectories hwalk⟩

end MadeAlong

/-- A directory is made below another one, where nothing stands. -/
theorem exists_of_createDirectory {path : List String}
    (h : fs.createDirectory path = .ok later) :
    ∃ parents name parent, path = parents ++ [name] ∧ name ≠ ".." ∧
      fs.walk [] parents = .ok parent ∧ fs.node? parent = some .directory ∧
      fs.node? (parent ++ [name]) = none ∧ later = fs.put (parent ++ [name]) .directory := by
  unfold createDirectory at h
  split at h
  · cases h
  rename_i name parents hparts
  have hpath : path = parents.reverse ++ [name] := by
    rw [← List.reverse_reverse path, hparts, List.reverse_cons]
  split at h
  · cases h
  rename_i parent hwalk
  split at h
  · cases h
  · cases h
  rename_i hparent
  split at h
  · cases h
  rename_i hname
  split at h
  · cases h
  rename_i hmissing
  cases h
  exact ⟨parents.reverse, name, parent, hpath, hname, hwalk, hparent, hmissing, rfl⟩

theorem createDirectory_madeAlong {path : List String}
    (h : fs.createDirectory path = .ok later) : fs.MadeAlong later path := by
  obtain ⟨parents, name, parent, rfl, hname, hwalk, hparent, hmissing, rfl⟩ :=
    exists_of_createDirectory h
  -- the new directory stands where nothing stood, so the way to it is the same
  have hkeeps : fs.KeepsDirectories (fs.put (parent ++ [name]) .directory) := by
    intro place hplace
    rw [node?_put_of_ne, hplace]
    rintro rfl
    rw [hplace] at hmissing
    cases hmissing
  intro place hchange
  by_cases hplace : place = parent ++ [name]
  · subst hplace
    refine ⟨hmissing, node?_put_self (by simp) _, parents ++ [name], List.prefix_refl _, ?_⟩
    exact walk_concat hname (walk_mono hkeeps hwalk) (hkeeps parent hparent)
  · rw [node?_put_of_ne hplace] at hchange
    exact absurd rfl hchange

/-- Making directories only adds directories on the way, also if not all of them can be made. -/
theorem makeDirectories_madeAlong (fs : FileSystem) (path : List String) :
    fs.MadeAlong (fs.makeDirectories path).2 path := by
  fun_induction makeDirectories fs path with
  | case1 => exact MadeAlong.refl _ _
  | case2 first rest made hmade => exact createDirectory_madeAlong hmade
  | case3 first rest hmissing e above habove ih =>
    rw [habove] at ih
    exact ih.trans (List.dropLast_prefix _) (MadeAlong.refl _ _)
  | case4 first rest hmissing above habove made hmade ih =>
    rw [habove] at ih
    exact ih.trans (List.dropLast_prefix _) (createDirectory_madeAlong hmade)
  | case5 first rest hmissing above habove e hmade hthere ih =>
    rw [habove] at ih
    exact ih.trans (List.dropLast_prefix _) (MadeAlong.refl _ _)
  | case6 first rest hmissing above habove e hmade hthere ih =>
    rw [habove] at ih
    exact ih.trans (List.dropLast_prefix _) (MadeAlong.refl _ _)
  | case7 first rest e hother hmade hthere => exact MadeAlong.refl _ _
  | case8 first rest e hother hmade hthere => exact MadeAlong.refl _ _

theorem createDirectories_eq_ok_iff {path : List String} :
    fs.createDirectories path = .ok later ↔ fs.makeDirectories path = (.ok (), later) := by
  unfold createDirectories
  rcases fs.makeDirectories path with ⟨e | u, made⟩ <;> simp

theorem createDirectories_extends {path : List String}
    (h : fs.createDirectories path = .ok later) : fs.Extends later := by
  have hmade := makeDirectories_madeAlong fs path
  rw [createDirectories_eq_ok_iff] at h
  rw [h] at hmade
  exact hmade.keeps

/-- A file can be created at a path: the file system with the directories above it, and the
place of the file. -/
structure RoomFor (fs : FileSystem) (path : String) (made : FileSystem) (place : List String) :
    Prop where
  made_eq : fs.createDirectories (Files.parentComponents path) = .ok made
  place_eq : made.filePlace path = .ok place

theorem RoomFor.unique {path : String} {made made' : FileSystem} {place place' : List String}
    (h : fs.RoomFor path made place) (h' : fs.RoomFor path made' place') :
    made' = made ∧ place' = place := by
  obtain rfl := Except.ok.inj (h.made_eq.symm.trans h'.made_eq)
  exact ⟨rfl, Except.ok.inj (h'.place_eq.symm.trans h.place_eq)⟩

/-- What stands at another place is still there when the file has been created. -/
theorem RoomFor.lookup_opened {path other : String} {made : FileSystem} {place : List String}
    (hroom : fs.RoomFor path made place) (content : List UInt8)
    (hapart : ¬made.SamePlace other path) :
    ∀ node, fs.lookup other = .ok node →
      (made.put place (.file content)).lookup other = .ok node := by
  intro node hnode
  have hmade := lookup_mono (createDirectories_extends hroom.made_eq) hnode
  exact lookup_put_of_ne hroom.place_eq content hmade hapart

/-- At the top there is room without any further directories. -/
theorem roomFor_top {path : String} {place : List String}
    (htop : Files.parentComponents path = []) (hplace : fs.filePlace path = .ok place) :
    fs.RoomFor path fs place where
  made_eq := by rw [htop, createDirectories, makeDirectories]
  place_eq := hplace

/-- A file can be created at a path where nothing stands. -/
def Fresh (fs : FileSystem) (path : String) : Prop :=
  ∃ made place, fs.RoomFor path made place ∧ made.node? place = none

end TableFlow.FileSystem
