import Snakeskin.PackagedProject

/-! # Reproducible packages

The fingerprint of a chaincode is that of its package, so two machines with the same files should
make the same package. This file compares two runs of `package_chaincode`: which of the metadata and
of the orders that differ between the machines are erased, and which reach the archive. -/

namespace Snakeskin

open FileTree Wire

/-! ## Two machines -/

/-- A machine that packages chaincode. -/
structure Machine where
  fs : FileSystem
  gopath : Option String

/-- Two machines hold the same files under a path: regular files only, with the same relative paths
and contents, in whatever order they are listed. -/
structure SameFiles (path : String) (m₁ m₂ : Machine)
    (d₁ d₂ : Directory RegularFile OtherFile) : Prop where
  scandir₁ : m₁.fs.scandir path = .ok d₁
  scandir₂ : m₂.fs.scandir path = .ok d₂
  regular₁ : d₁.listing.RegularOnly
  regular₂ : d₂.listing.RegularOnly
  perm : (pathsAndContents d₁.listing.files).Perm (pathsAndContents d₂.listing.files)

/-- Two machines make the same package of a chaincode, whatever the bytes of an archive are as a
function of its members, and at whatever moments. -/
def SamePackage (m₁ m₂ : Machine) (spec : ChaincodeSpec) : Prop :=
  ∀ (archiver : Archiver) (time₁ time₂ : UInt32), ∃ pkg,
    packageChaincode archiver m₁.fs m₁.gopath spec time₁ = .ok pkg ∧
    packageChaincode archiver m₂.fs m₂.gopath spec time₂ = .ok pkg

/-- A machine can package a directory: the chaincode is in Go, its path is given, looking it up in
the `GOPATH` meets no error but that there is none, and every file that the walk meets can be
opened. -/
structure CanPackage (m : Machine) (spec : ChaincodeSpec) (path : String)
    (directory : Directory RegularFile OtherFile) : Prop where
  golang : spec.language = .golang
  path_ne_empty : path ≠ ""
  found : ∀ e, m.fs.scandir (gopathProject m.gopath path) = .error e → e = .fileNotFoundError
  openable : ∀ file ∈ directory.listing.visitedFiles, file.2.openError = none

/-- The names of the owner and the group of a file; an unknown one is empty. -/
def ownerNames (fs : FileSystem) (file : RegularFile) : String × String :=
  ((fs.pwd file.stat.uid).getD "", (fs.grp file.stat.gid).getD "")

/-- The files that a walk meets, by the names under which they are archived. -/
def archivedFiles (path : String) (directory : Directory RegularFile OtherFile) :
    List (String × RegularFile) :=
  directory.listing.visitedFiles.map fun e => (arcname path e.1, e.2)

/-- What of two machines reaches their packages is the same: the walks meet the same paths in the
same order, file by file the names of the owners and groups are the same, and so are the hard
links. -/
structure AgreeOnArchived (path : String) (m₁ m₂ : Machine)
    (d₁ d₂ : Directory RegularFile OtherFile) : Prop where
  order : d₁.listing.visitedFiles.map Prod.fst = d₂.listing.visitedFiles.map Prod.fst
  owners : d₁.listing.visitedFiles.map (fun e => ownerNames m₁.fs e.2) =
    d₂.listing.visitedFiles.map fun e => ownerNames m₂.fs e.2
  links : hardLinks [] (archivedFiles path d₁) = hardLinks [] (archivedFiles path d₂)

/-! ## One machine -/

/-- What a machine adds to the archive of regular files. -/
theorem packageMembers_regular {m : Machine} {spec : ChaincodeSpec} {path : String}
    {directory : Directory RegularFile OtherFile} (hspec : spec.path = some path)
    (hscandir : m.fs.scandir path = .ok directory) (hregular : directory.listing.RegularOnly)
    {members : List Member} :
    packageMembers m.fs m.gopath spec = .ok members ↔
      CanPackage m spec path directory ∧
        members = membersOf m.fs []
          (directory.listing.visitedFiles.map fun e => (under path e.1, .inl e.2)) := by
  have hvisited : m.fs.visited path =
      directory.listing.visitedFiles.map fun e => (e.1, .inl e.2) := by
    rw [FileSystem.visited, hscandir]
    exact hregular.visited_eq
  rw [packageMembers_eq_ok]
  constructor
  · rintro ⟨hgolang, path', hspec', hpath, ⟨projPath, hfind⟩, hopen, hmembers⟩
    obtain rfl : path = path' := Option.some.inj (hspec.symm.trans hspec')
    rw [hvisited, List.map_map] at hmembers
    refine ⟨⟨hgolang, hpath, fun e he => ?_, fun file hfile => ?_⟩, hmembers⟩
    · -- An error other than that there is no such file would have been raised.
      obtain ⟨project, hproject, -⟩ | ⟨hmissing, -⟩ := findProject_eq_ok.mp hfind
      · cases hproject.symm.trans he
      · exact Except.error.inj (he.symm.trans hmissing)
    · refine hopen (file.1, .inl file.2) ?_
      rw [hvisited]
      exact List.mem_map_of_mem hfile
  · rintro ⟨hcan, hmembers⟩
    refine ⟨hcan.golang, path, hspec, hcan.path_ne_empty, ?_, fun e he => ?_, ?_⟩
    · cases hproject : m.fs.scandir (gopathProject m.gopath path) with
      | ok project => exact ⟨_, findProject_eq_ok.mpr (.inl ⟨project, hproject, rfl⟩)⟩
      | error e =>
          cases hcan.found e hproject
          exact ⟨_, findProject_eq_ok.mpr (.inr ⟨hproject, directory, hscandir, rfl⟩)⟩
    · rw [hvisited] at he
      obtain ⟨file, hfile, rfl⟩ := List.mem_map.mp he
      exact hcan.openable file hfile
    · rw [hvisited, List.map_map]
      exact hmembers

/-! ## What reaches the archive -/

/-- The member for a file with a name, contents, and names of its owner and group: nothing else of
the file reaches the archive. -/
def memberOf (file : String × Bytes × String × String) : Option String → Member
  | some first => ⟨standardize {
      name := file.1, mode := 0, uid := 0, gid := 0, size := 0, mtime := 0, type := .lnktype
      linkname := first, uname := file.2.2.1, gname := file.2.2.2 }, []⟩
  | none => ⟨standardize {
      name := file.1, mode := 0, uid := 0, gid := 0, size := file.2.1.length, mtime := 0
      type := .regtype, linkname := "", uname := file.2.2.1, gname := file.2.2.2 }, file.2.1⟩

/-- **The metadata are erased** but for the names of the owner and the group. -/
theorem fileMember_eq (fs : FileSystem) (file : String × RegularFile) (link : Option String) :
    fileMember fs file link = memberOf (file.1, file.2.contents, ownerNames fs file.2) link := by
  cases link <;> rfl

/-- The members for regular files are a function of their names and contents, the names of their
owners and groups, and the hard links. -/
theorem membersOf_eq (fs : FileSystem) (path : String)
    (files : List (List FileName × RegularFile)) :
    membersOf fs [] (files.map fun e => (under path e.1, .inl e.2)) =
      ((((pathsAndContents files).zip (files.map fun e => ownerNames fs e.2)).map
          fun e => (arcname path e.1.1, e.1.2, e.2)).zip
        (hardLinks [] (files.map fun e => (arcname path e.1, e.2)))).map
          fun p => memberOf p.1 p.2 := by
  rw [membersOf_files, pathsAndContents, List.zip_map', List.map_map, List.zip_map_left,
    List.zip_map_left, List.map_map, List.map_map]
  refine List.map_congr_left fun p _ => ?_
  exact fileMember_eq fs _ _

/-- The names of the members. -/
theorem map_name_membersOf (fs : FileSystem) (path : String)
    (files : List (List FileName × RegularFile)) :
    (membersOf fs [] (files.map fun e => (under path e.1, .inl e.2))).map (·.tarinfo.name) =
      (files.map Prod.fst).map (arcname path) := by
  rw [membersOf_files, List.map_map, List.map_map]
  simp only [Function.comp_def, name_fileMember]
  rw [show (fun p : (String × RegularFile) × Option String => p.1.1) = Prod.fst ∘ Prod.fst from rfl,
    ← List.map_map, List.map_fst_zip (by simp), List.map_map]
  rfl

/-- The names of the owners and groups of the members. -/
theorem map_owner_membersOf (fs : FileSystem) (path : String)
    (files : List (List FileName × RegularFile)) :
    (membersOf fs [] (files.map fun e => (under path e.1, .inl e.2))).map
        (fun m => (m.tarinfo.uname, m.tarinfo.gname)) =
      files.map fun e => ownerNames fs e.2 := by
  have howner : ∀ (file : String × RegularFile) (link : Option String),
      ((fileMember fs file link).tarinfo.uname, (fileMember fs file link).tarinfo.gname) =
        ownerNames fs file.2 := by
    intro file link
    cases link <;> rfl
  rw [membersOf_files, List.map_map]
  simp only [Function.comp_def, howner]
  rw [show (fun p : (String × RegularFile) × Option String => ownerNames fs p.1.2) =
      (fun file => ownerNames fs file.2) ∘ Prod.fst from rfl,
    ← List.map_map, List.map_fst_zip (by simp), List.map_map]
  rfl

/-- The names of members determine the paths they were added for. -/
theorem map_arcname_inj {path : String} (hpath : path ≠ "") {paths paths' : List (List FileName)}
    (hpaths : ∀ names ∈ paths, names ≠ []) (hpaths' : ∀ names ∈ paths', names ≠ [])
    (h : paths.map (arcname path) = paths'.map (arcname path)) : paths = paths' := by
  have hname : ∀ paths : List (List FileName), (∀ names ∈ paths, names ≠ []) →
      paths.map (arcname path) = paths.map fun names => arcPrefix path ++ relative names :=
    fun paths hpaths => List.map_congr_left fun names hnames => arcname_eq hpath (hpaths names hnames)
  rw [hname paths hpaths, hname paths' hpaths'] at h
  refine List.map_injective_iff.mpr (fun names names' heq => ?_) h
  exact relative_injective ((String.append_right_inj _).mp heq)

/-- The paths that a walk meets are those of entries. -/
theorem path_ne_nil_of_mem_visitedFiles {l : Listing RegularFile OtherFile} (hl : l.RegularOnly) :
    ∀ names ∈ l.visitedFiles.map Prod.fst, names ≠ [] := by
  intro names hnames
  obtain ⟨e, he, rfl⟩ := List.mem_map.mp hnames
  have hmem : (e.1, .inl e.2) ∈ l.visited := by
    rw [hl.visited_eq]
    exact List.mem_map_of_mem he
  exact Listing.path_ne_nil_of_mem_visited hmem

/-! ## The same contents -/

/-- What a walk meets has the path and the contents of a file. -/
theorem mem_pathsAndContents_of_visited {l : Listing RegularFile OtherFile}
    {p : List FileName × Bytes} (h : p ∈ pathsAndContents l.visitedFiles) :
    p ∈ pathsAndContents l.files := by
  obtain ⟨e, he, rfl⟩ := List.mem_map.mp h
  exact List.mem_map.mpr ⟨e, Listing.mem_files_of_mem_visitedFiles he, rfl⟩

/-- **Walks that meet the same paths in the same order meet the same contents.** -/
theorem pathsAndContents_visitedFiles_eq {path : String} {m₁ m₂ : Machine}
    {d₁ d₂ : Directory RegularFile OtherFile} (h : SameFiles path m₁ m₂ d₁ d₂)
    (horder : d₁.listing.visitedFiles.map Prod.fst = d₂.listing.visitedFiles.map Prod.fst) :
    pathsAndContents d₁.listing.visitedFiles = pathsAndContents d₂.listing.visitedFiles := by
  have hnodup : ((pathsAndContents d₂.listing.files).map Prod.fst).Nodup := by
    rw [pathsAndContents, List.map_map]
    exact Listing.files_nodup d₂.distinct
  have hpaths : (pathsAndContents d₁.listing.visitedFiles).map Prod.fst =
      (pathsAndContents d₂.listing.visitedFiles).map Prod.fst := by
    rw [pathsAndContents, pathsAndContents, List.map_map, List.map_map]
    exact horder
  refine List.eq_of_map_eq hpaths fun p₁ h₁ p₂ h₂ hpath => ?_
  -- On the second machine both are the contents of the one file with that path.
  have hmem₁ := h.perm.mem_iff.mp (mem_pathsAndContents_of_visited h₁)
  have hmem₂ := mem_pathsAndContents_of_visited h₂
  exact List.inj_on_of_nodup_map hnodup hmem₁ hmem₂ hpath

/-! ## Two packages -/

/-- The members of two machines are the same exactly when what reaches the archive is. -/
theorem membersOf_eq_iff {path : String} (hpath : path ≠ "") {m₁ m₂ : Machine}
    {d₁ d₂ : Directory RegularFile OtherFile} (h : SameFiles path m₁ m₂ d₁ d₂) :
    membersOf m₁.fs [] (d₁.listing.visitedFiles.map fun e => (under path e.1, .inl e.2)) =
        membersOf m₂.fs [] (d₂.listing.visitedFiles.map fun e => (under path e.1, .inl e.2)) ↔
      AgreeOnArchived path m₁ m₂ d₁ d₂ := by
  constructor
  · intro hmembers
    have hnames := congrArg (List.map (·.tarinfo.name)) hmembers
    have howners := congrArg (List.map fun m => (m.tarinfo.uname, m.tarinfo.gname)) hmembers
    have hlinks := congrArg (List.map Member.link) hmembers
    rw [map_name_membersOf, map_name_membersOf] at hnames
    rw [map_owner_membersOf, map_owner_membersOf] at howners
    rw [map_link_membersOf, map_link_membersOf] at hlinks
    exact ⟨map_arcname_inj hpath (path_ne_nil_of_mem_visitedFiles h.regular₁)
      (path_ne_nil_of_mem_visitedFiles h.regular₂) hnames, howners, hlinks⟩
  · intro hagree
    have hlinks := hagree.links
    rw [archivedFiles, archivedFiles] at hlinks
    rw [membersOf_eq, membersOf_eq, pathsAndContents_visitedFiles_eq h hagree.order, hagree.owners,
      hlinks]

/-- Archives are the same for all archivers only if their members are. -/
theorem members_eq_of_archive_eq {members₁ members₂ : List Member}
    (h : ∀ archiver : Archiver, archiver.archive members₁ = archiver.archive members₂) :
    members₁ = members₂ := by
  -- An archiver that tells the first sequence of members from all others.
  have hwrite : (if members₁ = members₁ then [0] else []) =
      (if members₂ = members₁ then [0] else ([] : Bytes)) :=
    List.append_cancel_left
      (h ⟨fun members => if members = members₁ then [0] else [], fun _ => []⟩)
  rw [if_pos rfl] at hwrite
  by_contra hne
  rw [if_neg (Ne.symm hne)] at hwrite
  exact List.cons_ne_nil _ _ hwrite

/-- **When packages are reproducible.** Two machines with the same files under the path of a
chaincode make the same package, at all moments, exactly when both can package it, their walks meet
the paths in the same order, the names of the owners and groups of the files are the same, and so
are the hard links among them. -/
theorem samePackage_iff {spec : ChaincodeSpec} {path : String} (hspec : spec.path = some path)
    {m₁ m₂ : Machine} {d₁ d₂ : Directory RegularFile OtherFile}
    (h : SameFiles path m₁ m₂ d₁ d₂) :
    SamePackage m₁ m₂ spec ↔
      CanPackage m₁ spec path d₁ ∧ CanPackage m₂ spec path d₂ ∧
        AgreeOnArchived path m₁ m₂ d₁ d₂ := by
  have hmembers₁ := @packageMembers_regular m₁ spec path d₁ hspec h.scandir₁ h.regular₁
  have hmembers₂ := @packageMembers_regular m₂ spec path d₂ hspec h.scandir₂ h.regular₂
  constructor
  · intro hsame
    obtain ⟨pkg, hpkg₁, hpkg₂⟩ := hsame wireArchiver 0 0
    obtain ⟨_, hadded₁, -⟩ := packageChaincode_eq_ok.mp hpkg₁
    obtain ⟨_, hadded₂, -⟩ := packageChaincode_eq_ok.mp hpkg₂
    obtain ⟨hcan₁, rfl⟩ := hmembers₁.mp hadded₁
    obtain ⟨hcan₂, rfl⟩ := hmembers₂.mp hadded₂
    refine ⟨hcan₁, hcan₂, (membersOf_eq_iff hcan₁.path_ne_empty h).mp ?_⟩
    refine members_eq_of_archive_eq fun archiver => ?_
    obtain ⟨pkg, hpkg₁, hpkg₂⟩ := hsame archiver 0 0
    obtain ⟨_, hadded₁', rfl⟩ := packageChaincode_eq_ok.mp hpkg₁
    obtain ⟨_, hadded₂', harchive⟩ := packageChaincode_eq_ok.mp hpkg₂
    cases hadded₁.symm.trans hadded₁'
    cases hadded₂.symm.trans hadded₂'
    exact harchive.symm
  · rintro ⟨hcan₁, hcan₂, hagree⟩ archiver time₁ time₂
    have hmembers := (membersOf_eq_iff hcan₁.path_ne_empty h).mpr hagree
    refine ⟨_, packageChaincode_eq_ok.mpr ⟨_, hmembers₁.mpr ⟨hcan₁, rfl⟩, rfl⟩,
      packageChaincode_eq_ok.mpr ⟨_, hmembers₂.mpr ⟨hcan₂, rfl⟩, ?_⟩⟩
    rw [hmembers]

/-- A folder of a chaincode directory with one file, which has the given metadata. -/
def libraryFolder (stat : Stat) (rest : Listing RegularFile OtherFile) :
    Listing RegularFile OtherFile :=
  .directory libFolder true (.file utilFile { contents := [2], stat } .nil) rest

/-- A chaincode directory with one file in it and one in a folder, with the given metadata. -/
def machineDirectory (stat : Stat) : Directory RegularFile OtherFile where
  listing := .file mainFile { contents := [1], stat } (libraryFolder stat .nil)
  distinct := by simp [Listing.Distinct, Listing.names, libraryFolder, libFolder, mainFile]

/-- The same files in a directory that lists its folder first. -/
def machineDirectoryReversed (stat : Stat) : Directory RegularFile OtherFile where
  listing := libraryFolder stat (.file mainFile { contents := [1], stat } .nil)
  distinct := by simp [Listing.Distinct, Listing.names, libraryFolder, libFolder, mainFile]

/-- A machine with a chaincode directory, which knows all owners and groups under one name. -/
def machineOf (directory : Directory RegularFile OtherFile) (owner : String) : Machine where
  fs := {
    scandir := fun p => if p = "cc" then .ok directory else .error .fileNotFoundError
    pwd := fun _ => some owner
    grp := fun _ => some owner }
  gopath := none

/-- A machine can package a directory of files that can be opened. -/
theorem canPackage_machineOf {directory : Directory RegularFile OtherFile} (owner : String)
    (hopenable : ∀ file ∈ directory.listing.visitedFiles, file.2.openError = none) :
    CanPackage (machineOf directory owner) { path := some "cc" } "cc" directory where
  golang := rfl
  path_ne_empty := by decide
  found e he := by
    have hne : gopathProject none "cc" ≠ "cc" := by
      rw [gopathProject_cc]
      decide
    simpa [machineOf, hne, eq_comm] using he
  openable := hopenable

/-- Different users, modes and times, directories that are listed in different orders, and the same
names of owners: the packages are the same. -/
theorem samePackage_iff_same_owner :
    SamePackage
      (machineOf (machineDirectory { uid := 1000, mode := 0o100600, mtime := 5 }) "dev")
      (machineOf (machineDirectoryReversed { uid := 500, mtime := 9 }) "dev")
      { path := some "cc" } := by
  have hsame : SameFiles "cc"
      (machineOf (machineDirectory { uid := 1000, mode := 0o100600, mtime := 5 }) "dev")
      (machineOf (machineDirectoryReversed { uid := 500, mtime := 9 }) "dev")
      (machineDirectory { uid := 1000, mode := 0o100600, mtime := 5 })
      (machineDirectoryReversed { uid := 500, mtime := 9 }) :=
    ⟨rfl, rfl, by simp [machineDirectory, libraryFolder, Listing.RegularOnly],
      by simp [machineDirectoryReversed, libraryFolder, Listing.RegularOnly], .swap _ _ _⟩
  have hopenable : ∀ file ∈ (machineDirectory { uid := 1000, mode := 0o100600, mtime := 5 }
      ).listing.visitedFiles, file.2.openError = none := by
    simp [machineDirectory, libraryFolder, Listing.visitedFiles, Listing.visited,
      Listing.nonDirectories, Listing.visitedBelow, below]
  have hopenable' : ∀ file ∈ (machineDirectoryReversed { uid := 500, mtime := 9 }
      ).listing.visitedFiles, file.2.openError = none := by
    simp [machineDirectoryReversed, libraryFolder, Listing.visitedFiles, Listing.visited,
      Listing.nonDirectories, Listing.visitedBelow, below]
  -- Both walks meet the file of the directory before that of its folder.
  exact (samePackage_iff rfl hsame).mpr
    ⟨canPackage_machineOf _ hopenable, canPackage_machineOf _ hopenable', rfl, rfl, rfl⟩

/-- A machine with the directory, all of whose files have one owner. -/
def ownedBy (owner : String) : Machine := machineOf (machineDirectory {}) owner

/-- Two machines with the same files, owned by users of different names: each writes the names of its
own into the archive. -/
theorem owner_names_reach_package :
    SameFiles "cc" (ownedBy "alice") (ownedBy "bob") (machineDirectory {}) (machineDirectory {}) ∧
    (∃ pkg₁ pkg₂,
      packageChaincode wireArchiver (ownedBy "alice").fs none { path := some "cc" } 0 = .ok pkg₁ ∧
      packageChaincode wireArchiver (ownedBy "bob").fs none { path := some "cc" } 0 = .ok pkg₂ ∧
      pkg₁ ≠ pkg₂) ∧
    ¬ SamePackage (ownedBy "alice") (ownedBy "bob") { path := some "cc" } := by
  obtain ⟨pkg₁, hpkg₁⟩ : ∃ pkg, packageChaincode wireArchiver (ownedBy "alice").fs none
      { path := some "cc" } 0 = .ok pkg := exists_ok_of_isSome (by decide +kernel)
  obtain ⟨pkg₂, hpkg₂⟩ : ∃ pkg, packageChaincode wireArchiver (ownedBy "bob").fs none
      { path := some "cc" } 0 = .ok pkg := exists_ok_of_isSome (by decide +kernel)
  have hne : pkg₁ ≠ pkg₂ := by
    have hdiffer : (packageChaincode wireArchiver (ownedBy "alice").fs none
        { path := some "cc" } 0).toOption ≠
        (packageChaincode wireArchiver (ownedBy "bob").fs none
          { path := some "cc" } 0).toOption := by decide +kernel
    rw [hpkg₁, hpkg₂] at hdiffer
    exact fun h => hdiffer (congrArg some h)
  have hfiles : SameFiles "cc" (ownedBy "alice") (ownedBy "bob") (machineDirectory {})
      (machineDirectory {}) :=
    ⟨rfl, rfl, by simp [machineDirectory, libraryFolder, Listing.RegularOnly],
      by simp [machineDirectory, libraryFolder, Listing.RegularOnly], .rfl⟩
  refine ⟨hfiles, ⟨pkg₁, pkg₂, hpkg₁, hpkg₂, hne⟩, fun hsame => ?_⟩
  obtain ⟨pkg, h₁, h₂⟩ := hsame wireArchiver 0 0
  cases hpkg₁.symm.trans h₁
  cases hpkg₂.symm.trans h₂
  exact hne rfl

end Snakeskin
