import Mathlib.Data.List.MinMax
import Snakeskin.ArchiveMembers

/-! # The packaged project

A chaincode package is meant to hold the whole project: the directory that the path of the chaincode
names in the `GOPATH`, or else directly. The checks of `package_chaincode`, its walk and the names
of the entries each use a path of their own; this file says when the three agree. -/

namespace Snakeskin

open FileTree Wire

/-! ## Projects and packages -/

/-- The project directory of a path: that in the `GOPATH` if it exists, else the path itself. -/
def projectDirectory (fs : FileSystem) (gopath : Option String) (path : String) :
    Option (Directory RegularFile OtherFile) :=
  match fs.scandir (gopathProject gopath path) with
  | .ok directory => some directory
  | .error _ => (fs.scandir path).toOption

/-- The entry for a file of the project: its contents, under `src/`, the path of the chaincode and
the path of the file in the project. -/
def projectEntry (path : String) (file : List FileName × RegularFile) : ArchiveEntry where
  name := "src/" ++ join path (relative file.1)
  type := .regtype
  linkname := ""
  data := file.2.contents

/-- A package holds the project of a chaincode: it has one entry for each regular file at any depth
below the project directory, and no other. -/
def HoldsProject (archiver : Archiver) (fs : FileSystem) (gopath : Option String)
    (spec : ChaincodeSpec) (pkg : Bytes) : Prop :=
  ∃ path project, spec.path = some path ∧ projectDirectory fs gopath path = some project ∧
    (archiver.read pkg).Perm (project.listing.files.map (projectEntry path))

/-- The paths and the contents of files. -/
def pathsAndContents (files : List (List FileName × RegularFile)) : List (List FileName × Bytes) :=
  files.map fun e => (e.1, e.2.contents)

/-- The walk of the path itself meets the project: it meets regular files only, none of them a hard
link of an earlier one, and they have the paths and the contents of the files of the project; and
the path is relative, unless there are no files. -/
structure WalksProject (fs : FileSystem) (path : String)
    (project : Directory RegularFile OtherFile) (files : List (List FileName × RegularFile)) :
    Prop where
  visited : fs.visited path = files.map fun e => (e.1, .inl e.2)
  unlinked : files.Pairwise fun first file => ¬ HardLinked first.2 file.2
  contents : (pathsAndContents files).Perm (pathsAndContents project.listing.files)
  relative_or_empty : isAbsolute path = false ∨ project.listing.files = []

/-! ## The checks -/

/-- The checks pass only if there is a project directory; with an absolute path it is the directory
that is walked. -/
theorem projectDirectory_of_findProject {fs : FileSystem} {gopath : Option String}
    {path projPath : String} (h : findProject fs gopath path = .ok projPath) :
    ∃ project, projectDirectory fs gopath path = some project ∧
      (isAbsolute path = true → fs.scandir path = .ok project) := by
  obtain ⟨project, hproject, -⟩ | ⟨hmissing, project, hproject, -⟩ := findProject_eq_ok.mp h
  · -- An absolute path is not looked up in the `GOPATH` but taken as it is.
    refine ⟨project, by rw [projectDirectory, hproject], fun habsolute => ?_⟩
    rw [gopathProject, join, if_pos habsolute] at hproject
    exact hproject
  · exact ⟨project, by rw [projectDirectory, hmissing, hproject]; rfl, fun _ => hproject⟩

/-! ## The entries -/

/-- The names of what a walk meets are different. -/
theorem visited_nodup (fs : FileSystem) (path : String) :
    ((fs.visited path).map Prod.fst).Nodup := by
  unfold FileSystem.visited
  cases fs.scandir path with
  | error e => exact List.nodup_nil
  | ok directory => exact Listing.visited_nodup directory.distinct

/-- What a walk meets has a path. -/
theorem path_ne_nil_of_mem_visited {fs : FileSystem} {path : String} {e : List FileName × Entry}
    (h : e ∈ fs.visited path) : e.1 ≠ [] := by
  unfold FileSystem.visited at h
  cases hdir : fs.scandir path with
  | error e' =>
      rw [hdir] at h
      cases h
  | ok directory =>
      rw [hdir] at h
      exact Listing.path_ne_nil_of_mem_visited h

/-- **A package is read back as the members that were added.** -/
theorem read_package {archiver : Archiver} (harchiver : archiver.ReadsBack) {fs : FileSystem}
    {path : String} (hpath : path ≠ "") :
    archiver.read (archiver.archive
        (membersOf fs [] ((fs.visited path).map fun e => (under path e.1, e.2)))) =
      (membersOf fs [] ((fs.visited path).map fun e => (under path e.1, e.2))).map Member.entry := by
  refine harchiver _ fun m hm => ?_
  obtain ⟨e, he, hname⟩ := arcname_of_mem_membersOf hm
  have hnames := path_ne_nil_of_mem_visited he
  have hslash := endsInSlash_append_relative (arcPrefix path) hnames
  rw [hname, arcname_eq hpath hnames]
  refine ⟨fun hempty => ?_, hslash⟩
  obtain ⟨n, names, hcons⟩ := List.exists_cons_of_ne_nil hnames
  have hlist := congrArg String.toList hempty
  rw [hcons, String.toList_append] at hlist
  exact relative_cons_ne_empty n names
    (String.toList_injective (List.append_eq_nil_iff.mp hlist).2)

/-- The entry of a regular file that is archived as such. -/
def fileEntry (path : String) (file : List FileName × RegularFile) : ArchiveEntry where
  name := arcname path file.1
  type := .regtype
  linkname := ""
  data := file.2.contents

/-- No file is archived as a hard link when none is one of an earlier file, and conversely. -/
theorem hardLinks_visited_iff {fs : FileSystem} {path : String} (hpath : path ≠ "")
    {files : List (List FileName × RegularFile)}
    (hvisited : fs.visited path = files.map fun e => (e.1, .inl e.2)) :
    (∀ link ∈ hardLinks [] (files.map fun e => (arcname path e.1, e.2)), link = none) ↔
      files.Pairwise fun first file => ¬ HardLinked first.2 file.2 := by
  have hnodup : ((files.map fun e => (arcname path e.1, e.2)).map Prod.fst).Nodup := by
    have hpaths : (files.map Prod.fst).Nodup := by
      have hnodup := visited_nodup fs path
      rw [hvisited, List.map_map] at hnodup
      exact hnodup
    rw [List.map_map]
    have harcnames : ((files.map Prod.fst).map (arcname path)).Nodup := by
      refine List.Nodup.map_on (fun names hnames names' hnames' h => ?_) hpaths
      have hne : ∀ names ∈ files.map Prod.fst, names ≠ [] := by
        intro names hmem
        obtain ⟨e, he, rfl⟩ := List.mem_map.mp hmem
        have hwalked : (e.1, .inl e.2) ∈ fs.visited path := by
          rw [hvisited]
          exact List.mem_map.mpr ⟨e, he, rfl⟩
        exact path_ne_nil_of_mem_visited hwalked
      exact arcname_inj hpath (hne names hnames) (hne names' hnames') h
    rw [List.map_map] at harcnames
    exact harcnames
  rw [hardLinks_eq_none_iff hnodup (by simp), List.pairwise_map]
  simp

/-- **When all entries are regular**: the walk meets regular files only, and none is a hard link of
an earlier one. -/
theorem exists_files_of_entries {fs : FileSystem} {path : String} (hpath : path ≠ "")
    (h : ∀ m ∈ membersOf fs [] ((fs.visited path).map fun e => (under path e.1, e.2)),
      m.tarinfo.type = .regtype) :
    ∃ files : List (List FileName × RegularFile),
      fs.visited path = files.map (fun e => (e.1, .inl e.2)) ∧
      files.Pairwise fun first file => ¬ HardLinked first.2 file.2 := by
  obtain ⟨files, hvisited⟩ := exists_files_of_regtype h
  refine ⟨files, hvisited, (hardLinks_visited_iff hpath hvisited).mp fun link hlink => ?_⟩
  -- A link would be the link of a member, and a regular member has none.
  rw [← map_link_membersOf fs] at hlink
  obtain ⟨m, hm, rfl⟩ := List.mem_map.mp hlink
  have hregular : m.tarinfo.type = .regtype := by
    refine h m ?_
    rw [hvisited, List.map_map]
    exact hm
  rw [Member.link, hregular, if_neg (by decide)]

/-- The entries of regular files none of which is a hard link. -/
theorem entries_of_unlinked {fs : FileSystem} {path : String} (hpath : path ≠ "")
    {files : List (List FileName × RegularFile)}
    (hvisited : fs.visited path = files.map fun e => (e.1, .inl e.2))
    (hunlinked : files.Pairwise fun first file => ¬ HardLinked first.2 file.2) :
    (membersOf fs [] ((fs.visited path).map fun e => (under path e.1, e.2))).map Member.entry =
      files.map (fileEntry path) := by
  have hnone := (hardLinks_visited_iff hpath hvisited).mpr hunlinked
  rw [hvisited, List.map_map]
  show (membersOf fs [] (files.map fun e => (under path e.1, .inl e.2))).map Member.entry = _
  rw [membersOf_files_of_unlinked fs [] path hnone, List.map_map]
  rfl

/-! ## The names -/

/-- The entry that a package should have for a file with a path and contents. -/
def entryAt (path : String) (file : List FileName × Bytes) : ArchiveEntry where
  name := "src/" ++ join path (relative file.1)
  type := .regtype
  linkname := ""
  data := file.2

/-- The entries of a project are those of the paths and contents of its files. -/
theorem map_projectEntry (path : String) (files : List (List FileName × RegularFile)) :
    files.map (projectEntry path) = (pathsAndContents files).map (entryAt path) := by
  rw [pathsAndContents, List.map_map]
  rfl

/-- Different paths or contents make different entries. -/
theorem entryAt_injective (path : String) : Function.Injective (entryAt path) := by
  rintro ⟨names, contents⟩ ⟨names', contents'⟩ h
  obtain ⟨hname, -, -, hdata⟩ := ArchiveEntry.mk.inj h
  simp only [join_relative] at hname
  have hrelative := (String.append_right_inj _).mp ((String.append_right_inj _).mp hname)
  rw [relative_injective hrelative, show contents = contents' from hdata]

/-- Under a relative path files are archived under the names that they should have. -/
theorem fileEntry_of_relative {path : String} (hpath : path ≠ "")
    (hrelative : isAbsolute path = false) {file : List FileName × RegularFile} (hfile : file.1 ≠ []) :
    fileEntry path file = entryAt path (file.1, file.2.contents) := by
  rw [fileEntry, entryAt, arcname_eq hpath hfile, arcPrefix, if_neg (by simp [hrelative]),
    join_relative, String.append_assoc]

/-- Under an absolute path the archived name of a file is shorter than that which it should have, by
the length of `src/` at least. -/
theorem length_arcname_of_absolute {path : String} (hpath : path ≠ "")
    (habsolute : isAbsolute path = true) {names : List FileName} (hnames : names ≠ []) :
    (arcname path names).length + 4 ≤ ("src/" ++ join path (relative names)).length := by
  have hstrip := length_stripSlashes_le (asPrefix path)
  rw [arcname_eq hpath hnames, arcPrefix, if_pos habsolute, join_relative]
  simp only [String.length_append]
  have hsrc : ("src/" : String).length = 4 := by decide
  omega

/-- **Under an absolute path a package with files never has the names that it should have**: the
longest of these names is longer than all names in the package. -/
theorem not_perm_of_absolute {path : String} (hpath : path ≠ "")
    (habsolute : isAbsolute path = true) {files projectFiles : List (List FileName × RegularFile)}
    (hfiles : ∀ e ∈ files, e ∈ projectFiles ∧ e.1 ≠ []) (hne : projectFiles ≠ []) :
    ¬ (files.map (fileEntry path)).Perm (projectFiles.map (projectEntry path)) := by
  intro hperm
  obtain ⟨longest, hlongest⟩ : ∃ longest,
      longest ∈ projectFiles.argmax fun e => (projectEntry path e).name.length :=
    Option.ne_none_iff_exists'.mp (mt List.argmax_eq_none.mp hne)
  -- Some file of the package has the longest name, and should have a longer one.
  have hmem : projectEntry path longest ∈ files.map (fileEntry path) :=
    hperm.mem_iff.mpr (List.mem_map_of_mem (List.argmax_mem hlongest))
  obtain ⟨e, he, hentry⟩ := List.mem_map.mp hmem
  obtain ⟨heproject, henames⟩ := hfiles e he
  have hshorter := length_arcname_of_absolute hpath habsolute henames
  have hle := List.le_of_mem_argmax heproject hlongest
  rw [← hentry] at hle
  simp only [projectEntry, fileEntry] at hle
  omega

/-- **The entries are those of the project** exactly when the files walked have the paths and the
contents of the project's, under a relative path unless there are none. -/
theorem entries_perm_iff {fs : FileSystem} {path : String} (hpath : path ≠ "")
    {project : Directory RegularFile OtherFile}
    (hproject : isAbsolute path = true → fs.scandir path = .ok project)
    {files : List (List FileName × RegularFile)}
    (hvisited : fs.visited path = files.map fun e => (e.1, .inl e.2)) :
    (files.map (fileEntry path)).Perm (project.listing.files.map (projectEntry path)) ↔
      (pathsAndContents files).Perm (pathsAndContents project.listing.files) ∧
        (isAbsolute path = false ∨ project.listing.files = []) := by
  have hwalked : ∀ e ∈ files, (e.1, .inl e.2) ∈ fs.visited path := by
    intro e he
    rw [hvisited]
    exact List.mem_map_of_mem he
  cases habsolute : isAbsolute path with
  | false =>
      have hentries : files.map (fileEntry path) = (pathsAndContents files).map (entryAt path) := by
        rw [pathsAndContents, List.map_map]
        refine List.map_congr_left fun e he => ?_
        exact fileEntry_of_relative hpath habsolute (path_ne_nil_of_mem_visited (hwalked e he))
      rw [hentries, map_projectEntry, List.map_perm_map_iff (entryAt_injective path)]
      simp
  | true =>
      by_cases hempty : project.listing.files = []
      · simp [hempty, pathsAndContents]
      · have hfiles : ∀ e ∈ files, e ∈ project.listing.files ∧ e.1 ≠ [] := by
          intro e he
          have hmem := hwalked e he
          refine ⟨?_, path_ne_nil_of_mem_visited hmem⟩
          rw [FileSystem.visited, hproject habsolute] at hmem
          exact Listing.mem_files_of_mem_visited hmem
        simp [hempty, not_perm_of_absolute hpath habsolute hfiles hempty]

/-! ## The package -/

/-- **When a package holds the project.** A package that is returned has exactly one entry for each
file of the project, under its name below `src/` and with its contents, and no other entry, exactly
when the walk of the path itself meets the project. -/
theorem holdsProject_iff {archiver : Archiver} (harchiver : archiver.ReadsBack) {fs : FileSystem}
    {gopath : Option String} {spec : ChaincodeSpec} {time : UInt32} {pkg : Bytes}
    (h : packageChaincode archiver fs gopath spec time = .ok pkg) :
    HoldsProject archiver fs gopath spec pkg ↔
      ∃ path project files, spec.path = some path ∧
        projectDirectory fs gopath path = some project ∧ WalksProject fs path project files := by
  obtain ⟨members, hmembers, rfl⟩ := packageChaincode_eq_ok.mp h
  obtain ⟨-, path, hspec, hpath, ⟨projPath, hfind⟩, -, rfl⟩ := packageMembers_eq_ok.mp hmembers
  obtain ⟨project, hproject, habsolute⟩ := projectDirectory_of_findProject hfind
  have hread := @read_package archiver harchiver fs path hpath
  constructor
  · rintro ⟨path', project', hspec', hproject', hperm⟩
    obtain rfl : path = path' := Option.some.inj (hspec.symm.trans hspec')
    obtain rfl : project = project' := Option.some.inj (hproject.symm.trans hproject')
    rw [hread] at hperm
    -- The entries of the project are regular files, so those of the members are.
    have hregular : ∀ m ∈ membersOf fs [] ((fs.visited path).map fun e => (under path e.1, e.2)),
        m.tarinfo.type = .regtype := by
      intro m hm
      obtain ⟨e, -, hentry⟩ := List.mem_map.mp (hperm.mem_iff.mp (List.mem_map_of_mem hm))
      exact (congrArg ArchiveEntry.type hentry).symm
    obtain ⟨files, hvisited, hunlinked⟩ := exists_files_of_entries hpath hregular
    rw [entries_of_unlinked hpath hvisited hunlinked,
      entries_perm_iff hpath habsolute hvisited] at hperm
    exact ⟨path, project, files, hspec, hproject, hvisited, hunlinked, hperm.1, hperm.2⟩
  · rintro ⟨path', project', files, hspec', hproject', hwalks⟩
    obtain rfl : path = path' := Option.some.inj (hspec.symm.trans hspec')
    obtain rfl : project = project' := Option.some.inj (hproject.symm.trans hproject')
    refine ⟨path, project, hspec, hproject, ?_⟩
    rw [hread, entries_of_unlinked hpath hwalks.visited hwalks.unlinked,
      entries_perm_iff hpath habsolute hwalks.visited]
    exact ⟨hwalks.contents, hwalks.relative_or_empty⟩

/-- The name of the main file of a chaincode. -/
def mainFile : FileName := ⟨"main.go", by decide, by decide⟩

/-- The name of a folder of a chaincode. -/
def libFolder : FileName := ⟨"lib", by decide, by decide⟩

/-- The name of a file in that folder. -/
def utilFile : FileName := ⟨"util.go", by decide, by decide⟩

/-- A chaincode directory with one file in it and one in a directory below. -/
def ccDirectory : Directory RegularFile OtherFile where
  listing :=
    .file mainFile { contents := [1] }
      (.directory libFolder true (.file utilFile { contents := [2] } .nil) .nil)
  distinct := by simp [Listing.Distinct, Listing.names, mainFile, libFolder]

/-- A file system with that directory at one path and nothing else. -/
def ccFileSystem (path : String) : FileSystem where
  scandir p := if p = path then .ok ccDirectory else .error .fileNotFoundError
  pwd _ := none
  grp _ := none

theorem scandir_ccFileSystem (path : String) :
    (ccFileSystem path).scandir path = .ok ccDirectory := by
  simp [ccFileSystem]

theorem scandir_ccFileSystem_of_ne {p path : String} (h : p ≠ path) :
    (ccFileSystem path).scandir p = .error .fileNotFoundError := by
  simp [ccFileSystem, h]

/-- The place of the chaincode directory in the default `GOPATH`. -/
theorem gopathProject_cc : gopathProject none "cc" = "/opt/gopath/src/cc" := by decide +kernel

/-- The chaincode directory, found directly: its package holds it. -/
theorem holdsProject_iff_direct :
    ∃ pkg, packageChaincode wireArchiver (ccFileSystem "cc") none { path := some "cc" } 0 = .ok pkg ∧
      HoldsProject wireArchiver (ccFileSystem "cc") none { path := some "cc" } pkg := by
  obtain ⟨pkg, hpkg⟩ : ∃ pkg, packageChaincode wireArchiver (ccFileSystem "cc") none
      { path := some "cc" } 0 = .ok pkg := exists_ok_of_isSome (by decide +kernel)
  have hscandir := scandir_ccFileSystem "cc"
  have hmissing : (ccFileSystem "cc").scandir (gopathProject none "cc") =
      .error .fileNotFoundError :=
    scandir_ccFileSystem_of_ne (by rw [gopathProject_cc]; decide)
  refine ⟨pkg, hpkg, (holdsProject_iff wireArchiver_readsBack hpkg).mpr
    ⟨"cc", ccDirectory, ccDirectory.listing.files, rfl, ?_, ?_, ?_, .rfl, .inl (by decide)⟩⟩
  · rw [projectDirectory, hmissing, hscandir]
    rfl
  · rw [FileSystem.visited, hscandir]
    rfl
  · simp [ccDirectory, Listing.files, below, HardLinked]

/-- The chaincode directory, found in the `GOPATH`: it is the path itself that is walked, so the
package is empty. -/
theorem package_misses_gopath_project :
    ∃ pkg,
      packageChaincode wireArchiver (ccFileSystem "/opt/gopath/src/cc") none { path := some "cc" } 0 =
        .ok pkg ∧
      projectDirectory (ccFileSystem "/opt/gopath/src/cc") none "cc" = some ccDirectory ∧
      wireArchiver.read pkg = [] ∧
      ¬ HoldsProject wireArchiver (ccFileSystem "/opt/gopath/src/cc") none { path := some "cc" }
        pkg := by
  obtain ⟨pkg, hpkg⟩ : ∃ pkg, packageChaincode wireArchiver (ccFileSystem "/opt/gopath/src/cc") none
      { path := some "cc" } 0 = .ok pkg := exists_ok_of_isSome (by decide +kernel)
  have hread : (packageChaincode wireArchiver (ccFileSystem "/opt/gopath/src/cc") none
      { path := some "cc" } 0).toOption.map wireArchiver.read = some [] := by decide +kernel
  rw [hpkg] at hread
  have hempty : wireArchiver.read pkg = [] := Option.some.inj hread
  have hproject : projectDirectory (ccFileSystem "/opt/gopath/src/cc") none "cc" =
      some ccDirectory := by
    rw [projectDirectory, gopathProject_cc, scandir_ccFileSystem]
  refine ⟨pkg, hpkg, hproject, hempty, ?_⟩
  rintro ⟨path, project, hspec, hfound, hperm⟩
  cases hspec
  cases hproject.symm.trans hfound
  rw [hempty] at hperm
  exact List.cons_ne_nil _ _ hperm.nil_eq.symm

end Snakeskin
