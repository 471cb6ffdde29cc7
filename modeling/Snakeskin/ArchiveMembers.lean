import Mathlib.Data.List.Pairwise
import Snakeskin.Errors
import Snakeskin.Packaging

/-! # What is added to an archive

Which files end up in the archive of a chaincode, under which names and as what: the loop of
`package_chaincode` in closed form, the names, and the files that are archived as hard links. -/

namespace Snakeskin

open FileTree Wire

/-! ## The checks -/

/-- Where the project of a chaincode would be in the `GOPATH`. -/
def gopathProject (gopath : Option String) (path : String) : String :=
  join (join (gopath.getD "/opt/gopath") "src") path

/-- **When a project is found**: in the `GOPATH`, or else, when there is no such file, at the path
itself. -/
theorem findProject_eq_ok {fs : FileSystem} {gopath : Option String} {path projPath : String} :
    findProject fs gopath path = .ok projPath ↔
      (∃ project, fs.scandir (gopathProject gopath path) = .ok project ∧
        projPath = gopathProject gopath path) ∨
      fs.scandir (gopathProject gopath path) = .error .fileNotFoundError ∧
        ∃ project, fs.scandir path = .ok project ∧ projPath = path := by
  unfold findProject
  dsimp only
  rw [show join (join (gopath.getD "/opt/gopath") "src") path = gopathProject gopath path from rfl]
  cases hjoined : fs.scandir (gopathProject gopath path) with
  | ok project =>
      dsimp only
      rw [pure_bind, hjoined]
      simp [pure, Except.pure, eq_comm]
  | error e =>
      cases e with
      | fileNotFoundError =>
          dsimp only
          rw [pure_bind]
          cases hpath : fs.scandir path with
          | ok project => simp [pure, Except.pure, eq_comm]
          | error e =>
              refine ⟨fun h => ?_, fun h => ?_⟩
              · cases e <;> cases h
              · simp at h
      | notADirectoryError | permissionError | osError errno =>
          refine ⟨fun h => (nomatch h), fun h => ?_⟩
          simp at h

/-! ## The loop -/

/-- What a walk from a path meets, by paths relative to it. -/
def FileSystem.visited (fs : FileSystem) (path : String) : List (List FileName × Entry) :=
  match fs.scandir path with
  | .ok directory => directory.listing.visited
  | .error _ => []

/-- The files that the loop goes through. -/
theorem flatMap_osWalk (fs : FileSystem) (path : String) :
    ((fs.osWalk path).flatMap fun dir => dir.2.map fun file => (join dir.1 file.1.name, file.2)) =
      (fs.visited path).map fun e => (under path e.1, e.2) := by
  unfold FileSystem.osWalk FileSystem.visited
  cases fs.scandir path with
  | error e => rfl
  | ok directory => exact Listing.flatMap_walk path directory.listing

/-- The members that the loop adds when every file can be opened. -/
def membersOf (fs : FileSystem) : Inodes → List (String × Entry) → List Member
  | _, [] => []
  | inodes, (filePath, entry) :: rest =>
      let added := gettarinfo fs inodes entry (join "src" filePath)
      ⟨standardize added.1, copied entry added.1.size⟩ :: membersOf fs added.2 rest

/-- **The loop returns exactly when every file can be opened**, and then with one member a file. -/
theorem addFiles_eq_ok {fs : FileSystem} {inodes : Inodes} {files : List (String × Entry)}
    {members : List Member} :
    addFiles fs inodes files = .ok members ↔
      (∀ e ∈ files, openError e.2 = none) ∧ members = membersOf fs inodes files := by
  induction files generalizing inodes members with
  | nil => simp [addFiles, membersOf, eq_comm]
  | cons file files ih =>
      obtain ⟨filePath, entry⟩ := file
      cases hopen : openError entry with
      | some e => simp [addFiles, hopen]
      | none =>
          -- The first file is added, so what remains is the loop over the others.
          rw [addFiles, hopen]
          constructor
          · intro h
            obtain ⟨rest, hrest, h⟩ := bind_eq_ok.mp h
            obtain ⟨hfiles, rfl⟩ := ih.mp hrest
            cases h
            exact ⟨List.forall_mem_cons.mpr ⟨hopen, hfiles⟩, rfl⟩
          · rintro ⟨hfiles, rfl⟩
            exact bind_eq_ok.mpr ⟨_, ih.mpr ⟨(List.forall_mem_cons.mp hfiles).2, rfl⟩, rfl⟩

/-- **When the members are determined**: for a Go chaincode with a path whose project is found and
whose walked files can all be opened. -/
theorem packageMembers_eq_ok {fs : FileSystem} {gopath : Option String} {spec : ChaincodeSpec}
    {members : List Member} :
    packageMembers fs gopath spec = .ok members ↔
      spec.language = .golang ∧ ∃ path, spec.path = some path ∧ path ≠ "" ∧
        (∃ projPath, findProject fs gopath path = .ok projPath) ∧
        (∀ e ∈ fs.visited path, openError e.2 = none) ∧
        members = membersOf fs [] ((fs.visited path).map fun e => (under path e.1, e.2)) := by
  unfold packageMembers
  split
  · rename_i hlanguage
    cases hpath : spec.path.filter (· ≠ "") with
    | none =>
        -- No path, or an empty one.
        refine ⟨fun h => (nomatch h), ?_⟩
        rintro ⟨-, path, hsome, hne, -⟩
        simp [hsome, hne] at hpath
    | some path =>
        obtain ⟨hsome, hne⟩ := Option.filter_eq_some_iff.mp hpath
        dsimp only
        constructor
        · intro h
          obtain ⟨projPath, hproject, h⟩ := bind_eq_ok.mp h
          rw [flatMap_osWalk, addFiles_eq_ok, List.forall_mem_map] at h
          exact ⟨hlanguage, path, hsome, by simpa using hne, ⟨projPath, hproject⟩, h⟩
        · rintro ⟨-, path', hsome', -, ⟨projPath, hproject⟩, h⟩
          obtain rfl : path = path' := Option.some.inj (hsome.symm.trans hsome')
          refine bind_eq_ok.mpr ⟨projPath, hproject, ?_⟩
          rw [flatMap_osWalk, addFiles_eq_ok, List.forall_mem_map]
          exact h
  · rename_i hlanguage
    exact ⟨fun h => (nomatch h), fun h => absurd h.1 hlanguage⟩

/-- The archive of members, with the time overwritten. -/
def Archiver.archive (archiver : Archiver) (members : List Member) : Bytes :=
  archiver.stream 0 members

/-- **The time of packaging is erased**: a package is the archive of its members, whenever it was
written. -/
theorem packageChaincode_eq_ok {archiver : Archiver} {fs : FileSystem} {gopath : Option String}
    {spec : ChaincodeSpec} {time : UInt32} {pkg : Bytes} :
    packageChaincode archiver fs gopath spec time = .ok pkg ↔
      ∃ members, packageMembers fs gopath spec = .ok members ∧ archiver.archive members = pkg := by
  have herased : ∀ members, overwrite (archiver.stream time members) 4 (structPackL 0) =
      archiver.archive members := fun members => rfl
  unfold packageChaincode
  rw [bind_eq_ok]
  simp only [herased, pure, Except.pure, Except.ok.injEq]

/-! ## Names -/

/-- The name under which an entry is archived, by its path relative to the top of the walk. -/
def arcname (path : String) (names : List FileName) : String :=
  stripSlashes (join "src" (under path names))

/-- What stands before the relative path in the name of an archived file: an absolute path takes the
place of `src`, and loses its slash. -/
def arcPrefix (path : String) : String :=
  if isAbsolute path = true then stripSlashes (asPrefix path) else "src/" ++ asPrefix path

/-- **The names of archived files** end in their relative paths. -/
theorem arcname_eq {path : String} (hpath : path ≠ "") {names : List FileName} (hnames : names ≠ []) :
    arcname path names = arcPrefix path ++ relative names := by
  have habsolute := isAbsolute_asPrefix_append hpath (relative names)
  rw [arcname, under_eq_join_relative path hnames, join_relative, join, habsolute, arcPrefix]
  split
  · exact stripSlashes_append _ (isAbsolute_relative names)
  · have hsrc : isAbsolute (asPrefix "src" ++ (asPrefix path ++ relative names)) = false := by
      rw [isAbsolute_asPrefix_append (by decide)]
      decide
    rw [stripSlashes_of_not_isAbsolute hsrc, show asPrefix "src" = "src/" by decide,
      String.append_assoc]

/-- Different entries are archived under different names. -/
theorem arcname_inj {path : String} (hpath : path ≠ "") {names names' : List FileName}
    (hnames : names ≠ []) (hnames' : names' ≠ []) (h : arcname path names = arcname path names') :
    names = names' := by
  rw [arcname_eq hpath hnames, arcname_eq hpath hnames'] at h
  exact relative_injective (String.append_right_inj _ |>.mp h)

/-! ## Hard links -/

/-- The archived names that files are hard links to, in the order in which they are added. -/
def hardLinks : Inodes → List (String × RegularFile) → List (Option String)
  | _, [] => []
  | inodes, (name, file) :: rest =>
      match hardLink inodes file.stat name with
      | some first => some first :: hardLinks inodes rest
      | none => none :: hardLinks (recordInode inodes file.stat name) rest

/-- The member for a regular file with its archive name, when it is a hard link and when it is
not. -/
def fileMember (fs : FileSystem) (file : String × RegularFile) : Option String → Member
  | some first => ⟨standardize (tarInfo fs file.2.stat file.1 .lnktype first 0), []⟩
  | none =>
      ⟨standardize (tarInfo fs file.2.stat file.1 .regtype "" file.2.contents.length), file.2.contents⟩

/-- There is one decision about hard links for each file. -/
@[simp] theorem length_hardLinks (inodes : Inodes) (files : List (String × RegularFile)) :
    (hardLinks inodes files).length = files.length := by
  induction files generalizing inodes with
  | nil => rfl
  | cons file files ih =>
      rw [hardLinks]
      split <;> simp [ih]

/-- **The members for regular files** are made of their names, their metadata and contents, and the
record of hard links. -/
theorem membersOf_files (fs : FileSystem) (inodes : Inodes) (path : String)
    (files : List (List FileName × RegularFile)) :
    membersOf fs inodes (files.map fun e => (under path e.1, .inl e.2)) =
      ((files.map fun e => (arcname path e.1, e.2)).zip
        (hardLinks inodes (files.map fun e => (arcname path e.1, e.2)))).map
          fun p => fileMember fs p.1 p.2 := by
  induction files generalizing inodes with
  | nil => rfl
  | cons file files ih =>
      simp only [List.map_cons, membersOf, hardLinks, gettarinfo]
      rw [show stripSlashes (join "src" (under path file.1)) = arcname path file.1 from rfl]
      cases hardLink inodes file.2.stat (arcname path file.1) with
      | some first =>
          dsimp only
          rw [ih, List.zip_cons_cons, List.map_cons]
          rfl
      | none =>
          dsimp only
          rw [ih, List.zip_cons_cons, List.map_cons]
          simp [fileMember, copied, tarInfo]

/-- The archived name that a member is a hard link to. -/
def Member.link (m : Member) : Option String :=
  if m.tarinfo.type = .lnktype then some m.tarinfo.linkname else none

@[simp] theorem link_fileMember (fs : FileSystem) (file : String × RegularFile)
    (link : Option String) : (fileMember fs file link).link = link := by
  cases link <;> rfl

@[simp] theorem name_fileMember (fs : FileSystem) (file : String × RegularFile)
    (link : Option String) : (fileMember fs file link).tarinfo.name = file.1 := by
  cases link <;> rfl

/-- The members say which files are hard links. -/
theorem map_link_membersOf (fs : FileSystem) (inodes : Inodes) (path : String)
    (files : List (List FileName × RegularFile)) :
    (membersOf fs inodes (files.map fun e => (under path e.1, .inl e.2))).map Member.link =
      hardLinks inodes (files.map fun e => (arcname path e.1, e.2)) := by
  rw [membersOf_files, List.map_map]
  simp only [Function.comp_def, link_fileMember]
  exact List.map_snd_zip (by simp)

/-- Without hard links there is one regular member for each file. -/
theorem membersOf_files_of_unlinked (fs : FileSystem) (inodes : Inodes) (path : String)
    {files : List (List FileName × RegularFile)}
    (h : ∀ link ∈ hardLinks inodes (files.map fun e => (arcname path e.1, e.2)), link = none) :
    membersOf fs inodes (files.map fun e => (under path e.1, .inl e.2)) =
      files.map fun e => fileMember fs (arcname path e.1, e.2) none := by
  rw [membersOf_files]
  calc ((files.map fun e => (arcname path e.1, e.2)).zip
        (hardLinks inodes (files.map fun e => (arcname path e.1, e.2)))).map
          (fun p => fileMember fs p.1 p.2)
      = (((files.map fun e => (arcname path e.1, e.2)).zip
          (hardLinks inodes (files.map fun e => (arcname path e.1, e.2)))).map Prod.fst).map
            (fun file => fileMember fs file none) := by
        rw [List.map_map]
        refine List.map_congr_left fun p hp => ?_
        rw [h p.2 (List.of_mem_zip hp).2]
        rfl
    _ = (files.map fun e => (arcname path e.1, e.2)).map (fun file => fileMember fs file none) := by
        rw [List.map_fst_zip (by simp)]
    _ = files.map fun e => fileMember fs (arcname path e.1, e.2) none := List.map_map

/-- The header has the archive name without slashes at its front. -/
theorem name_gettarinfo (fs : FileSystem) (inodes : Inodes) (entry : Entry) (name : String) :
    (gettarinfo fs inodes entry name).1.name = stripSlashes name := by
  unfold gettarinfo
  cases entry with
  | inl file =>
      dsimp only
      split <;> rfl
  | inr other =>
      dsimp only
      split <;> rfl

/-- A file of another kind has a type of its own. -/
theorem type_gettarinfo_other (fs : FileSystem) (inodes : Inodes) (other : OtherFile)
    (name : String) : (gettarinfo fs inodes (.inr other) name).1.type ≠ .regtype := by
  unfold gettarinfo
  dsimp only
  split <;> exact TarType.noConfusion

/-- The names of the members are those of what the loop goes through. -/
theorem arcname_of_mem_membersOf {fs : FileSystem} {inodes : Inodes} {path : String}
    {entries : List (List FileName × Entry)} {m : Member}
    (h : m ∈ membersOf fs inodes (entries.map fun e => (under path e.1, e.2))) :
    ∃ e ∈ entries, m.tarinfo.name = arcname path e.1 := by
  induction entries generalizing inodes with
  | nil => cases h
  | cons e entries ih =>
      obtain rfl | h := List.mem_cons.mp h
      · exact ⟨e, List.mem_cons_self, name_gettarinfo _ _ _ _⟩
      · obtain ⟨e', hmem, hname⟩ := ih h
        exact ⟨e', List.mem_cons_of_mem _ hmem, hname⟩

/-- **Only a regular file is archived as one.** -/
theorem exists_files_of_regtype {fs : FileSystem} {inodes : Inodes} {path : String}
    {entries : List (List FileName × Entry)}
    (h : ∀ m ∈ membersOf fs inodes (entries.map fun e => (under path e.1, e.2)),
      m.tarinfo.type = .regtype) :
    ∃ files : List (List FileName × RegularFile), entries = files.map fun e => (e.1, .inl e.2) := by
  induction entries generalizing inodes with
  | nil => exact ⟨[], rfl⟩
  | cons e entries ih =>
      obtain ⟨names, entry⟩ := e
      obtain ⟨hfirst, hrest⟩ := List.forall_mem_cons.mp h
      obtain ⟨files, rfl⟩ := ih hrest
      cases entry with
      | inl file => exact ⟨(names, file) :: files, rfl⟩
      | inr other => exact absurd hfirst (type_gettarinfo_other _ _ _ _)

/-- A file is a hard link of an earlier one: they are one inode, of which the file system counts
several names. -/
def HardLinked (first file : RegularFile) : Prop :=
  first.stat.ino ≠ 0 ∧ first.stat.inode = file.stat.inode ∧ 1 < file.stat.nlink

/-- With no entry of its own name recorded, a file is not a hard link exactly when it has one name
only or its inode was not recorded. -/
theorem hardLink_eq_none_iff {inodes : Inodes} {stat : Stat} {name : String}
    (h : ∀ e ∈ inodes, e.2 ≠ name) :
    hardLink inodes stat name = none ↔ (1 < stat.nlink → inodes.lookup stat.inode = none) := by
  unfold hardLink
  split
  · rename_i hnlink
    cases hlookup : inodes.lookup stat.inode with
    | none => simp
    | some first =>
        -- The inode was recorded, and under another name.
        obtain ⟨before, after, rfl, -⟩ := List.lookup_eq_some_iff.mp hlookup
        have hfirst : first ≠ name := h _ (List.mem_append_right _ List.mem_cons_self)
        simp [hnlink, hfirst.symm]
  · rename_i hnlink
    simp [hnlink]

/-- After a file was recorded, its inode is found if it is valid, and those recorded before. -/
theorem lookup_recordInode_eq_none_iff {inodes : Inodes} {stat : Stat} {name : String}
    {inode : Nat × Nat} :
    (recordInode inodes stat name).lookup inode = none ↔
      inodes.lookup inode = none ∧ ¬ (stat.ino ≠ 0 ∧ stat.inode = inode) := by
  unfold recordInode
  split
  · rename_i hvalid
    rw [List.lookup_cons]
    rcases eq_or_ne inode stat.inode with rfl | hne
    · simp [hvalid]
    · have hbeq : (inode == stat.inode) = false := beq_eq_false_iff_ne.mpr hne
      rw [hbeq]
      simp only [hne.symm, and_false, not_false_eq_true, and_true]
  · rename_i hinvalid
    simp [hinvalid]

/-- **No file is archived as a hard link exactly when no file is a hard link of an earlier one**, of
those recorded or among the files themselves. -/
theorem hardLinks_eq_none_iff {inodes : Inodes} {files : List (String × RegularFile)}
    (hnodup : (files.map Prod.fst).Nodup) (hnew : ∀ e ∈ inodes, e.2 ∉ files.map Prod.fst) :
    (∀ link ∈ hardLinks inodes files, link = none) ↔
      (∀ file ∈ files, 1 < file.2.stat.nlink → inodes.lookup file.2.stat.inode = none) ∧
      files.Pairwise fun first file => ¬ HardLinked first.2 file.2 := by
  induction files generalizing inodes with
  | nil => simp [hardLinks]
  | cons file files ih =>
      obtain ⟨name, file⟩ := file
      obtain ⟨hname, hnodup⟩ := List.nodup_cons.mp hnodup
      have hhead : hardLink inodes file.stat name = none ↔
          (1 < file.stat.nlink → inodes.lookup file.stat.inode = none) :=
        hardLink_eq_none_iff fun e he hname => hnew e he (hname ▸ List.mem_cons_self)
      rw [List.forall_mem_cons, List.pairwise_cons]
      cases hlink : hardLink inodes file.stat name with
      | some first =>
          -- The file is a link to one recorded, which is what the right side denies.
          rw [hlink] at hhead
          simp only [hardLinks, hlink, List.forall_mem_cons]
          exact ⟨fun h => (nomatch h.1), fun h => absurd (hhead.mpr h.1.1) (by simp)⟩
      | none =>
          have hone := hhead.mp hlink
          have hnew' : ∀ e ∈ recordInode inodes file.stat name, e.2 ∉ files.map Prod.fst := by
            intro e he
            unfold recordInode at he
            split at he
            · obtain rfl | he := List.mem_cons.mp he
              · exact hname
              · exact fun hmem => hnew e he (List.mem_cons_of_mem _ hmem)
            · exact fun hmem => hnew e he (List.mem_cons_of_mem _ hmem)
          simp only [hardLinks, hlink, List.forall_mem_cons, true_and]
          rw [ih hnodup hnew']
          -- What is recorded afterwards are the earlier inodes and that of this file.
          constructor
          · rintro ⟨hrecorded, hpairwise⟩
            refine ⟨⟨hone, fun e he hnlink => ?_⟩, fun e he hlinked => ?_, hpairwise⟩
            · exact (lookup_recordInode_eq_none_iff.mp (hrecorded e he hnlink)).1
            · exact (lookup_recordInode_eq_none_iff.mp (hrecorded e he hlinked.2.2)).2
                ⟨hlinked.1, hlinked.2.1⟩
          · rintro ⟨⟨-, hrecorded⟩, hlinked, hpairwise⟩
            refine ⟨fun e he hnlink => lookup_recordInode_eq_none_iff.mpr
              ⟨hrecorded e he hnlink, fun hinode => hlinked e he ?_⟩, hpairwise⟩
            exact ⟨hinode.1, hinode.2, hnlink⟩

/-! ## Reading back -/

/-- The archiver reads back the members that it wrote. A reader takes a name that ends in a slash
for that of a directory, so this is said of other names. -/
def Archiver.ReadsBack (archiver : Archiver) : Prop :=
  ∀ members : List Member,
    (∀ m ∈ members, m.tarinfo.name ≠ "" ∧ endsInSlash m.tarinfo.name = false) →
    archiver.read (archiver.archive members) = members.map Member.entry

/-- The number of a member type in an archive over the wire format. -/
def TarType.number : TarType → Nat
  | .regtype => 0
  | .lnktype => 1
  | .symtype => 2
  | .chrtype => 3
  | .blktype => 4
  | .fifotype => 6

/-- The member type with a number. -/
def TarType.ofNumber : Nat → TarType
  | 0 => .regtype
  | 1 => .lnktype
  | 2 => .symtype
  | 3 => .chrtype
  | 4 => .blktype
  | _ => .fifotype

@[simp] theorem TarType.ofNumber_number (t : TarType) : ofNumber t.number = t := by
  cases t <;> rfl

/-- A member over the wire format: what stands in its header, and its data. -/
def Member.toFields (m : Member) : List Field :=
  [⟨1, .len (encodeString m.tarinfo.name)⟩, ⟨2, .varint m.tarinfo.type.number⟩,
    ⟨3, .len (encodeString m.tarinfo.linkname)⟩, ⟨4, .len (encodeString m.tarinfo.uname)⟩,
    ⟨5, .len (encodeString m.tarinfo.gname)⟩, ⟨6, .len m.data⟩]

/-- The entry in the fields of a member. -/
def ArchiveEntry.ofFields : List Field → Option ArchiveEntry
  | [⟨1, .len name⟩, ⟨2, .varint type⟩, ⟨3, .len linkname⟩, _, _, ⟨6, .len data⟩] => do
      let name ← decodeString name
      let linkname ← decodeString linkname
      return { name, type := .ofNumber type, linkname, data }
  | _ => none

/-- The entries after the eight bytes of a stream header. -/
def readEntries (stream : Bytes) : Option (List ArchiveEntry) := do
  let members ← decodeFields (stream.drop 8)
  (allLen 1 members).mapM fun m => (decodeFields m).bind ArchiveEntry.ofFields

/-- The archiver that writes members over the wire format. -/
def wireArchiver : Archiver where
  write members := encodeFields (repeatedField 1 (members.map fun m => encodeFields m.toFields))
  read stream := (readEntries stream).getD []

/-- A member over the wire format is read as its entry. -/
theorem ofFields_toFields (m : Member) : ArchiveEntry.ofFields m.toFields = some m.entry := by
  simp [ArchiveEntry.ofFields, Member.toFields, Member.entry]

/-- Members over the wire format are read one by one. -/
theorem mapM_ofFields (members : List Member) :
    (members.map fun m => encodeFields m.toFields).mapM
      (fun m => (decodeFields m).bind ArchiveEntry.ofFields) = some (members.map Member.entry) := by
  induction members with
  | nil => rfl
  | cons m members ih =>
      rw [List.map_cons, List.mapM_cons, ih, decodeFields_encodeFields, Option.bind_some,
        ofFields_toFields]
      rfl

/-- The archiver over the wire format reads back what it wrote. -/
theorem wireArchiver_readsBack : wireArchiver.ReadsBack := by
  intro members _
  have hstream : (wireArchiver.archive members).drop 8 = wireArchiver.write members := rfl
  have hread : readEntries (wireArchiver.archive members) = some (members.map Member.entry) := by
    rw [readEntries, hstream, wireArchiver, decodeFields_encodeFields]
    show (allLen 1 (repeatedField 1 _)).mapM _ = _
    rw [allLen_repeatedField_self, mapM_ofFields]
  show (readEntries (wireArchiver.archive members)).getD [] = _
  rw [hread, Option.getD_some]

end Snakeskin
