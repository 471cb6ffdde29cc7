import Snakeskin.Library.FileTree
import Snakeskin.Models

/-! # Packaging chaincode

`package_chaincode` of `operations.py`, over a file system and the tar archive it writes. The calls
of the operating system are what a file system answers; the order of the directory entries and all
the metadata of a file are part of it. Of `tarfile` the file information and the record of hard
links are modelled; the bytes of headers and contents, compressed, are the business of an
archiver. -/

namespace Snakeskin

open FileTree Wire

/-! ## File systems -/

/-- The errors of the operating system. -/
inductive OSError where
  | fileNotFoundError
  | notADirectoryError
  | permissionError
  | osError (errno : Nat)
  deriving DecidableEq, Repr

/-- What `lstat` says of a file. -/
structure Stat where
  mode : Nat := 0o100644
  ino : Nat := 0
  dev : Nat := 0
  nlink : Nat := 1
  uid : Nat := 0
  gid : Nat := 0
  mtime : Nat := 0
  deriving DecidableEq, Repr

/-- The inode number and the device, which identify a file under all its names. -/
def Stat.inode (stat : Stat) : Nat × Nat := (stat.ino, stat.dev)

/-- A regular file, and the error of opening it, if it cannot be opened. -/
structure RegularFile where
  contents : Bytes
  stat : Stat := {}
  openError : Option OSError := none

/-- The kinds of files that are neither regular nor directories. -/
inductive OtherKind where
  | symbolicLink (target : String)
  | characterDevice (major minor : Nat)
  | blockDevice (major minor : Nat)
  | fifo
  deriving DecidableEq, Repr

/-- A file of another kind, and the error of opening it, which goes through a symbolic link. -/
structure OtherFile where
  kind : OtherKind
  stat : Stat := {}
  openError : Option OSError := none

/-- A directory entry that is neither a directory nor a link to one. -/
abbrev Entry := RegularFile ⊕ OtherFile

/-- A file system as a process sees it: what `scandir` finds at a path, and the names of users and
groups. -/
structure FileSystem where
  scandir : String → Except OSError (Directory RegularFile OtherFile)
  pwd : Nat → Option String
  grp : Nat → Option String

/-- `os.walk(top)`: a top that cannot be listed yields nothing. -/
def FileSystem.osWalk (fs : FileSystem) (top : String) : List (String × List (FileName × Entry)) :=
  match fs.scandir top with
  | .ok directory => directory.listing.walk top
  | .error _ => []

/-- `open(file_path)`: the error it raises, if any. -/
def openError : Entry → Option OSError
  | .inl file => file.openError
  | .inr other => other.openError

/-! ## Tar archives -/

/-- The types of archive members. -/
inductive TarType where
  | regtype
  | lnktype
  | symtype
  | chrtype
  | blktype
  | fifotype
  deriving DecidableEq, Repr

/-- The header of an archive member. -/
structure TarInfo where
  name : String
  mode : Nat
  uid : Nat
  gid : Nat
  size : Nat
  mtime : Nat
  type : TarType
  linkname : String
  uname : String
  gname : String
  devmajor : Nat := 0
  devminor : Nat := 0
  paxHeaders : List (String × String) := []
  deriving DecidableEq, Repr

/-- The archive names of the inodes that were added, the latest first. -/
abbrev Inodes := List ((Nat × Nat) × String)

/-- The archived name that a file is a hard link to: that of its inode, if the file has several
names and the inode was added under another one. -/
def hardLink (inodes : Inodes) (stat : Stat) (arcname : String) : Option String :=
  if 1 < stat.nlink then (inodes.lookup stat.inode).filter (arcname ≠ ·) else none

/-- The record of inodes after a file was added: an inode is recorded only if it is valid. -/
def recordInode (inodes : Inodes) (stat : Stat) (arcname : String) : Inodes :=
  if stat.ino ≠ 0 then (stat.inode, arcname) :: inodes else inodes

/-- The header that `gettarinfo` fills in from the metadata of a file. -/
def tarInfo (fs : FileSystem) (stat : Stat) (name : String) (type : TarType) (linkname : String)
    (size : Nat) : TarInfo where
  name := name
  mode := stat.mode
  uid := stat.uid
  gid := stat.gid
  size := size
  mtime := stat.mtime
  type := type
  linkname := linkname
  uname := (fs.pwd stat.uid).getD ""
  gname := (fs.grp stat.gid).getD ""

/-- `gettarinfo(file_path, arcname)`, with the record of inodes after it. -/
def gettarinfo (fs : FileSystem) (inodes : Inodes) (entry : Entry) (arcname : String) :
    TarInfo × Inodes :=
  let arcname := stripSlashes arcname
  match entry with
  | .inl file =>
      match hardLink inodes file.stat arcname with
      | some first => (tarInfo fs file.stat arcname .lnktype first 0, inodes)
      | none =>
          (tarInfo fs file.stat arcname .regtype "" file.contents.length,
            recordInode inodes file.stat arcname)
  | .inr other =>
      match other.kind with
      | .symbolicLink target => (tarInfo fs other.stat arcname .symtype target 0, inodes)
      | .characterDevice major minor =>
          ({ tarInfo fs other.stat arcname .chrtype "" 0 with
            devmajor := major, devminor := minor }, inodes)
      | .blockDevice major minor =>
          ({ tarInfo fs other.stat arcname .blktype "" 0 with
            devmajor := major, devminor := minor }, inodes)
      | .fifo => (tarInfo fs other.stat arcname .fifotype "" 0, inodes)

/-- Standardizes the tar metadata: owner, mode and times. -/
def standardize (tarinfo : TarInfo) : TarInfo :=
  { tarinfo with
    uid := 500, gid := 500, mode := 100644, mtime := 0
    paxHeaders := [("atime", "0"), ("ctime", "0")] }

/-- A member of an archive: its header, and as many bytes of the file as the header says. -/
structure Member where
  tarinfo : TarInfo
  data : Bytes
  deriving DecidableEq, Repr

/-- The bytes that `addfile` copies: files of other kinds have the size zero, so none of theirs. -/
def copied (entry : Entry) (size : Nat) : Bytes :=
  match entry with
  | .inl file => file.contents.take size
  | .inr _ => []

/-- A member as a reader of the archive sees it. -/
structure ArchiveEntry where
  name : String
  type : TarType
  linkname : String
  data : Bytes
  deriving DecidableEq, Repr

/-- What a reader sees of a member. -/
def Member.entry (m : Member) : ArchiveEntry where
  name := m.tarinfo.name
  type := m.tarinfo.type
  linkname := m.tarinfo.linkname
  data := m.data

/-- The writing and the reading of archives: the bytes that follow the time in a compressed stream,
and the members in such a stream. -/
structure Archiver where
  write : List Member → Bytes
  read : Bytes → List ArchiveEntry

/-- `struct.pack("<L", n)`. -/
def structPackL (n : UInt32) : Bytes :=
  [n.toUInt8, (n >>> 8).toUInt8, (n >>> 16).toUInt8, (n >>> 24).toUInt8]

/-- The compressed stream of an archive that is written at a time: the magic number, the method, the
flags, the time, and everything else. -/
def Archiver.stream (archiver : Archiver) (time : UInt32) (members : List Member) : Bytes :=
  [0x1f, 0x8b, 8, 8] ++ structPackL time ++ archiver.write members

/-- `seek(position)` and `write(bytes)` on a stream in memory. -/
def overwrite (stream : Bytes) (position : Nat) (bytes : Bytes) : Bytes :=
  stream.take position ++ bytes ++ stream.drop (position + bytes.length)

/-! ## Packaging -/

/-- The exceptions of `package_chaincode`. -/
inductive PackagingError where
  | valueError (msg : String)
  | osError (e : OSError)
  deriving DecidableEq, Repr

/-- The directory that is checked: that in the `GOPATH` if it is found there, else the path
itself. -/
def findProject (fs : FileSystem) (gopath : Option String) (path : String) :
    Except PackagingError String := do
  let goPath := gopath.getD "/opt/gopath"
  let projPath := join (join goPath "src") path
  let projPath ← match fs.scandir projPath with
    | .ok _ => pure projPath
    | .error .fileNotFoundError => pure path
    | .error e => throw (.osError e)
  match fs.scandir projPath with
    | .ok _ => pure projPath
    | .error .fileNotFoundError => throw (.valueError s!"No directory found at path {projPath}")
    | .error e => throw (.osError e)

/-- The loop over the files that a walk yields: each is opened, and added with its standardized
header under `src`. -/
def addFiles (fs : FileSystem) : Inodes → List (String × Entry) → Except PackagingError (List Member)
  | _, [] => .ok []
  | inodes, (filePath, entry) :: rest =>
      match openError entry with
      | some e => .error (.osError e)
      | none => do
          let (tarinfo, inodes) := gettarinfo fs inodes entry (join "src" filePath)
          let members ← addFiles fs inodes rest
          return ⟨standardize tarinfo, copied entry tarinfo.size⟩ :: members

/-- The members that are added to the archive of a chaincode. -/
def packageMembers (fs : FileSystem) (gopath : Option String) (spec : ChaincodeSpec) :
    Except PackagingError (List Member) :=
  if spec.language = .golang then
    match spec.path.filter (· ≠ "") with
    | none => .error (.valueError "Must specify path on chaincode spec")
    | some path => do
        let _projPath ← findProject fs gopath path
        -- It is the path itself that is walked, wherever the directory was found.
        addFiles fs []
          ((fs.osWalk path).flatMap fun dir => dir.2.map fun file => (join dir.1 file.1.name, file.2))
  else .error (.valueError "Currently only support install GOLANG chaincode")

/-- Packages chaincode into a tar.gz file at the given time, and overwrites the time with zero. -/
def packageChaincode (archiver : Archiver) (fs : FileSystem) (gopath : Option String)
    (spec : ChaincodeSpec) (time : UInt32) : Except PackagingError Bytes := do
  let members ← packageMembers fs gopath spec
  return overwrite (archiver.stream time members) 4 (structPackL 0)

end Snakeskin
