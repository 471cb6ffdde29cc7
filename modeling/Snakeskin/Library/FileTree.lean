import Mathlib.Data.List.Nodup
import Mathlib.Data.List.Perm.Basic
import Mathlib.Data.String.Basic
import Snakeskin.Library.Lists

/-! # Paths and directory trees

POSIX paths as strings, and the tree of entries below a directory, in the order in which the file
system lists them. The traversal of a tree is that of a library walking it from the top: the entries
of a directory that are not directories come first, then its directories one by one; a directory
that cannot be read yields nothing, and a link to a directory is not followed.

* `join`, `under` — joining one name, or one after another, to a path; `under_eq_join_relative`.
* `relative` — the path of an entry relative to the top; `relative_injective`.
* `Listing` — the entries of a directory, with `Listing.files` and `Listing.walk`.
* `Listing.visited` — the walk, relative to its top; `flatMap_walk`.
* `Directory` — a listing without double names, so that a walk meets no path twice;
  `Listing.visited_nodup`, `Listing.files_nodup`. -/

namespace FileTree

/-! ## Paths -/

/-- The path starts at the root. -/
def isAbsolute (path : String) : Bool := path.toList.head? == some '/'

/-- The path ends in a slash. -/
def endsInSlash (path : String) : Bool := path.toList.getLast? == some '/'

/-- What a relative path is appended to: the path, with a slash unless it is empty or ends in
one. -/
def asPrefix (path : String) : String :=
  if path = "" ∨ endsInSlash path = true then path else path ++ "/"

/-- `join(path, other)`: an absolute path replaces what stands before it. -/
def join (path other : String) : String :=
  if isAbsolute other = true then other else asPrefix path ++ other

/-- The path without the slashes at its front. -/
def stripSlashes (path : String) : String := String.ofList (path.toList.dropWhile (· == '/'))

/-- A name of an entry of a directory: not empty, and without a slash. -/
@[ext] structure FileName where
  name : String
  name_ne_empty : name ≠ ""
  slash_notMem : '/' ∉ name.toList
  deriving DecidableEq

/-- The path of an entry relative to a directory above it, by the names on the way down. -/
def relative : List FileName → String
  | [] => ""
  | [n] => n.name
  | n :: m :: names => n.name ++ "/" ++ relative (m :: names)

/-- The path of an entry below a directory, by joining one name after another. -/
def under (top : String) (names : List FileName) : String :=
  names.foldl (fun path n => join path n.name) top

@[simp] theorem under_nil (top : String) : under top [] = top := rfl

@[simp] theorem under_cons (top : String) (n : FileName) (names : List FileName) :
    under top (n :: names) = under (join top n.name) names := rfl

/-- A name is not an absolute path. -/
@[simp] theorem isAbsolute_name (n : FileName) : isAbsolute n.name = false := by
  have hslash := n.slash_notMem
  unfold isAbsolute
  cases h : n.name.toList with
  | nil => rfl
  | cons c cs =>
      rw [h] at hslash
      have hc : c ≠ '/' := fun hc => hslash (hc ▸ List.mem_cons_self)
      simpa using hc

/-- A name does not end in a slash. -/
theorem endsInSlash_name (n : FileName) : endsInSlash n.name = false := by
  have hslash := n.slash_notMem
  unfold endsInSlash
  rw [beq_eq_false_iff_ne]
  exact fun hlast => hslash (List.mem_of_getLast? hlast)

/-- A name has a character. -/
theorem toList_name_ne_nil (n : FileName) : n.name.toList ≠ [] := by
  have hname := n.name_ne_empty
  simpa using hname

/-- The first characters of a relative path are those of its first name. -/
theorem toList_relative_cons (n : FileName) (names : List FileName) :
    ∃ rest, (relative (n :: names)).toList = n.name.toList ++ rest := by
  cases names with
  | nil => exact ⟨[], by simp [relative]⟩
  | cons m names => exact ⟨'/' :: (relative (m :: names)).toList, by simp [relative]⟩

/-- A relative path is not absolute. -/
@[simp] theorem isAbsolute_relative (names : List FileName) : isAbsolute (relative names) = false := by
  cases names with
  | nil => rfl
  | cons n names =>
      obtain ⟨rest, hrest⟩ := toList_relative_cons n names
      have hn := isAbsolute_name n
      unfold isAbsolute at hn ⊢
      rw [hrest, List.head?_append_of_ne_nil _ (toList_name_ne_nil n)]
      exact hn

/-- A path that ends in a relative path does not end in a slash. -/
theorem endsInSlash_append_relative (path : String) {names : List FileName} (h : names ≠ []) :
    endsInSlash (path ++ relative names) = false := by
  induction names generalizing path with
  | nil => exact absurd rfl h
  | cons n names ih =>
      cases names with
      | nil =>
          have hn := endsInSlash_name n
          unfold endsInSlash at hn ⊢
          rw [String.toList_append, relative,
            List.getLast?_append_of_ne_nil _ (toList_name_ne_nil n)]
          exact hn
      | cons m names =>
          rw [relative, ← String.append_assoc]
          exact ih _ (List.cons_ne_nil _ _)

/-- Joining a relative path appends it. -/
theorem join_relative (top : String) (names : List FileName) :
    join top (relative names) = asPrefix top ++ relative names := by
  rw [join, if_neg (by simp)]

/-- Joining a name appends it. -/
theorem join_name (top : String) (n : FileName) : join top n.name = asPrefix top ++ n.name := by
  rw [join, if_neg (by simp)]

/-- What follows a joined name is separated from it by a slash. -/
theorem asPrefix_join_name (top : String) (n : FileName) :
    asPrefix (join top n.name) = asPrefix top ++ n.name ++ "/" := by
  have hlast : endsInSlash (asPrefix top ++ n.name) = false := by
    have hn := endsInSlash_name n
    unfold endsInSlash at hn ⊢
    rw [String.toList_append, List.getLast?_append_of_ne_nil _ (toList_name_ne_nil n)]
    exact hn
  have hne : asPrefix top ++ n.name ≠ "" := by
    intro h
    have hlist := congrArg String.toList h
    simp at hlist
    exact n.name_ne_empty hlist.2
  rw [join_name, asPrefix, if_neg (by simp [hlast, hne])]

/-- **Joining one name after another joins the relative path** that they make up. -/
theorem under_eq_join_relative (top : String) {names : List FileName} (h : names ≠ []) :
    under top names = join top (relative names) := by
  induction names generalizing top with
  | nil => exact absurd rfl h
  | cons n names ih =>
      cases names with
      | nil => rfl
      | cons m names =>
          rw [under_cons, ih _ (by simp), join_relative, join_relative, asPrefix_join_name, relative]
          simp only [String.append_assoc]

/-- The relative path of names that are there is not empty. -/
theorem relative_cons_ne_empty (n : FileName) (names : List FileName) :
    relative (n :: names) ≠ "" := by
  obtain ⟨rest, hrest⟩ := toList_relative_cons n names
  intro h
  have hname := toList_name_ne_nil n
  rw [h] at hrest
  simp_all

/-- **A relative path determines the names on the way**, since a name has no slash. -/
theorem relative_injective : Function.Injective relative := by
  intro names names' h
  induction names generalizing names' with
  | nil =>
      cases names' with
      | nil => rfl
      | cons m names' => exact absurd h.symm (relative_cons_ne_empty m names')
  | cons n names ih =>
      obtain - | ⟨m, names'⟩ := names'
      · exact absurd h (relative_cons_ne_empty n names)
      -- The first slash, if there is one, ends the first name on both sides.
      have hlist := congrArg String.toList h
      obtain - | ⟨n₂, names⟩ := names <;> obtain - | ⟨m₂, names'⟩ := names'
      · exact congrArg (fun x => [x]) (FileName.ext h)
      · refine absurd ?_ n.slash_notMem
        simp only [relative] at hlist
        rw [hlist]
        simp
      · refine absurd ?_ m.slash_notMem
        simp only [relative] at hlist
        rw [← hlist]
        simp
      · simp only [relative, String.toList_append, List.append_assoc] at hlist
        obtain ⟨hname, hrest⟩ :=
          List.append_cons_inj_of_notMem_left n.slash_notMem m.slash_notMem hlist
        rw [FileName.ext (String.toList_injective hname), ih (String.toList_injective hrest)]

/-- Appending to a path that is not empty leaves its start. -/
theorem isAbsolute_asPrefix_append {path : String} (h : path ≠ "") (s : String) :
    isAbsolute (asPrefix path ++ s) = isAbsolute path := by
  have hne : path.toList ≠ [] := by simpa using h
  unfold isAbsolute asPrefix
  split <;> simp [List.head?_append_of_ne_nil _ hne]

/-- A relative path after the one from which the slashes are stripped is left as it is. -/
theorem stripSlashes_append (path : String) {s : String} (h : isAbsolute s = false) :
    stripSlashes (path ++ s) = stripSlashes path ++ s := by
  have hs : s.toList.dropWhile (· == '/') = s.toList := by
    unfold isAbsolute at h
    cases hlist : s.toList with
    | nil => rfl
    | cons c cs =>
        rw [hlist] at h
        rw [List.dropWhile_cons_of_neg (by simpa using h)]
  apply String.toList_injective
  unfold stripSlashes
  simp only [String.toList_append, String.toList_ofList, List.dropWhile_append, hs]
  split
  · rename_i hempty
    simp [List.isEmpty_iff.mp hempty]
  · rfl

/-- Stripping slashes makes no path longer. -/
theorem length_stripSlashes_le (path : String) : (stripSlashes path).length ≤ path.length := by
  have hsuffix : path.toList.dropWhile (· == '/') <:+ path.toList := List.dropWhile_suffix _
  simpa [stripSlashes, ← String.length_toList] using hsuffix.length_le

/-- A path that does not start at the root has no slashes to strip. -/
theorem stripSlashes_of_not_isAbsolute {path : String} (h : isAbsolute path = false) :
    stripSlashes path = path := by
  have hstrip := stripSlashes_append "" h
  rw [String.empty_append] at hstrip
  exact hstrip

/-! ## Listings -/

/-- The entries of a directory in the order in which they are listed: regular files, directories
with their own entries, links to directories, and whatever else there is. -/
inductive Listing (φ ψ : Type) where
  | nil
  | file (name : FileName) (f : φ) (rest : Listing φ ψ)
  | other (name : FileName) (o : ψ) (rest : Listing φ ψ)
  | directoryLink (name : FileName) (rest : Listing φ ψ)
  | directory (name : FileName) (readable : Bool) (entries rest : Listing φ ψ)

/-- A path and what is found there, seen from the directory above. -/
def below {α : Type} (n : FileName) (e : List FileName × α) : List FileName × α := (n :: e.1, e.2)

namespace Listing

variable {φ ψ : Type}

/-- The names of the entries. -/
def names : Listing φ ψ → List FileName
  | nil => []
  | file n _ rest | other n _ rest | directoryLink n rest | directory n _ _ rest => n :: rest.names

/-- No directory has two entries of one name. -/
def Distinct : Listing φ ψ → Prop
  | nil => True
  | file n _ rest | other n _ rest | directoryLink n rest => n ∉ rest.names ∧ rest.Distinct
  | directory n _ entries rest => n ∉ rest.names ∧ entries.Distinct ∧ rest.Distinct

/-- There are only regular files and directories. -/
def RegularOnly : Listing φ ψ → Prop
  | nil => True
  | file _ _ rest => rest.RegularOnly
  | other _ _ _ | directoryLink _ _ => False
  | directory _ _ entries rest => entries.RegularOnly ∧ rest.RegularOnly

/-- The regular files at any depth, with their relative paths. -/
def files : Listing φ ψ → List (List FileName × φ)
  | nil => []
  | file n f rest => ([n], f) :: rest.files
  | other _ _ rest | directoryLink _ rest => rest.files
  | directory n _ entries rest => entries.files.map (below n) ++ rest.files

/-- The entries that are neither directories nor links to directories. -/
def nonDirectories : Listing φ ψ → List (FileName × (φ ⊕ ψ))
  | nil => []
  | file n f rest => (n, .inl f) :: rest.nonDirectories
  | other n o rest => (n, .inr o) :: rest.nonDirectories
  | directoryLink _ rest | directory _ _ _ rest => rest.nonDirectories

/-- The walk through the directories of a listing: each that can be read, with its entries that are
not directories, before the directories in it. -/
def walkBelow (top : String) : Listing φ ψ → List (String × List (FileName × (φ ⊕ ψ)))
  | nil => []
  | file _ _ rest | other _ _ rest | directoryLink _ rest => rest.walkBelow top
  | directory n readable entries rest =>
      (if readable then
        (join top n.name, entries.nonDirectories) :: entries.walkBelow (join top n.name)
      else []) ++ rest.walkBelow top

/-- The walk of a directory from the top down. -/
def walk (top : String) (l : Listing φ ψ) : List (String × List (FileName × (φ ⊕ ψ))) :=
  (top, l.nonDirectories) :: l.walkBelow top

/-- What a walk meets in the directories of a listing, by relative paths. -/
def visitedBelow : Listing φ ψ → List (List FileName × (φ ⊕ ψ))
  | nil => []
  | file _ _ rest | other _ _ rest | directoryLink _ rest => rest.visitedBelow
  | directory n readable entries rest =>
      (if readable then
        ((entries.nonDirectories.map fun e => ([e.1], e.2)) ++ entries.visitedBelow).map (below n)
      else []) ++ rest.visitedBelow

/-- What a walk meets that is not a directory, by relative paths. -/
def visited (l : Listing φ ψ) : List (List FileName × (φ ⊕ ψ)) :=
  (l.nonDirectories.map fun e => ([e.1], e.2)) ++ l.visitedBelow

/-- The regular files that a walk meets. -/
def visitedFiles (l : Listing φ ψ) : List (List FileName × φ) :=
  l.visited.filterMap fun e => e.2.getLeft?.map fun f => (e.1, f)

/-- A readable directory contributes what a walk of it meets. -/
theorem visitedBelow_directory_true (n : FileName) (entries rest : Listing φ ψ) :
    (directory n true entries rest).visitedBelow =
      entries.visited.map (below n) ++ rest.visitedBelow := rfl

/-- The walk below a path meets the entries under that path. -/
theorem flatMap_walkBelow (top : String) (l : Listing φ ψ) :
    ((l.walkBelow top).flatMap fun d => d.2.map fun e => (join d.1 e.1.name, e.2)) =
      l.visitedBelow.map fun e => (under top e.1, e.2) := by
  induction l generalizing top with
  | nil => rfl
  | file n f rest ih => exact ih top
  | other n o rest ih => exact ih top
  | directoryLink n rest ih => exact ih top
  | directory n readable entries rest ihEntries ih =>
      rw [walkBelow, visitedBelow, List.flatMap_append, List.map_append, ih]
      congr 1
      cases readable with
      | false => rfl
      | true =>
          simp only [if_true, List.flatMap_cons, ihEntries, List.map_append, List.map_map]
          rfl

/-- **The paths of a walk** are the relative paths of what it meets, under its top. -/
theorem flatMap_walk (top : String) (l : Listing φ ψ) :
    ((l.walk top).flatMap fun d => d.2.map fun e => (join d.1 e.1.name, e.2)) =
      l.visited.map fun e => (under top e.1, e.2) := by
  rw [walk, visited, List.flatMap_cons, flatMap_walkBelow, List.map_append, List.map_map]
  rfl

/-- What a walk meets below the directories of a listing has a path. -/
theorem path_ne_nil_of_mem_visitedBelow {l : Listing φ ψ} {e : List FileName × (φ ⊕ ψ)}
    (h : e ∈ l.visitedBelow) : e.1 ≠ [] := by
  induction l with
  | nil => cases h
  | file n f rest ih | other n o rest ih | directoryLink n rest ih => exact ih h
  | directory n readable entries rest ihEntries ih =>
      obtain h | h := List.mem_append.mp h
      · -- In a directory, so its name comes first.
        cases readable with
        | false => cases h
        | true =>
            obtain ⟨d, -, rfl⟩ := List.mem_map.mp h
            exact List.cons_ne_nil _ _
      · exact ih h

/-- What a walk meets has a path. -/
theorem path_ne_nil_of_mem_visited {l : Listing φ ψ} {e : List FileName × (φ ⊕ ψ)}
    (h : e ∈ l.visited) : e.1 ≠ [] := by
  obtain h | h := List.mem_append.mp h
  · obtain ⟨d, -, rfl⟩ := List.mem_map.mp h
    exact List.cons_ne_nil _ _
  · exact path_ne_nil_of_mem_visitedBelow h

/-- Below the directories of a listing, a path starts with one of its names and goes on. -/
theorem mem_visitedBelow {l : Listing φ ψ} {e : List FileName × (φ ⊕ ψ)} (h : e ∈ l.visitedBelow) :
    ∃ n ∈ l.names, ∃ names, names ≠ [] ∧ e.1 = n :: names := by
  induction l with
  | nil => cases h
  | file n f rest ih | other n o rest ih | directoryLink n rest ih =>
      obtain ⟨m, hm, hrest⟩ := ih h
      exact ⟨m, List.mem_cons_of_mem _ hm, hrest⟩
  | directory n readable entries rest ihEntries ih =>
      obtain h | h := List.mem_append.mp h
      · cases readable with
        | false => cases h
        | true =>
            obtain ⟨d, hd, rfl⟩ := List.mem_map.mp h
            exact ⟨n, List.mem_cons_self, d.1, path_ne_nil_of_mem_visited hd, rfl⟩
      · obtain ⟨m, hm, hrest⟩ := ih h
        exact ⟨m, List.mem_cons_of_mem _ hm, hrest⟩

/-- The names of the entries that are not directories are among the names of the entries. -/
theorem mem_names_of_mem_nonDirectories {l : Listing φ ψ} {e : FileName × (φ ⊕ ψ)}
    (h : e ∈ l.nonDirectories) : e.1 ∈ l.names := by
  induction l with
  | nil => cases h
  | file n f rest ih | other n o rest ih =>
      obtain rfl | h := List.mem_cons.mp h
      · exact List.mem_cons_self
      · exact List.mem_cons_of_mem _ (ih h)
  | directoryLink n rest ih | directory n readable entries rest ihEntries ih =>
      exact List.mem_cons_of_mem _ (ih h)

/-- A path of a regular file starts with one of the names. -/
theorem mem_files {l : Listing φ ψ} {e : List FileName × φ} (h : e ∈ l.files) :
    ∃ n ∈ l.names, ∃ names, e.1 = n :: names := by
  induction l with
  | nil => cases h
  | file n f rest ih =>
      obtain rfl | h := List.mem_cons.mp h
      · exact ⟨n, List.mem_cons_self, [], rfl⟩
      · obtain ⟨m, hm, hrest⟩ := ih h
        exact ⟨m, List.mem_cons_of_mem _ hm, hrest⟩
  | other n o rest ih | directoryLink n rest ih =>
      obtain ⟨m, hm, hrest⟩ := ih h
      exact ⟨m, List.mem_cons_of_mem _ hm, hrest⟩
  | directory n readable entries rest ihEntries ih =>
      obtain h | h := List.mem_append.mp h
      · obtain ⟨d, -, rfl⟩ := List.mem_map.mp h
        exact ⟨n, List.mem_cons_self, d.1, rfl⟩
      · obtain ⟨m, hm, hrest⟩ := ih h
        exact ⟨m, List.mem_cons_of_mem _ hm, hrest⟩

/-- Paths below a directory and paths that start with other names are all different when each of the
two are. -/
theorem nodup_below_append {α : Type} {n : FileName} {names : List FileName} (hn : n ∉ names)
    {es rest : List (List FileName × α)} (hes : (es.map Prod.fst).Nodup)
    (hrest : (rest.map Prod.fst).Nodup)
    (hheads : ∀ e ∈ rest, ∃ m ∈ names, ∃ path, e.1 = m :: path) :
    ((es.map (below n) ++ rest).map Prod.fst).Nodup := by
  have hbelow := hes.map (List.cons_injective (a := n))
  rw [List.map_map] at hbelow
  rw [List.map_append, List.map_map]
  refine List.Nodup.append hbelow hrest fun path hhere hthere => ?_
  -- The paths in the directory start with its name, those of the rest do not.
  obtain ⟨e, -, rfl⟩ := List.mem_map.mp hhere
  obtain ⟨e', he', hpath⟩ := List.mem_map.mp hthere
  obtain ⟨m, hm, path, hstart⟩ := hheads e' he'
  rw [hstart] at hpath
  exact hn ((List.cons.inj hpath).1 ▸ hm)

/-- The entries that are not directories have different names. -/
theorem nonDirectories_nodup {l : Listing φ ψ} (h : l.Distinct) :
    (l.nonDirectories.map Prod.fst).Nodup := by
  induction l with
  | nil => exact List.nodup_nil
  | file n f rest ih | other n o rest ih =>
      refine List.nodup_cons.mpr ⟨fun hmem => h.1 ?_, ih h.2⟩
      obtain ⟨e, he, rfl⟩ := List.mem_map.mp hmem
      exact mem_names_of_mem_nonDirectories he
  | directoryLink n rest ih => exact ih h.2
  | directory n readable entries rest ihEntries ih => exact ih h.2.2

/-- If no path occurs twice below the directories of a listing, none occurs twice in the whole
walk. -/
theorem visited_nodup_of_below {l : Listing φ ψ} (h : l.Distinct)
    (hbelow : (l.visitedBelow.map Prod.fst).Nodup) : (l.visited.map Prod.fst).Nodup := by
  have hentries := (nonDirectories_nodup h).map (List.singleton_injective (α := FileName))
  rw [List.map_map] at hentries
  rw [visited, List.map_append, List.map_map]
  refine List.Nodup.append hentries hbelow fun names hentry hdeep => ?_
  -- A path among the entries has one name, a path below a directory has more.
  obtain ⟨e, -, rfl⟩ := List.mem_map.mp hentry
  obtain ⟨d, hd, hpath⟩ := List.mem_map.mp hdeep
  obtain ⟨n, -, names, hne, hnames⟩ := mem_visitedBelow hd
  rw [hnames] at hpath
  exact hne (List.cons.inj hpath).2

/-- No path occurs twice below the directories of a listing without double names. -/
theorem visitedBelow_nodup {l : Listing φ ψ} (h : l.Distinct) :
    (l.visitedBelow.map Prod.fst).Nodup := by
  induction l with
  | nil => exact List.nodup_nil
  | file n f rest ih | other n o rest ih | directoryLink n rest ih => exact ih h.2
  | directory n readable entries rest ihEntries ih =>
      obtain ⟨hname, hentries, hrest⟩ := h
      cases readable with
      | false => exact ih hrest
      | true =>
          rw [visitedBelow_directory_true]
          refine nodup_below_append hname
            (visited_nodup_of_below hentries (ihEntries hentries)) (ih hrest) fun e he => ?_
          obtain ⟨m, hm, names, -, hpath⟩ := mem_visitedBelow he
          exact ⟨m, hm, names, hpath⟩

/-- **A walk meets no path twice** when no directory has two entries of one name. -/
theorem visited_nodup {l : Listing φ ψ} (h : l.Distinct) : (l.visited.map Prod.fst).Nodup :=
  visited_nodup_of_below h (visitedBelow_nodup h)

/-- No two regular files have one path. -/
theorem files_nodup {l : Listing φ ψ} (h : l.Distinct) : (l.files.map Prod.fst).Nodup := by
  induction l with
  | nil => exact List.nodup_nil
  | file n f rest ih =>
      have hone : (([([], f)] : List (List FileName × φ)).map Prod.fst).Nodup :=
        List.nodup_singleton _
      exact nodup_below_append h.1 hone (ih h.2) fun e he => mem_files he
  | other n o rest ih | directoryLink n rest ih => exact ih h.2
  | directory n readable entries rest ihEntries ih =>
      obtain ⟨hname, hentries, hrest⟩ := h
      exact nodup_below_append hname (ihEntries hentries) (ih hrest) fun e he => mem_files he

/-- A regular file among the entries is one of the files. -/
theorem mem_files_of_mem_nonDirectories {l : Listing φ ψ} {n : FileName} {f : φ}
    (h : (n, .inl f) ∈ l.nonDirectories) : ([n], f) ∈ l.files := by
  induction l with
  | nil => cases h
  | file m g rest ih =>
      obtain heq | h := List.mem_cons.mp h
      · cases heq
        exact List.mem_cons_self
      · exact List.mem_cons_of_mem _ (ih h)
  | other m o rest ih =>
      obtain heq | h := List.mem_cons.mp h
      · cases heq
      · exact ih h
  | directoryLink m rest ih => exact ih h
  | directory m readable entries rest ihEntries ih => exact List.mem_append_right _ (ih h)

/-- If the regular files that a walk meets below the directories of a listing are among its files,
all that it meets are. -/
theorem mem_files_of_below {l : Listing φ ψ} {names : List FileName} {f : φ}
    (hbelow : (names, .inl f) ∈ l.visitedBelow → (names, f) ∈ l.files)
    (h : (names, .inl f) ∈ l.visited) : (names, f) ∈ l.files := by
  obtain h | h := List.mem_append.mp h
  · obtain ⟨⟨n, r⟩, hentry, heq⟩ := List.mem_map.mp h
    obtain ⟨rfl, rfl⟩ := Prod.mk.inj heq
    exact mem_files_of_mem_nonDirectories hentry
  · exact hbelow h

/-- A regular file met below the directories of a listing is one of its files. -/
theorem mem_files_of_mem_visitedBelow {l : Listing φ ψ} {names : List FileName} {f : φ}
    (h : (names, .inl f) ∈ l.visitedBelow) : (names, f) ∈ l.files := by
  induction l generalizing names with
  | nil => cases h
  | file n g rest ih => exact List.mem_cons_of_mem _ (ih h)
  | other n o rest ih | directoryLink n rest ih => exact ih h
  | directory n readable entries rest ihEntries ih =>
      obtain h | h := List.mem_append.mp h
      · cases readable with
        | false => cases h
        | true =>
            obtain ⟨⟨names', r⟩, hd, heq⟩ := List.mem_map.mp h
            obtain ⟨rfl, rfl⟩ := Prod.mk.inj heq
            exact List.mem_append_left _
              (List.mem_map.mpr ⟨(names', f), mem_files_of_below ihEntries hd, rfl⟩)
      · exact List.mem_append_right _ (ih h)

/-- **The regular files that a walk meets are files of the directory.** -/
theorem mem_files_of_mem_visited {l : Listing φ ψ} {names : List FileName} {f : φ}
    (h : (names, .inl f) ∈ l.visited) : (names, f) ∈ l.files :=
  mem_files_of_below mem_files_of_mem_visitedBelow h

/-- Where there are only regular files and directories, the other entries are regular files. -/
theorem RegularOnly.file_of_mem_nonDirectories {l : Listing φ ψ} (hl : l.RegularOnly)
    {e : FileName × (φ ⊕ ψ)} (h : e ∈ l.nonDirectories) : ∃ f, e.2 = .inl f := by
  induction l with
  | nil => cases h
  | file n f rest ih =>
      obtain rfl | h := List.mem_cons.mp h
      · exact ⟨f, rfl⟩
      · exact ih hl h
  | other n o rest ih | directoryLink n rest ih => exact hl.elim
  | directory n readable entries rest ihEntries ih => exact ih hl.2 h

/-- Where there are only regular files and directories, a walk meets regular files only. -/
theorem RegularOnly.file_of_mem_visited {l : Listing φ ψ} (hl : l.RegularOnly)
    {e : List FileName × (φ ⊕ ψ)} (h : e ∈ l.visited) : ∃ f, e.2 = .inl f := by
  induction l generalizing e with
  | nil => cases h
  | file n f rest ih =>
      obtain h | h := List.mem_append.mp h
      · obtain ⟨d, hd, rfl⟩ := List.mem_map.mp h
        exact RegularOnly.file_of_mem_nonDirectories hl hd
      · exact ih hl (List.mem_append_right _ h)
  | other n o rest ih | directoryLink n rest ih => exact hl.elim
  | directory n readable entries rest ihEntries ih =>
      obtain h | h := List.mem_append.mp h
      · obtain ⟨d, hd, rfl⟩ := List.mem_map.mp h
        exact RegularOnly.file_of_mem_nonDirectories hl hd
      obtain h | h := List.mem_append.mp h
      · cases readable with
        | false => cases h
        | true =>
            obtain ⟨d, hd, rfl⟩ := List.mem_map.mp h
            exact ihEntries (e := d) hl.1 hd
      · exact ih hl.2 (List.mem_append_right _ h)

/-- Where there are only regular files and directories, a walk meets its regular files. -/
theorem RegularOnly.visited_eq {l : Listing φ ψ} (hl : l.RegularOnly) :
    l.visited = l.visitedFiles.map fun e => (e.1, .inl e.2) := by
  have hregular := fun e (he : e ∈ l.visited) => hl.file_of_mem_visited he
  unfold visitedFiles
  generalize l.visited = entries at hregular
  induction entries with
  | nil => rfl
  | cons e entries ih =>
      obtain ⟨f, hf⟩ := hregular e List.mem_cons_self
      have hrest := ih fun e' he' => hregular e' (List.mem_cons_of_mem _ he')
      rw [List.filterMap_cons, hf]
      simp only [Sum.getLeft?_inl, Option.map_some, List.map_cons]
      rw [← hrest, ← hf]

/-- The regular files that a walk meets are files of the directory. -/
theorem mem_files_of_mem_visitedFiles {l : Listing φ ψ} {e : List FileName × φ}
    (h : e ∈ l.visitedFiles) : e ∈ l.files := by
  obtain ⟨⟨names, entry⟩, hentry, heq⟩ := List.mem_filterMap.mp h
  cases entry with
  | inl f =>
      cases heq
      exact mem_files_of_mem_visited hentry
  | inr o => cases heq

end Listing

/-! ## Directories -/

/-- The contents of a directory: no name occurs twice in it, or in a directory below it. -/
structure Directory (φ ψ : Type) where
  listing : Listing φ ψ
  distinct : listing.Distinct

end FileTree
