import Vigil.Files.OsError
import Vigil.Files.Path
import Vigil.Text.Utf8

/-!
# Files — Tree

A tree of files and directories with a working directory, and the operations on it that
diagnostics need.  `find?` is the view: `find?_put`, `find?_erase` and `find?_appendTo` say what
each change does to it.  A path is followed name by name as the operating system does, so that each
operation fails for the reason that comes first on the way.
-/

namespace Vigil

/-- Why a file operation failed. -/
inductive FileFailure where
  | system (error : OsError)
  /-- A path with a NUL character, which the system cannot be asked about. -/
  | nulInPath
  /-- A file that was to be read as text and is none. -/
  | notText
  deriving DecidableEq, Repr

namespace FileFailure

/-- The text of the failure. -/
def message : FileFailure → String
  | .system e => e.message
  | .nulInPath => "file name contained an unexpected NUL byte"
  | .notText => "stream did not contain valid UTF-8"

/-- Whether the failure is that there is nothing at the path. -/
def isNotFound (e : FileFailure) : Bool := e = .system .notFound

end FileFailure

/-- What a path leads to; a file keeps its identity while its contents change. -/
inductive Entry where
  | file (id : Nat) (contents : Bytes)
  | directory
  deriving DecidableEq

namespace Entry

/-- Whether it is a directory. -/
def isDirectory : Entry → Bool
  | .directory => true
  | .file .. => false

/-- The entry after `bytes` have been added to the file `id`. -/
def appended (id : Nat) (bytes : Bytes) : Entry → Entry
  | .file i contents => .file i (if i = id then contents ++ bytes else contents)
  | .directory => .directory

end Entry

/-- A place in a tree: the names that lead there from the root. -/
abbrev Place := List String

/-- A tree of files. -/
structure Tree where
  /-- What is at each place but the root, the latest first. -/
  entries : List (Place × Entry)
  /-- The next unused identity of a file. -/
  nextId : Nat
  /-- Where relative paths start. -/
  workingDirectory : Place

namespace Tree

/-- What is at a place; the root is always there. -/
def find? (t : Tree) (p : Place) : Option Entry :=
  if p.isEmpty then some .directory else t.entries.lookup p

/-- Whether there is a directory at a place. -/
def isDirectoryAt (t : Tree) (p : Place) : Bool := t.find? p = some .directory

/-- The tree with nothing but the working directory. -/
def new (workingDirectory : Place) : Tree where
  entries := (List.range workingDirectory.length).reverse.map fun i =>
    (workingDirectory.take (i + 1), .directory)
  nextId := 0
  workingDirectory := workingDirectory

/-- The longest name, in bytes. -/
def maxName : Nat := 255

/-- The longest path, in bytes. -/
def maxPath : Nat := 4095

/-- Refuses to go on from what is no directory. -/
def needDirectory (t : Tree) (p : Place) : Except OsError Unit :=
  match t.find? p with
  | some .directory => .ok ()
  | some (.file ..) => .error .notADirectory
  | none => .error .notFound

/-- Goes from a directory to a name in it. -/
def step (t : Tree) (p : Place) (name : String) : Except OsError Place := do
  t.needDirectory p
  if name = "." then .ok p
  else if name = ".." then .ok p.dropLast
  else if maxName < name.utf8ByteSize then .error .nameTooLong
  else if (t.find? (p ++ [name])).isSome then .ok (p ++ [name])
  else .error .notFound

/-- Where a path starts, if the system can be asked about it at all. -/
def origin (t : Tree) (path : String) : Except FileFailure Place :=
  if path.contains '\x00' then .error .nulInPath
  else if maxPath < path.utf8ByteSize then .error (.system .nameTooLong)
  else if path.isEmpty then .error (.system .notFound)
  else .ok (if Path.isAbsolute path then [] else t.workingDirectory)

/-- A failure of the system as a failure of a file operation. -/
def lift {α : Type} : Except OsError α → Except FileFailure α
  | .ok a => .ok a
  | .error e => .error (.system e)

/-- The place that a path leads to; after a final slash it has to be a directory. -/
def resolve (t : Tree) (path : String) : Except FileFailure Place := do
  let start ← t.origin path
  lift do
    let p ← (Path.names path).foldlM t.step start
    if Path.endsInSlash path then t.needDirectory p
    .ok p

/-- The last name on a path. -/
inductive Last where
  /-- A name, with a final slash or not. -/
  | name (text : String) (slash : Bool)
  /-- One of `.`, `..` and the root itself. -/
  | special

/-- The directory that holds the last name of a path, and that name. -/
def resolveParent (t : Tree) (path : String) : Except FileFailure (Place × Last) := do
  let start ← t.origin path
  lift do
    match (Path.names path).reverse with
    | [] => .ok (start, .special)
    | last :: before =>
      let p ← before.reverse.foldlM t.step start
      t.needDirectory p
      if last = "." || last = ".." then .ok (p, .special)
      else .ok (p, .name last (Path.endsInSlash path))

/-- Takes away what is at a place. -/
def erase (t : Tree) (p : Place) : Tree := { t with entries := t.entries.filter (·.1 != p) }

/-- Puts an entry at a place, over what is there. -/
def put (t : Tree) (p : Place) (e : Entry) : Tree :=
  { t with entries := (p, e) :: (t.erase p).entries }

theorem lookup_keep (keep : Place → Bool) (q : Place) (es : List (Place × Entry)) :
    (es.filter fun e => keep e.1).lookup q = if keep q then es.lookup q else none := by
  induction es with
  | nil => simp
  | cons d rest ih =>
    obtain ⟨p, e⟩ := d
    rw [List.filter_cons, List.lookup_cons]
    by_cases hq : q = p
    · subst hq
      cases hk : keep q <;> simp [hk, ih]
    · have hne : (q == p) = false := beq_eq_false_iff_ne.2 hq
      cases keep p <;> simp [hne, List.lookup_cons, ih]

theorem lookup_mapEntry (f : Entry → Entry) (q : Place) (es : List (Place × Entry)) :
    (es.map fun (p, e) => (p, f e)).lookup q = (es.lookup q).map f := by
  induction es with
  | nil => rfl
  | cons d rest ih =>
    obtain ⟨p, e⟩ := d
    simp only [List.map_cons, List.lookup_cons, ih]
    cases q == p <;> rfl

/-- What is at each place after one has been cleared. -/
theorem find?_erase (t : Tree) {p : Place} (hp : p ≠ []) (q : Place) :
    (t.erase p).find? q = if q = p then none else t.find? q := by
  by_cases hq : q = []
  · subst hq
    simp [find?, Ne.symm hp]
  · have hk := lookup_keep (· != p) q t.entries
    by_cases hqp : q = p
    · subst hqp
      simpa [find?, erase, hq] using hk
    · simpa [find?, erase, hq, hqp] using hk

/-- What is at each place after one has been filled. -/
theorem find?_put (t : Tree) {p : Place} (hp : p ≠ []) (e : Entry) (q : Place) :
    (t.put p e).find? q = if q = p then some e else t.find? q := by
  have he := t.find?_erase hp q
  by_cases hq : q = []
  · subst hq
    simp [find?, Ne.symm hp]
  · by_cases hqp : q = p
    · subst hqp
      simp [find?, put, hq]
    · have hne : (q == p) = false := beq_eq_false_iff_ne.2 hqp
      simpa [find?, put, hq, hqp, List.lookup_cons, hne] using he

/-- Whether there is something at a path. -/
def pathExists (t : Tree) (path : String) : Bool := (t.resolve path).isOk

/-- Whether there is a directory at a path. -/
def isDirectory (t : Tree) (path : String) : Bool :=
  match t.resolve path with
  | .ok p => t.isDirectoryAt p
  | .error _ => false

/-- The contents of a file. -/
def read (t : Tree) (path : String) : Except FileFailure Bytes := do
  let p ← t.resolve path
  match t.find? p with
  | some (.file _ contents) => .ok contents
  | some .directory => .error (.system .isADirectory)
  | none => .error (.system .notFound)

/-- The contents of a file that holds text. -/
def readText (t : Tree) (path : String) : Except FileFailure (List Char) := do
  match Text.decode? (← t.read path) with
  | some text => .ok text
  | none => .error .notText

/-- Opens a file to write to it, an absent one being made: where it is and which file it is. -/
def openFile (t : Tree) (path : String) : Except FileFailure (Tree × Place × Nat) := do
  let (p, last) ← t.resolveParent path
  lift do
    match last with
    | .special => .error .isADirectory
    | .name name slash =>
      if slash then .error .isADirectory
      else if maxName < name.utf8ByteSize then .error .nameTooLong
      else match t.find? (p ++ [name]) with
        | some .directory => .error .isADirectory
        | some (.file id _) => .ok (t, p ++ [name], id)
        | none =>
          .ok ({ t.put (p ++ [name]) (.file t.nextId []) with nextId := t.nextId + 1 },
            p ++ [name], t.nextId)

/-- Makes `contents` the contents of the file at a path. -/
def write (t : Tree) (path : String) (contents : Bytes) : Except FileFailure Tree := do
  let (t, p, id) ← t.openFile path
  .ok (t.put p (.file id contents))

/-- Adds `bytes` to the end of a file, wherever it now is; a deleted file takes them unseen. -/
def appendTo (t : Tree) (id : Nat) (bytes : Bytes) : Tree :=
  { t with entries := t.entries.map fun (p, e) => (p, e.appended id bytes) }

/-- What is at each place after a file has grown. -/
theorem find?_appendTo (t : Tree) (id : Nat) (bytes : Bytes) (q : Place) :
    (t.appendTo id bytes).find? q = (t.find? q).map (·.appended id bytes) := by
  by_cases hq : q = []
  · subst hq
    rfl
  · simp [find?, appendTo, hq, lookup_mapEntry]

/-- Deletes the file at a path. -/
def remove (t : Tree) (path : String) : Except FileFailure Tree := do
  let (p, last) ← t.resolveParent path
  lift do
    match last with
    | .special => .error .isADirectory
    | .name name slash =>
      if maxName < name.utf8ByteSize then .error .nameTooLong
      else match t.find? (p ++ [name]) with
        | none => .error .notFound
        | some .directory => .error .isADirectory
        | some (.file ..) =>
          if slash then .error .notADirectory
          else .ok (t.erase (p ++ [name]))

/-- Makes one directory. -/
def makeDirectory (t : Tree) (path : String) : Except FileFailure Tree := do
  let (p, last) ← t.resolveParent path
  lift do
    match last with
    | .special => .error .alreadyExists
    | .name name _ =>
      if maxName < name.utf8ByteSize then .error .nameTooLong
      else if (t.find? (p ++ [name])).isSome then .error .alreadyExists
      else .ok (t.put (p ++ [name]) .directory)

/-- Makes a directory whose parent was missing before; one that is there after all will do. -/
def retryDirectory (t : Tree) (path : String) : Tree × Except FileFailure Unit :=
  match t.makeDirectory path with
  | .ok t => (t, .ok ())
  | .error e => (t, if t.isDirectory path then .ok () else .error e)

/-- Makes a directory and the missing ones above it, which `parents` lists from the nearest on.
The tree is given back also on failure, since some may have been made. -/
def makeDirectoriesFrom (t : Tree) : String → List String → Tree × Except FileFailure Unit
  | path, [] => t.retryDirectory path
  | path, parent :: rest =>
    match t.makeDirectory path with
    | .ok t => (t, .ok ())
    | .error e =>
      if !e.isNotFound then (t, if t.isDirectory path then .ok () else .error e)
      else if parent.isEmpty then (t, .error e)
      else match t.makeDirectoriesFrom parent rest with
        | (t, .error e) => (t, .error e)
        | (t, .ok ()) => t.retryDirectory path

end Tree

namespace Path

/-- The parents of a path from the nearest on, at most `fuel` of them. -/
def ancestors : Nat → String → List String
  | 0, _ => []
  | fuel + 1, path => match parent? path with
    | none => []
    | some p => p :: ancestors fuel p

end Path

namespace Tree

/-- Makes a directory and the missing ones above it; nothing is to be made for the empty path. -/
def makeDirectories (t : Tree) (path : String) : Tree × Except FileFailure Unit :=
  if path.isEmpty then (t, .ok ())
  else t.makeDirectoriesFrom path (Path.ancestors path.length path)

/-- Opens a file to append to it, with the directories above it: which file it is. -/
def openAppend (t : Tree) (path : String) : Tree × Except FileFailure Nat :=
  let (t, made) := match Path.parent? path with
    | some parent => t.makeDirectories parent
    | none => (t, .ok ())
  match made with
  | .error e => (t, .error e)
  | .ok () => match t.openFile path with
    | .ok (t, _, id) => (t, .ok id)
    | .error e => (t, .error e)

/-- Deletes the file or the whole directory at a path; says whether there was one. -/
def removeAll (t : Tree) (path : String) : Tree × Bool :=
  match t.resolve path with
  | .error _ => (t, false)
  | .ok p => ({ t with entries := t.entries.filter fun e => !p.isPrefixOf e.1 }, true)

/-- The way from one place to another below it. -/
def below? : Place → Place → Option Place
  | [], p => some p
  | _ :: _, [] => none
  | a :: top, b :: p => if a = b then below? top p else none

/-- What is below the working directory, directories with a final slash. -/
def listing (t : Tree) : List String :=
  (t.entries.filterMap fun (p, e) =>
    match below? t.workingDirectory p with
    | none | some [] => none
    | some names => some ("/".intercalate names ++ (if e.isDirectory then "/" else ""))
    ).mergeSort (· ≤ ·)

end Tree
end Vigil
