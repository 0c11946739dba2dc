import RadioFrontEnd.Errno
import RadioFrontEnd.Memory
import RadioFrontEnd.Table

/-!
# Files

Device nodes and configurations are files.  `Files` is the part of a file system that the library
meets: a table of files by their place, and a working directory from which relative paths start.

A path is followed name by name, and every name is looked up in a directory that must be there and
must be open to the caller.  The first obstacle on the way decides the error: a missing directory,
a file in place of a directory, a directory without access, a name too long.  A path that ends in a
slash has to lead to a directory.

Besides regular files there are directories, pipes, which have no positions, and the two devices
that take everything and nothing: `null` and `full`.
-/

namespace RadioFrontEnd

/-- Where a file is: the names on the way from the root. -/
abbrev Place := List String

/-- What a file is. -/
inductive FileKind where
  /-- A regular file with its content. -/
  | regular (content : Memory)
  /-- A directory. -/
  | directory
  /-- A pipe: it can be opened, but it has no positions. -/
  | pipe
  /-- The device that is always full: it reads as zeros. -/
  | full
  /-- The device that swallows everything: it reads as empty. -/
  | null
  deriving DecidableEq

/-- A file: what it is, and whether the caller is shut out. -/
structure File where
  /-- What the file is. -/
  kind : FileKind
  /-- The caller has no access. -/
  denied : Bool := false
  deriving DecidableEq

/-- The files that a host has. -/
structure Files where
  /-- The files by their place. -/
  table : Table Place File
  /-- Where relative paths start. -/
  workingDirectory : Place
  deriving DecidableEq

namespace Files

/-- The longest name of a file, in bytes. -/
def maxName : Nat := 255

/-- The longest path, in bytes, with its terminator. -/
def maxPath : Nat := 4096

/-- The file at a place. -/
def get? (fs : Files) (place : Place) : Option File := fs.table.get? place

/-- Put a file at a place. -/
def set (fs : Files) (place : Place) (file : File) : Files :=
  { fs with table := fs.table.set place file }

/-- A host with an empty working directory below the root, and the two devices. -/
def fresh (workingDirectory : String) : Files :=
  let directory : File := { kind := .directory }
  { table := ⟨[([workingDirectory], directory), (["dev", "full"], { kind := .full }),
      (["dev", "null"], { kind := .null }), (["dev"], directory), (["etc"], directory),
      (["tmp"], directory), ([], directory)]⟩
    workingDirectory := [workingDirectory] }

/-- Can names be looked up at a place? -/
def enter (fs : Files) (place : Place) : Except Errno Unit :=
  match fs.get? place with
  | none => .error .noEntry
  | some ⟨.directory, false⟩ => .ok ()
  | some ⟨.directory, true⟩ => .error .accessDenied
  | some _ => .error .notDirectory

/-- Follow names from a place on. -/
def walk (fs : Files) : Place → List String → Except Errno Place
  | here, [] => .ok here
  | here, name :: names => do
    fs.enter here
    if name = "." then fs.walk here names
    else if name = ".." then fs.walk here.dropLast names
    else if maxName < name.utf8ByteSize then .error .nameTooLong
    else fs.walk (here ++ [name]) names

/-- The names that a path goes through.  An empty name stands for the directory itself, and so does
the end of a path that ends in a slash. -/
def names (path : String) : List String :=
  let parts := path.splitOn "/"
  let names := parts.filter (· ≠ "")
  if parts.getLast? = some "" ∧ names ≠ [] then names ++ ["."] else names

/-- The place that a path leads to.  All but the last name must be there. -/
def locate (fs : Files) (path : String) : Except FileError Place :=
  if path.contains '\x00' then .error .nulInPath
  else if path = "" then .error (.system .noEntry)
  else if maxPath ≤ path.utf8ByteSize then .error (.system .nameTooLong)
  else
    let start := if path.startsWith "/" then [] else fs.workingDirectory
    (fs.walk start (names path)).mapError .system

/-- Is there a file at the end of a path? -/
def isPresent (fs : Files) (path : String) : Bool :=
  match fs.locate path with
  | .ok place => (fs.get? place).isSome
  | .error _ => false

/-- Open a file for reading and writing at positions. -/
def openNode (fs : Files) (path : String) : Except FileError Place := do
  let place ← fs.locate path
  match fs.get? place with
  | none => .error (.system .noEntry)
  | some ⟨.directory, _⟩ => .error (.system .isDirectory)
  | some ⟨_, true⟩ => .error (.system .accessDenied)
  | some ⟨_, false⟩ => .ok place

/-- The whole text of a file.  A pipe and the full device have no end, and no text. -/
def readText (fs : Files) (path : String) : Except FileError String := do
  let place ← fs.locate path
  match fs.get? place with
  | none => .error (.system .noEntry)
  | some ⟨_, true⟩ => .error (.system .accessDenied)
  | some ⟨.directory, _⟩ => .error (.system .isDirectory)
  | some ⟨.regular content, _⟩ =>
    match String.fromUTF8? content.toBytes with
    | some text => .ok text
    | none => .error .notUtf8
  | some ⟨.null, _⟩ => .ok ""
  | some ⟨.pipe, _⟩ | some ⟨.full, _⟩ => .error (.system .illegalSeek)

/-- Give a file a new text in place of its content, and make the file if need be. -/
def writeText (fs : Files) (path text : String) : Except FileError Files := do
  let content : FileKind := .regular (.ofBytes text.toUTF8)
  let bare : String := .ofList (path.toList.reverse.dropWhile (· = '/')).reverse
  if path ≠ bare ∧ bare ≠ "" then
    if (fs.get? (← fs.locate bare)).isNone then
      throw (.system .isDirectory)
  let place ← fs.locate path
  match fs.get? place with
  | none => .ok (fs.set place { kind := content })
  | some ⟨.directory, _⟩ => .error (.system .isDirectory)
  | some ⟨_, true⟩ => .error (.system .accessDenied)
  | some ⟨.regular _, false⟩ => .ok (fs.set place { kind := content })
  | some ⟨.full, false⟩ => .error (.system .noSpace)
  | some ⟨.null, false⟩ | some ⟨.pipe, false⟩ => .ok fs

/-- Put a directory at a place where nothing is. -/
def ensureDirectory (fs : Files) (place : Place) : Files :=
  if (fs.get? place).isSome then fs else fs.set place { kind := .directory }

/-- The place that some names lead to, whatever is on the way. -/
def follow (here : Place) (names : List String) : Place :=
  names.foldl (fun here name =>
    if name = "." then here else if name = ".." then here.dropLast else here ++ [name]) here

/-- Put a file at the end of a path, with the directories on the way. -/
def install (fs : Files) (path : String) (file : File) : Files :=
  let place := follow (if path.startsWith "/" then [] else fs.workingDirectory) (names path)
  (((List.range place.length).map place.take).foldl ensureDirectory fs).set place file

/-- Read at a position of an open file: up to so many bytes. -/
def pread (fs : Files) (place : Place) (length offset : Nat) : Except Errno ByteArray :=
  match fs.get? place with
  | some ⟨.regular content, _⟩ => .ok (content.read offset length)
  | some ⟨.full, _⟩ => .ok ((Memory.zeros length).read 0 length)
  | some ⟨.null, _⟩ => .ok .empty
  | some ⟨.pipe, _⟩ => .error .illegalSeek
  | some ⟨.directory, _⟩ => .error .isDirectory
  | none => .error .noEntry

/-- Write at a position of an open file, and tell how many bytes were taken. -/
def pwrite (fs : Files) (place : Place) (data : ByteArray) (offset : Nat) :
    Except Errno Nat × Files :=
  match fs.get? place with
  | some ⟨.regular content, denied⟩ =>
    (.ok data.size, fs.set place ⟨.regular (content.write offset data), denied⟩)
  | some ⟨.null, _⟩ => (.ok data.size, fs)
  | some ⟨.full, _⟩ => (.error .noSpace, fs)
  | some ⟨.pipe, _⟩ => (.error .illegalSeek, fs)
  | some ⟨.directory, _⟩ => (.error .isDirectory, fs)
  | none => (.error .noEntry, fs)

end Files
end RadioFrontEnd
