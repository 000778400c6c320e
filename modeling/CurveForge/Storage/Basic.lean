/-!
# Storage

What a directory of documents needs from a file system: making a directory,
finding out whether there is one, writing a file at once, and writing a file
through a buffer. A buffered write can fail while the buffer is filled, or
outside of that, when the file is opened or the rest of the buffer is written.
The reasons of failures have the wording and number that the operating system
gives them.

A written path is a text in which slashes separate the steps of a walk. Nothing
between two slashes is no step. A single dot stays where the walk is, and a
double dot goes up; any other step is the name of an entry. A walk is refused as
a whole if its text holds a NUL byte, is too long or is empty.

A directory that is deep inside others is made with `Storage.createDirectories`,
which works on every file system.
-/

namespace CurveForge

inductive StorageFailure where
  | notFound
  | alreadyExists
  | notDirectory
  | isDirectory
  | deviceFull
  | nameTooLong
  | nulByte
  | other (text : String)
  deriving DecidableEq, Repr

namespace StorageFailure

/-- The wording of a failure, followed by the number of the system's error if it is one. -/
def message : StorageFailure → String
  | notFound => "No such file or directory (os error 2)"
  | alreadyExists => "File exists (os error 17)"
  | notDirectory => "Not a directory (os error 20)"
  | isDirectory => "Is a directory (os error 21)"
  | deviceFull => "No space left on device (os error 28)"
  | nameTooLong => "File name too long (os error 36)"
  | nulByte => "file name contained an unexpected NUL byte"
  | other text => text

def ofCode? : Nat → Option StorageFailure
  | 2 => some notFound
  | 17 => some alreadyExists
  | 20 => some notDirectory
  | 21 => some isDirectory
  | 28 => some deviceFull
  | 36 => some nameTooLong
  | _ => none

end StorageFailure

abbrev TreePath := List String

namespace TreePath

def longestName : Nat := 255

def longestText : Nat := 4095

def pushFront (c : Char) : List (List Char) → List (List Char)
  | [] => [[c]]
  | piece :: rest => (c :: piece) :: rest

/-- The pieces of a text between slashes. -/
def pieces : List Char → List (List Char)
  | [] => [[]]
  | c :: rest => if c = '/' then [] :: pieces rest else pushFront c (pieces rest)

def steps (path : String) : List String :=
  ((pieces path.toList).map String.ofList).filter fun step => step != ""

/-- The steps of a written path without those that stay where they are. -/
def moves (path : String) : List String := (steps path).filter fun step => step != "."

/-- The steps of a written path that is not refused. -/
def walk (path : String) : Except StorageFailure (List String) :=
  if path.toList.contains '\x00' then .error .nulByte
  else if longestText < path.utf8ByteSize then .error .nameTooLong
  else if path.isEmpty then .error .notFound
  else .ok (steps path)

def text (path : TreePath) : String := "/".intercalate path

/-- The paths at the end of reversed steps and of those before them, the longest first. -/
def outward : List String → List TreePath
  | [] => []
  | step :: rest => (rest.reverse ++ [step]) :: outward rest

/--
The written paths of what is around the end of a written path, the innermost
first. Steps that stay where they are do not count: around a path with one at
its end is what would be around the path without it.
-/
def ancestors (path : String) : List String :=
  let root := if path.toList.head? = some '/' then "/" else ""
  (outward (moves path).reverse.tail).map fun steps => root ++ text steps

end TreePath

/-- Why a buffered write failed, and when. -/
inductive BufferedFailure where
  | outside (reason : StorageFailure)
  | filling (reason : StorageFailure)
  deriving DecidableEq, Repr

def bufferSize : Nat := 8192

namespace BufferedFailure

def reason : BufferedFailure → StorageFailure
  | outside reason => reason
  | filling reason => reason

/-- When a failure to store a text is noticed: while the buffer is filled if the text does not fit
it. -/
def ofStoring (text : String) (reason : StorageFailure) : BufferedFailure :=
  if bufferSize < text.utf8ByteSize then .filling reason else .outside reason

end BufferedFailure

structure Storage (m : Type → Type) where
  createDirectory : String → m (Except StorageFailure Unit)
  isDirectory : String → m Bool
  writeFile : String → String → m (Except StorageFailure Unit)
  writeBuffered : String → String → m (Except BufferedFailure Unit)

namespace Storage

variable {m : Type → Type} [Monad m]

/-- Makes a directory, and accepts one that is there already. -/
def ensureDirectory (storage : Storage m) (path : String) : ExceptT StorageFailure m Unit :=
  tryCatch (ExceptT.mk (storage.createDirectory path)) fun reason => do
    if !(← storage.isDirectory path) then throw reason

/--
Makes the first of some directories. If something above it is missing, the
others are made before it, in the same way; those stay if it still fails.
-/
def ensureFirst (storage : Storage m) : List String → ExceptT StorageFailure m Unit
  | [] => return ()
  | path :: above =>
      tryCatch (storage.ensureDirectory path) fun reason => do
        if reason ≠ .notFound then throw reason
        storage.ensureFirst above
        storage.ensureDirectory path

/-- Makes a directory and those around it that are missing; the empty path needs none. -/
def createDirectories (storage : Storage m) (path : String) : ExceptT StorageFailure m Unit :=
  if path.isEmpty then return () else storage.ensureFirst (path :: TreePath.ancestors path)

end Storage

/-- The path of a name inside a directory; a name that starts at the root stands alone. -/
def joinPath (dir name : String) : String :=
  if name.toList.head? = some '/' then name
  else if dir.isEmpty || dir.toList.getLast? = some '/' then dir ++ name
  else dir ++ "/" ++ name

end CurveForge
