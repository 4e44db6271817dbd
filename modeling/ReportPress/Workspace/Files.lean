import ReportPress.Text.Line
import ReportPress.Text.LooseText
import ReportPress.Workspace
import ReportPress.Workspace.Path

/-!
Files by path. A path is followed name by name through directories that are there, and what stands
in the way is told: a name that leads nowhere, a file where a directory is needed, a name that is
too long, or a null character. Writing replaces the whole file, also where it fails for the
text; making a directory makes those that hold it first.
-/

namespace ReportPress

/-- Why nothing can be done at a path. -/
inductive Obstacle
  | notFound
  | isADirectory
  | notADirectory
  | alreadyExists
  | nameTooLong
  | nullCharacter
  deriving DecidableEq

/-- An obstacle and the path where it was met. -/
structure FileError where
  obstacle : Obstacle
  path : Path
  deriving DecidableEq

/-- What the system says of an obstacle, with its number; it knows no null characters. -/
def Obstacle.systemMessage? : Obstacle → Option String
  | .notFound => some "[Errno 2] No such file or directory"
  | .isADirectory => some "[Errno 21] Is a directory"
  | .notADirectory => some "[Errno 20] Not a directory"
  | .alreadyExists => some "[Errno 17] File exists"
  | .nameTooLong => some "[Errno 36] File name too long"
  | .nullCharacter => none

def FileError.message (e : FileError) : String :=
  match e.obstacle.systemMessage? with
  | some message => message ++ ": " ++ Text.quoted e.path.text
  | none => "embedded null byte"

namespace Workspace

/-- The least count of bytes that is too long for a whole path. -/
def pathLimit : Nat := 4096

/-- The location in front of one; the root is in front of itself. -/
def parentOf (location : Location) : Location :=
  if location.all (· == "..") then ".." :: location
  else if location = ["/"] then location
  else location.dropLast

/-- The location that a name leads to from a directory. -/
def child (location : Location) (name : String) : Location :=
  if name = ".." then parentOf location else location ++ [name]

/-- The location that names lead to, all but the last through directories that are there. -/
def follow (w : Workspace) : Location → List String → Except Obstacle Location
  | location, [] => .ok location
  | location, name :: rest =>
    match w.at? location with
    | none => .error .notFound
    | some (.file _) => .error .notADirectory
    | some .directory =>
      if nameLimit < name.utf8ByteSize then .error .nameTooLong
      else follow w (child location name) rest

/-- The location that a path leads to. -/
def locate (w : Workspace) (path : Path) : Except Obstacle Location :=
  if path.text.toList.contains '\x00' then .error .nullCharacter
  else if pathLimit ≤ path.text.utf8ByteSize then .error .nameTooLong
  else
    match path.anchor with
    | .here => w.follow [] path.names
    | _ => w.follow ["/"] path.names

/-- What stands at a path. -/
def entry (w : Workspace) (path : Path) : Except Obstacle Entry :=
  match w.locate path with
  | .error obstacle => .error obstacle
  | .ok location =>
    match w.at? location with
    | some entry => .ok entry
    | none => .error .notFound

/-- Whether an entry of a kind stands at a path. A path that leads nowhere has none; one that is too
long cannot be asked. -/
def holds (w : Workspace) (path : Path) (isKind : Entry → Bool) : Except FileError Bool :=
  match w.entry path with
  | .ok entry => .ok (isKind entry)
  | .error .nameTooLong => .error ⟨.nameTooLong, path⟩
  | .error _ => .ok false

/-- Whether anything stands at a path. -/
def exists? (w : Workspace) (path : Path) : Except FileError Bool := w.holds path fun _ => true

/-- Whether a directory stands at a path. -/
def isDirectory? (w : Workspace) (path : Path) : Except FileError Bool :=
  w.holds path fun entry => entry == .directory

/-- Those of the names that lead from a path to a directory. All names are asked in order, and the
first that makes the path too long ends this. -/
def directoriesAmong (w : Workspace) (path : Path) : List String → Except FileError (List String)
  | [] => .ok []
  | name :: rest =>
    (w.isDirectory? (path.append name)).bind fun isDirectory =>
      (directoriesAmong w path rest).map fun found => if isDirectory then name :: found else found

/-- The names of the directories that stand directly in the directory at a path. -/
def subdirectories (w : Workspace) (path : Path) : Except FileError (List String) :=
  match w.locate path with
  | .error obstacle => .error ⟨obstacle, path⟩
  | .ok location => w.directoriesAmong path (w.children location)

/-- The bytes of the file at a path. -/
def readBytes (w : Workspace) (path : Path) : Except FileError (List UInt8) :=
  match w.entry path with
  | .ok (.file bytes) => .ok bytes
  | .ok .directory => .error ⟨.isADirectory, path⟩
  | .error obstacle => .error ⟨obstacle, path⟩

/-- The workspace with the bytes in the file at a path, which is made if it is not there. -/
def writeBytes (w : Workspace) (path : Path) (bytes : List UInt8) : Except FileError Workspace :=
  match w.locate path with
  | .error obstacle => .error ⟨obstacle, path⟩
  | .ok location =>
    match w.at? location with
    | some .directory => .error ⟨.isADirectory, path⟩
    | _ => .ok (w.put location (.file bytes))

/-- Why a text cannot be written to a file. -/
inductive WriteError
  | file (e : FileError)
  | encoding (e : Text.Utf8.EncodeError)
  deriving DecidableEq

/-- The workspace with the text in the file at a path. The file is opened before the text is
encoded, so a text that cannot be encoded leaves the file empty. -/
def writeText (w : Workspace) (path : Path) (text : LooseText) :
    Workspace × Except WriteError Unit :=
  match w.writeBytes path text.written with
  | .error e => (w, .error (.file e))
  | .ok written => (written, (text.encode.map fun _ => ()).mapError .encoding)

/-- The workspace with a directory at a path, where nothing may stand. -/
def makeDirectory (w : Workspace) (path : Path) : Except FileError Workspace :=
  match w.locate path with
  | .error obstacle => .error ⟨obstacle, path⟩
  | .ok location =>
    match w.at? location with
    | some _ => .error ⟨.alreadyExists, path⟩
    | none => .ok (w.put location .directory)

/-- The workspace with a directory at a path, made unless it is there, and whether that is so. -/
def ensureDirectory (w : Workspace) (path : Path) : Workspace × Except FileError Unit :=
  match w.makeDirectory path with
  | .ok made => (made, .ok ())
  | .error e =>
    match e.obstacle with
    | .notFound | .nullCharacter => (w, .error e)
    | _ =>
      match w.isDirectory? path with
      | .ok true => (w, .ok ())
      | .ok false => (w, .error e)
      | .error e => (w, .error e)

/-- The workspace with a directory at the path of the first `count` names, those that hold it made
first, and whether all of them are there; those that were made stay when a later one fails. -/
def makeDirectoriesTo (w : Workspace) (path : Path) : Nat → Workspace × Except FileError Unit
  | 0 => w.ensureDirectory ⟨path.anchor, []⟩
  | count + 1 =>
    let target : Path := ⟨path.anchor, path.names.take (count + 1)⟩
    match w.makeDirectory target with
    | .error ⟨.notFound, _⟩ =>
      match makeDirectoriesTo w path count with
      | (w, .ok ()) => w.ensureDirectory target
      | failed => failed
    | _ => w.ensureDirectory target

/-- The workspace with a directory at a path, and those that hold it. -/
def makeDirectories (w : Workspace) (path : Path) : Workspace × Except FileError Unit :=
  w.makeDirectoriesTo path path.names.length

/-- The workspace with a directory at a path where nothing may stand, and those that hold it. -/
def makeNewDirectory (w : Workspace) (path : Path) : Workspace × Except FileError Unit :=
  match w.makeDirectory path with
  | .ok made => (made, .ok ())
  | .error ⟨.notFound, _⟩ =>
    match w.makeDirectoriesTo path (path.names.length - 1) with
    | (w, .ok ()) =>
      match w.makeDirectory path with
      | .ok made => (made, .ok ())
      | .error e => (w, .error e)
    | failed => failed
  | .error e => (w, .error e)

/-- The workspace without what stands at a path and all that is below it. -/
def removeAt (w : Workspace) (path : Path) : Except FileError Workspace :=
  match w.locate path with
  | .error obstacle => .error ⟨obstacle, path⟩
  | .ok location =>
    match w.at? location with
    | some _ => .ok (w.remove location)
    | none => .error ⟨.notFound, path⟩

/-- Why a file cannot be read as text. -/
inductive ReadError
  | file (e : FileError)
  | encoding (e : Text.Utf8.DecodeError)
  deriving DecidableEq

def ReadError.message : ReadError → String
  | .file e => e.message
  | .encoding e => e.message

/-- The text of the file at a path, with its line ends unified. -/
def readText (w : Workspace) (path : Path) : Except ReadError String :=
  match w.readBytes path with
  | .error e => .error (.file e)
  | .ok bytes =>
    match Text.Utf8.decode bytes with
    | .error e => .error (.encoding e)
    | .ok text => .ok (String.ofList (Text.unifyLineEnds text.toList))

end Workspace

end ReportPress
