/-!
# A small disk

Directories and files by path, and the few operations on them that settings need, with the errors
that they give. A path is a text whose parts are set apart by slashes; empty parts mean nothing, a
single dot stays where it is, and two dots lead one directory up. A path that does not begin at the
root begins at the working directory. What stands in front of a slash is a directory.
-/

namespace Telephony.Settings

inductive DiskError where
  | notFound
  | alreadyExists
  | notADirectory
  | isADirectory
  | nameTooLong
  | invalidName
  | notText
  deriving DecidableEq, Repr

namespace DiskError

def message : DiskError → String
  | notFound => "No such file or directory (os error 2)"
  | alreadyExists => "File exists (os error 17)"
  | notADirectory => "Not a directory (os error 20)"
  | isADirectory => "Is a directory (os error 21)"
  | nameTooLong => "File name too long (os error 36)"
  | invalidName => "file name contained an unexpected NUL byte"
  | notText => "stream did not contain valid UTF-8"

end DiskError

/-- Where something is: the names on the way from the root. -/
abbrev Location := List String

structure Disk where
  directories : List Location
  files : List (Location × ByteArray)
  working : Location

namespace Disk

inductive Item where
  | directory
  | file (content : ByteArray)

def item? (disk : Disk) (location : Location) : Option Item :=
  match disk.files.lookup location with
  | some content => some (.file content)
  | none =>
    if location.isEmpty || disk.directories.contains location then some .directory else none

/-- Where a part of a path leads from a directory. -/
def follow (start : Location) (part : String) : Except DiskError Location :=
  if part = "." then .ok start
  else if part = ".." then .ok start.dropLast
  else if 255 < part.utf8ByteSize then .error .nameTooLong
  else .ok (start ++ [part])

/-- Goes from a directory along some parts of a path. All but the last must be there, and be
directories. -/
def walk (disk : Disk) (start : Location) : List String → Except DiskError Location
  | [] => .ok start
  | part :: rest =>
    match disk.item? start with
    | none => .error .notFound
    | some (.file _) => .error .notADirectory
    | some .directory => do disk.walk (← follow start part) rest

def parts (path : String) : List String := (path.splitOn "/").filter (· != "")

/-- The place that a path leads to, whether or not anything is there. -/
def locate (disk : Disk) (path : String) : Except DiskError Location :=
  if path.contains '\x00' then .error .invalidName
  else disk.walk (if path.startsWith "/" then [] else disk.working) (parts path)

def open? (disk : Disk) (path : String) : Except DiskError Item := do
  let location ← disk.locate path
  match disk.item? location with
  | some .directory => .ok .directory
  | some (.file content) =>
    if path.endsWith "/" then .error .notADirectory else .ok (.file content)
  | none => .error .notFound

def pathExists (disk : Disk) (path : String) : Bool :=
  match disk.open? path with
  | .ok _ => true
  | .error _ => false

def isDirectory (disk : Disk) (path : String) : Bool :=
  match disk.open? path with
  | .ok .directory => true
  | _ => false

/-- The item right above a location must be a directory. -/
def checkAbove (disk : Disk) (location : Location) : Except DiskError Unit :=
  match disk.item? location.dropLast with
  | some .directory => .ok ()
  | some (.file _) => .error .notADirectory
  | none => .error .notFound

def makeDirectory (disk : Disk) (path : String) : Except DiskError Disk := do
  let location ← disk.locate path
  disk.checkAbove location
  match disk.item? location with
  | some _ => .error .alreadyExists
  | none => .ok { disk with directories := location :: disk.directories }

/-- The path without its last part; the root and the empty path have nothing above them. -/
def parent? (path : String) : Option String :=
  let kept := path.toList.reverse.dropWhile (· == '/')
  let above := kept.dropWhile (· != '/')
  if kept.isEmpty then none
  else
    let trimmed := above.dropWhile (· == '/')
    some (if trimmed.isEmpty && !above.isEmpty then "/" else String.ofList trimmed.reverse)

/-- Makes a directory and those above it that are missing. That it is there already is no error. -/
def makeDirectories : Nat → Disk → String → Except DiskError Disk
  | 0, _, _ => .error .notFound
  | fuel + 1, disk, path =>
    if path = "" then .ok disk
    else
      match disk.makeDirectory path with
      | .ok disk => .ok disk
      | .error .notFound => do
        match parent? path with
        | none => .error .notFound
        | some above =>
          let disk ← makeDirectories fuel disk above
          if disk.isDirectory path then .ok disk else disk.makeDirectory path
      | .error error => if disk.isDirectory path then .ok disk else .error error

/-- Makes a directory with all that are above it. -/
def ensureDirectory (disk : Disk) (path : String) : Except DiskError Disk :=
  makeDirectories (path.length + 1) disk path

def write (disk : Disk) (path : String) (content : ByteArray) : Except DiskError Disk := do
  let location ← disk.locate path
  disk.checkAbove location
  match disk.item? location, path.endsWith "/" with
  | some .directory, _ | _, true => .error .isADirectory
  | _, false => .ok { disk with
      files := (location, content) :: disk.files.filter (·.1 != location) }

def readText (disk : Disk) (path : String) : Except DiskError String := do
  match ← disk.open? path with
  | .directory => .error .isADirectory
  | .file content =>
    match String.fromUTF8? content with
    | some text => .ok text
    | none => .error .notText

end Disk

end Telephony.Settings
