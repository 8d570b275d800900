import HomeEnergy.Text.Utf8

/-!
# Disks

A file system that is a value: files, folders and a few devices, and how a path finds
its way among them.

A path is walked name by name, from the root if it begins with a slash and from the
working folder otherwise.  Every step needs a folder to start from, a single dot stays
there, two dots lead to the folder around it (the root is around itself), and no name
and no path may be too long.  The last name need not exist when a file is written.  A
path that ends in a slash means a folder, and no folder can be read or written.
-/

namespace HomeEnergy

/-- Why a file cannot be read or written. -/
inductive FileError
  | notFound
  | isDirectory
  /-- Something else stands where the path needs a directory. -/
  | notDirectory
  /-- The path, or a name in it, has too many bytes. -/
  | nameTooLong
  /-- The path holds the character U+0000. -/
  | notPath
  /-- The device has no room. -/
  | noSpace
  /-- The file's bytes are not UTF-8. -/
  | notText
  deriving Repr, DecidableEq

/-- The text of a file error. -/
def FileError.message : FileError → String
  | .notFound => "No such file or directory (os error 2)"
  | .isDirectory => "Is a directory (os error 21)"
  | .notDirectory => "Not a directory (os error 20)"
  | .nameTooLong => "File name too long (os error 36)"
  | .notPath => "file name contained an unexpected NUL byte"
  | .noSpace => "No space left on device (os error 28)"
  | .notText => "stream did not contain valid UTF-8"

/-- A name in a path. -/
abbrev Name := List Char

/-- Where something is: its name, the name of the folder around it, and so on up to the
root, which has no name. -/
abbrev Place := List Name

/-- What stands on a disk beside files and folders. -/
inductive Device
  /-- Takes every write and keeps nothing. -/
  | null
  /-- Refuses every write. -/
  | full
  | standardInput
  | standardOutput
  | standardError
  deriving Repr, DecidableEq

/-- What stands at a place. -/
inductive Entry
  | folder
  | file (bytes : List UInt8)
  | device (device : Device)
  deriving Repr, DecidableEq

/-- What stands on a disk, and the working folder.  Around everything there are folders,
whether they are listed or not. -/
structure Disk where
  entries : List (Place × Entry) := []
  work : Place := []
  deriving Inhabited

namespace Disk

/-- The name that stays in a folder. -/
def here : Name := ['.']

/-- The name that leads to the folder around a folder. -/
def around : Name := ['.', '.']

/-- The greatest number of bytes in a name. -/
def longestName : Nat := 255

/-- The greatest number of bytes in a path. -/
def longestPath : Nat := 4095

/-- What stands at a place, if anything does. -/
def at? (disk : Disk) (place : Place) : Option Entry :=
  match disk.entries.lookup place with
  | some entry => some entry
  | none =>
    if place.isSuffixOf disk.work || disk.entries.any (place.isSuffixOf ·.1) then some .folder
    else none

/-- Where a name leads from a place. -/
def step (disk : Disk) (place : Place) (name : Name) : Except FileError Place :=
  match disk.at? place with
  | none => .error .notFound
  | some .folder =>
    if name = here then .ok place
    else if name = around then .ok place.tail
    else if longestName < (Text.Utf8.encode name).length then .error .nameTooLong
    else .ok (name :: place)
  | some _ => .error .notDirectory

/-- The names in a path, in order. -/
def names (path : String) : List Name := (path.toList.splitOn '/').filter (· ≠ [])

/-- Whether a path ends in a slash. -/
def isFolderPath (path : String) : Bool := path.toList.getLast? == some '/'

/-- Where these names of a path lead. -/
def walk (disk : Disk) (path : String) (names : List Name) : Except FileError Place :=
  if path.toList.contains '\x00' then .error .notPath
  else if path.isEmpty then .error .notFound
  else if longestPath < path.utf8ByteSize then .error .nameTooLong
  else names.foldlM disk.step (if path.toList.head? = some '/' then [] else disk.work)

/-- What a path leads to for reading. -/
def find (disk : Disk) (path : String) : Except FileError Entry := do
  let place ← disk.walk path (names path ++ if isFolderPath path then [here] else [])
  match disk.at? place with
  | none => throw .notFound
  | some .folder => throw .isDirectory
  | some entry => return entry

/-- Where a path leads for writing, and what stands there, a new file being empty.  The
name before a slash at the end does not matter. -/
def create (disk : Disk) (path : String) : Except FileError (Place × Entry) := do
  let place ← disk.walk path
    (if isFolderPath path then (names path).dropLast ++ [here] else names path)
  match disk.at? place with
  | none => return (place, .file [])
  | some .folder => throw .isDirectory
  | some entry => return (place, entry)

/-- The disk with a file of these bytes at a place. -/
def put (disk : Disk) (place : Place) (bytes : List UInt8) : Disk :=
  { disk with entries := (place, .file bytes) :: disk.entries.filter (·.1 ≠ place) }

/-- The bytes that a path leads to; there are none in a device. -/
def read (disk : Disk) (path : String) : Except FileError (List UInt8) := do
  match ← disk.find path with
  | .file bytes => return bytes
  | _ => return []

/-- The disk after bytes have been written where a path leads. -/
def write (disk : Disk) (path : String) (bytes : List UInt8) : Except FileError Disk := do
  match ← disk.create path with
  | (_, .device .full) => throw .noSpace
  | (place, .file _) => return disk.put place bytes
  | _ => return disk

/-- The text of these bytes. -/
def textOf (bytes : List UInt8) : Except FileError String :=
  match Text.Utf8.decode? bytes with
  | some text => .ok (String.ofList text)
  | none => .error .notText

/-- The place of a path from the root. -/
def placeOf (path : String) : Place := (names path).reverse

/-- The folders that stand at the root of every system. -/
def systemFolders : List String :=
  ["/bin", "/boot", "/dev", "/etc", "/home", "/lib", "/media", "/mnt", "/opt", "/proc",
   "/root", "/run", "/sbin", "/srv", "/sys", "/tmp", "/usr", "/var"]

/-- The devices of every system. -/
def systemDevices : List (String × Device) :=
  [("/dev/null", .null), ("/dev/full", .full), ("/dev/stdin", .standardInput),
   ("/dev/stdout", .standardOutput), ("/dev/stderr", .standardError)]

/-- The disk of a system whose working folder, a temporary one, holds these files. -/
def withFiles (files : List (String × List UInt8)) : Disk :=
  let work := placeOf "/tmp/work"
  { entries :=
      files.map (fun file => (placeOf file.1 ++ work, .file file.2))
        ++ systemDevices.map (fun device => (placeOf device.1, .device device.2))
        ++ systemFolders.map (fun path => (placeOf path, .folder))
    work }

end Disk

end HomeEnergy
