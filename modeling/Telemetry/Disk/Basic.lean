import Telemetry.Disk.Path
import Telemetry.Text.Utf8

/-!
# Files

A disk holds files and has a working folder, which relative paths start from.
Every file has a location, the names that lead to it from the top.  A location is
a folder when it is known as one or when a file or a folder lies below it.

Contents are bytes.  A file that is written through several handles keeps what
each of them wrote last at every place.
-/

namespace Telemetry

/-- Why an operation on files or on an output failed. -/
inductive IoError where
  | notFound
  | notFolder
  | isFolder
  | nameTooLong
  | nulInPath
  | notText
  /-- The output accepts nothing. -/
  | brokenSink
deriving Repr, DecidableEq

def IoError.message : IoError → String
  | .notFound => "No such file or directory (os error 2)"
  | .notFolder => "Not a directory (os error 20)"
  | .isFolder => "Is a directory (os error 21)"
  | .nameTooLong => "File name too long (os error 36)"
  | .nulInPath => "file name contained an unexpected NUL byte"
  | .notText => "stream did not contain valid UTF-8"
  | .brokenSink => "sink is broken"

/-- The names that lead to a file or a folder from the top. -/
abbrev Location := List String

structure Disk where
  workingFolder : Location
  /-- Other folders, which may be empty. -/
  folders : List Location
  files : List (Location × List UInt8)
deriving Repr, DecidableEq

def bytesOfText (text : String) : List UInt8 :=
  text.toUTF8.toList

/-- The text that bytes encode, if they do. -/
def textOfBytes? (bytes : List UInt8) : Option String :=
  String.fromUTF8? ⟨bytes.toArray⟩

/-- Bytes written over others from a position on.  A gap before the position is
filled with zeros. -/
def overwrite (position : Nat) (written contents : List UInt8) : List UInt8 :=
  contents.take position ++ List.replicate (position - contents.length) 0 ++ written ++
    contents.drop (position + written.length)

namespace Disk

def contents? (disk : Disk) (location : Location) : Option (List UInt8) :=
  disk.files.lookup location

def isFolderAt (disk : Disk) (location : Location) : Bool :=
  (disk.workingFolder :: disk.folders).any location.isPrefixOf ||
    disk.files.any fun (other, _) => location.length < other.length ∧ location.isPrefixOf other

def existsAt (disk : Disk) (location : Location) : Bool :=
  (disk.contents? location).isSome || disk.isFolderAt location

def put (disk : Disk) (location : Location) (contents : List UInt8) : Disk :=
  { disk with
    files :=
      if (disk.contents? location).isSome then
        disk.files.map fun (other, old) => (other, if other = location then contents else old)
      else disk.files ++ [(location, contents)] }

/-- The longest name that a folder holds, in bytes. -/
def nameLimit : Nat := 255

/-- The longest path, in bytes. -/
def pathLimit : Nat := 4095

/-- The location that names lead to from a folder.  All of them must exist, and
all but the last must be folders.  Nothing lies above the top. -/
def walk (disk : Disk) (location : Location) : List String → Except IoError Location
  | [] => .ok location
  | name :: rest =>
      if !disk.isFolderAt location then .error .notFolder
      else if name = "." then disk.walk location rest
      else if name = ".." then disk.walk location.dropLast rest
      else if name.utf8ByteSize > nameLimit then .error .nameTooLong
      else if !disk.existsAt (location ++ [name]) then .error .notFound
      else disk.walk (location ++ [name]) rest

def checkPath (path : String) : Except IoError Unit :=
  if path.toList.contains '\x00' then .error .nulInPath
  else if path.isEmpty then .error .notFound
  else if path.utf8ByteSize > pathLimit then .error .nameTooLong
  else .ok ()

def origin (disk : Disk) (path : String) : Location :=
  if Path.isAbsolute path then [] else disk.workingFolder

/-- A path ends with a slash, and so can only mean a folder. -/
def endsWithSlash (path : String) : Bool :=
  path.toList.getLast? == some '/'

def locate (disk : Disk) (path : String) : Except IoError Location := do
  checkPath path
  disk.walk (disk.origin path) (Path.names path ++ if endsWithSlash path then ["."] else [])

def isFile (disk : Disk) (path : String) : Bool :=
  match disk.locate path with
  | .ok location => !disk.isFolderAt location
  | .error _ => false

def isFolder (disk : Disk) (path : String) : Bool :=
  match disk.locate path with
  | .ok location => disk.isFolderAt location
  | .error _ => false

def readAt (disk : Disk) (location : Location) : Except IoError String :=
  if disk.isFolderAt location then .error .isFolder
  else
    match disk.contents? location with
    | none => .error .notFound
    | some bytes =>
        match textOfBytes? bytes with
        | none => .error .notText
        | some text => .ok text

def read (disk : Disk) (path : String) : Except IoError String := do
  disk.readAt (← disk.locate path)

/-- Make an empty file, or empty one that exists.  The folder it lies in must
exist. -/
def create (disk : Disk) (path : String) : Except IoError (Location × Disk) := do
  checkPath path
  let names := Path.names path
  let folder ← disk.walk (disk.origin path) names.dropLast
  if !disk.isFolderAt folder then throw .notFolder
  match names.getLast? with
  | none => throw .isFolder
  | some name =>
      if name = "." ∨ name = ".." then throw .isFolder
      if endsWithSlash path then throw .isFolder
      if name.utf8ByteSize > nameLimit then throw .nameTooLong
      let location := folder ++ [name]
      if disk.isFolderAt location then throw .isFolder
      return (location, disk.put location [])

def writeAt (disk : Disk) (location : Location) (position : Nat) (written : List UInt8) :
    Disk :=
  disk.put location (overwrite position written ((disk.contents? location).getD []))

/-- The files below a folder, by the names that lead to them from there. -/
def filesBelow (disk : Disk) (folder : Location) : List Location :=
  disk.files.filterMap fun (location, _) =>
    if folder.length < location.length ∧ folder.isPrefixOf location then
      some (location.drop folder.length)
    else none

/-- The files below the working folder by their paths, with contents that are
shown as text. -/
def texts (disk : Disk) : List (String × String) :=
  (disk.filesBelow disk.workingFolder).map fun names =>
    let contents := (disk.contents? (disk.workingFolder ++ names)).getD []
    ("/".intercalate names, String.ofList (Text.decodeLossy contents))

/-- The disk that holds given texts under given paths in its working folder. -/
def ofTexts (workingFolder : Location) (texts : List (String × String)) : Disk where
  workingFolder := workingFolder
  folders := []
  files := texts.map fun (path, text) => (workingFolder ++ Path.names path, bytesOfText text)

end Disk

end Telemetry
