/-!
A flat directory of files and the paths into it. A path is followed part by part, from the
directory or from a folder above it. A folder above has no file that could be read, and what is
written there leaves the directory as it is.
-/
namespace ClausalSearch

inductive FileError where
  | notFound
  | isDirectory
  | notDirectory
  | nameTooLong
  | invalidName
  | invalidText
  | other (message : String)
  deriving DecidableEq, Repr

def FileError.message : FileError → String
  | .notFound => "No such file or directory (os error 2)"
  | .isDirectory => "Is a directory (os error 21)"
  | .notDirectory => "Not a directory (os error 20)"
  | .nameTooLong => "File name too long (os error 36)"
  | .invalidName => "file name contained an unexpected NUL byte"
  | .invalidText => "stream did not contain valid UTF-8"
  | .other message => message

def decodeText (bytes : ByteArray) : Except FileError String :=
  match String.fromUTF8? bytes with
  | some text => .ok text
  | none => .error .invalidText

def maxNameBytes : Nat := 255

def maxPathBytes : Nat := 4095

/-- Where a path leads: to a folder, or to a name in the folder so many steps above. -/
inductive Place where
  | folder
  | file (above : Nat) (name : String)
  deriving DecidableEq, Repr

def pathParts (path : String) : List String :=
  ((path.toList.splitOn '/').filter (!·.isEmpty)).map String.ofList

def endsInSlash (path : String) : Bool := path.toList.getLast? == some '/'

structure Directory where
  files : List (String × ByteArray)

namespace Directory

def get? (d : Directory) (name : String) : Option ByteArray := d.files.lookup name

def find? (d : Directory) (above : Nat) (name : String) : Except FileError (Option ByteArray) :=
  if maxNameBytes < name.utf8ByteSize then .error .nameTooLong
  else .ok (if above = 0 then d.get? name else none)

def follow (d : Directory) (above : Nat) : List String → Except FileError Place
  | [] => return .folder
  | part :: rest =>
    if part = "." then d.follow above rest
    else if part = ".." then d.follow (above + 1) rest
    else if rest.isEmpty then return .file above part
    else do
      match ← d.find? above part with
      | some _ => throw .notDirectory
      | none => throw .notFound

def locate (d : Directory) (path : String) : Except FileError Place :=
  if path.toList.contains '\x00' then .error .invalidName
  else if path.isEmpty then .error .notFound
  else if maxPathBytes < path.utf8ByteSize then .error .nameTooLong
  else d.follow (if path.toList.head? = some '/' then 1 else 0) (pathParts path)

def read (d : Directory) (path : String) : Except FileError ByteArray := do
  match ← d.locate path with
  | .folder => throw .isDirectory
  | .file above name =>
    match ← d.find? above name with
    | none => throw .notFound
    | some bytes => if endsInSlash path then throw .notDirectory else return bytes

def readText (d : Directory) (path : String) : Except FileError String := do
  decodeText (← d.read path)

def put (d : Directory) (name : String) (bytes : ByteArray) : Directory :=
  if (d.get? name).isSome then
    ⟨d.files.map fun (other, old) => if other = name then (name, bytes) else (other, old)⟩
  else ⟨d.files ++ [(name, bytes)]⟩

/-- A name that ends in a slash is refused as a folder before it is looked up. -/
def write (d : Directory) (path : String) (text : String) : Except FileError Directory := do
  match ← d.locate path with
  | .folder => throw .isDirectory
  | .file above name =>
    if endsInSlash path then throw .isDirectory
    let _ ← d.find? above name
    return if above = 0 then d.put name text.toUTF8 else d

end Directory

end ClausalSearch
