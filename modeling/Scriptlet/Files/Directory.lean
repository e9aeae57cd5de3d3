import Scriptlet.Files.Path
import Scriptlet.Text.Encoding
import Scriptlet.Text.Quoted

/-!
# Files

Files as a program sees them: what a path leads to, the faults of reading it, and a working
directory whose files are all known.
-/

namespace Scriptlet

/-- What a path leads to. -/
inductive Entry where
  | missing
  /-- A component that is not the last one is a file. -/
  | belowFile
  | directory
  /-- The path or one of its components is longer than the file system allows. -/
  | nameTooLong
  /-- The way to it, or its content, may not be looked at. -/
  | denied
  | file (content : ByteArray)

/-- Why a path cannot be read. -/
inductive FileFault where
  | missing (path : String)
  | belowFile (path : String)
  | directory (path : String)
  | nameTooLong (path : String)
  | denied (path : String)
  | nulInPath
  | encoding (fault : Text.EncodingFault)
  deriving DecidableEq, Repr

namespace FileFault

def message : FileFault → String
  | missing path => "[Errno 2] No such file or directory: " ++ Text.quote path
  | belowFile path => "[Errno 20] Not a directory: " ++ Text.quote path
  | directory path => "[Errno 21] Is a directory: " ++ Text.quote path
  | nameTooLong path => "[Errno 36] File name too long: " ++ Text.quote path
  | denied path => "[Errno 13] Permission denied: " ++ Text.quote path
  | nulInPath => "embedded null byte"
  | encoding fault => fault.message

end FileFault

namespace Entry

def text (path : String) : Entry → Except FileFault String
  | missing => .error (.missing path)
  | belowFile => .error (.belowFile path)
  | directory => .error (.directory path)
  | nameTooLong => .error (.nameTooLong path)
  | denied => .error (.denied path)
  | file content =>
      match Text.Encoding.readText content with
      | .ok text => .ok text
      | .error fault => .error (.encoding fault)

end Entry

/-! ## A working directory -/

/-- A working directory: the paths of its files, each as components, and their contents. Of the
directories above it nothing is known but that they exist. -/
structure Directory where
  files : List (List (List Char) × ByteArray)

namespace Directory

/-- The greatest number of bytes of one component. -/
def componentLimit : Nat := 255

/-- The number of bytes from which on a whole path is too long. -/
def pathLimit : Nat := 4096

/-- The directory that holds the given files under their names. -/
def ofFiles (files : List (String × ByteArray)) : Directory :=
  ⟨files.map fun file => (Path.significant file.1.toList, file.2)⟩

/-- Where a walk along a path stands: in the working directory or below it, or outside. -/
inductive Location where
  | inside (way : List (List Char))
  | outside

/-- What the components of a path lead to, from a location on. -/
def walk (directory : Directory) : Location → List (List Char) → Entry
  | _, [] => .directory
  | .outside, component :: rest =>
      if component = ['.', '.'] then walk directory .outside rest
      else if componentLimit < (String.ofList component).utf8ByteSize then .nameTooLong
      else .missing
  | .inside way, component :: rest =>
      if component = ['.', '.'] then
        match way with
        | [] => walk directory .outside rest
        | _ :: _ => walk directory (.inside way.dropLast) rest
      else if componentLimit < (String.ofList component).utf8ByteSize then
        .nameTooLong
      else
        let place := way ++ [component]
        match directory.files.lookup place with
        | some content => if rest.isEmpty then .file content else .belowFile
        | none =>
            if directory.files.any fun file => place.isPrefixOf file.1 then
              walk directory (.inside place) rest
            else
              .missing

def entry (directory : Directory) (path : String) : Entry :=
  let letters := path.toList
  if pathLimit ≤ path.utf8ByteSize then .nameTooLong
  else
    walk directory (if Path.isAbsolute letters then .outside else .inside [])
      (Path.significant letters)

end Directory

end Scriptlet
