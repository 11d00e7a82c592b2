import XmlBuilder.Position
import XmlBuilder.Table

/-!
The files that a command can reach: those of a current directory, by their paths from there. Of
what lies outside, only the directories above are known.
-/
namespace XmlBuilder

abbrev Directory := Table Bytes

/-- Why a file cannot be read or written. -/
inductive FileError
  | missing | isDirectory | notDirectory | nameTooLong | notUtf8
  deriving DecidableEq, Repr

def FileError.message : FileError → String
  | .missing => "No such file or directory (os error 2)"
  | .isDirectory => "Is a directory (os error 21)"
  | .notDirectory => "Not a directory (os error 20)"
  | .nameTooLong => "File name too long (os error 36)"
  | .notUtf8 => "stream did not contain valid UTF-8"

/-- What stands at a path. -/
inductive Entry
  | file (content : Bytes)
  | directory
  deriving DecidableEq, Repr

namespace Directory

/-- The names that make up a path. -/
def steps (path : String) : List String :=
  (path.toList.splitOn '/').map String.ofList

/-- The most bytes that a name may have. -/
def maxNameSize : Nat := 255

/-- The most bytes that a path may have. -/
def maxPathSize : Nat := 4095

/-- What stands at the end of `place`, which holds no steps but names. -/
def entryAt? (directory : Directory) (place : List String) : Option Entry :=
  match List.find? (fun file => steps file.1 == place) directory with
  | some file => some (.file file.2)
  | none =>
    if place.isEmpty || directory.any fun file => place.isPrefixOf (steps file.1) then
      some .directory
    else none

/-- Follows `path` from `place`; above the current directory, where `place` is `none`, only steps
further up lead anywhere. -/
def follow (directory : Directory) (place : Option (List String)) :
    List String → Except FileError Entry
  | [] =>
    match place with
    | none => .ok .directory
    | some names => (directory.entryAt? names).elim (.error .missing) .ok
  | step :: path =>
    match place with
    | none =>
      if step == "" || step == "." || step == ".." then directory.follow none path
      else if maxNameSize < step.utf8ByteSize then .error .nameTooLong
      else .error .missing
    | some names =>
      match directory.entryAt? names with
      | none => .error .missing
      | some (.file _) => .error .notDirectory
      | some .directory =>
        if step == "" || step == "." then directory.follow place path
        else if step == ".." then
          directory.follow (if names.isEmpty then none else some names.dropLast) path
        else if maxNameSize < step.utf8ByteSize then .error .nameTooLong
        else directory.follow (some (names ++ [step])) path

/-- What stands at a path; one that begins with a slash leads outside. -/
def entry (directory : Directory) (path : String) : Except FileError Entry :=
  if maxPathSize < path.utf8ByteSize then .error .nameTooLong
  else
    match steps path with
    | "" :: rest => directory.follow none rest
    | path => directory.follow (some []) path

/-- The text of a file. -/
def readText (directory : Directory) (path : String) : Except FileError String :=
  match directory.entry path with
  | .error error => .error error
  | .ok .directory => .error .isDirectory
  | .ok (.file content) =>
    match String.fromUTF8? content.toByteArray with
    | some text => .ok text
    | none => .error .notUtf8

/-- Why no file of the current directory can be written under this name, if so. -/
def refusal? (directory : Directory) (name : String) : Option FileError :=
  if maxNameSize < name.utf8ByteSize then some .nameTooLong
  else if directory.entryAt? [name] = some .directory then some .isDirectory
  else none

/-- Writes a file of the current directory, over one that is there. -/
def writeText (directory : Directory) (name text : String) : Directory :=
  Table.insert name text.toUTF8.data.toList directory

end Directory
end XmlBuilder
