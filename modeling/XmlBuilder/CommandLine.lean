import XmlBuilder.Directory
import XmlBuilder.Generate

/-!
The command line: it names a document and a class, and the class is written to a file of the
current directory. Nothing is written unless everything before has succeeded. Two things are left
to do then, telling where the file is and printing this, and they can fail too.
-/
namespace XmlBuilder.CommandLine

/-- The arguments of a command. -/
structure Invocation where
  input : String
  className : String
  verbosity : Nat
  deriving DecidableEq, Repr

/-- What a command meets outside. A reason stands for what cannot be done. -/
structure Host where
  /-- The text of the file that a path leads to. -/
  read : String → Except String String
  /-- Whether a file of the current directory can be written under a name. -/
  write : String → Except String Unit
  /-- The path of the current directory. -/
  place : Except String String
  /-- Whether something can be printed. -/
  stdout : Except String Unit
  /-- Whether a message can be given. -/
  stderr : Except String Unit

/-- What an invocation gives for its input, a class or a message, and what there is to log. -/
def Invocation.classFile (invocation : Invocation) (input : Except String String) :
    Except String ClassFile × List Diagnostic :=
  match input with
  | .error reason =>
    (.error ("failed to read input file " ++ invocation.input ++ ": " ++ reason), [])
  | .ok document =>
    match generateLogged .standard invocation.className document with
    | (.ok file, log) => (.ok file, log)
    | (.error error, log) =>
      (.error ("failed to translate " ++ invocation.input ++ ": " ++ error.description), log)

/-- Why the file called `name` was not written. -/
def writeFailure (name reason : String) : String :=
  "failed to write output file " ++ name ++ ": " ++ reason

/-- Why it is not known where the file called `name` is. -/
def placeFailure (name reason : String) : String :=
  "failed to resolve output path " ++ name ++ ": " ++ reason

/-- The path of what is called `name` in the directory at `place`. -/
def absolute (place name : String) : String :=
  if place.endsWith "/" then place ++ name else place ++ "/" ++ name

/-- Says that the file called `name` was written in the directory at `place`. -/
def report (place name : String) : String :=
  "Wrote file " ++ absolute place name ++ "\n"

/-- A message of the program about a failure. -/
def failureText (message : String) : String :=
  "xmlgg: " ++ message ++ "\n"

/-- What is said when nothing can be printed. -/
def panicText (reason : String) : String :=
  "failed printing to stdout: " ++ reason ++ "\n"

/-- The exit status after a failure that there is a message for. -/
def failureStatus : UInt32 := 1

/-- The exit status when a stream does not take what is printed. -/
def panicStatus : UInt32 := 101

/-- What a command leaves behind. -/
structure Outcome where
  status : UInt32
  stdout : String
  /-- The message of a failed run. -/
  stderr : Option String
  directory : Directory
  deriving DecidableEq, Repr

/-- Ends with a message about a failure, as far as it can be given. -/
def Host.fail (host : Host) (message : String) (directory : Directory) : Outcome :=
  match host.stderr with
  | .ok () => ⟨failureStatus, "", some (failureText message), directory⟩
  | .error _ => ⟨panicStatus, "", none, directory⟩

/-- Ends with what is printed. -/
def Host.finish (host : Host) (text : String) (directory : Directory) : Outcome :=
  match host.stdout, host.stderr with
  | .ok (), _ => ⟨0, text, none, directory⟩
  | .error reason, .ok () => ⟨panicStatus, "", some (panicText reason), directory⟩
  | .error _, .error _ => ⟨panicStatus, "", none, directory⟩

/-- What is left to do when the file called `name` has been written. -/
def Host.tell (host : Host) (name : String) (directory : Directory) : Outcome :=
  match host.place with
  | .error reason => host.fail (placeFailure name reason) directory
  | .ok place => host.finish (report place name) directory

/-- What an invocation leaves behind in the current directory. -/
def Invocation.outcome (invocation : Invocation) (host : Host) (directory : Directory) : Outcome :=
  match (invocation.classFile (host.read invocation.input)).1 with
  | .error message => host.fail message directory
  | .ok file =>
    match host.write file.name.fileName with
    | .error reason => host.fail (writeFailure file.name.fileName reason) directory
    | .ok () =>
      host.tell file.name.fileName (directory.writeText file.name.fileName file.source)

/-- A host on which the files are those of a directory at `place`, and all else can be done. -/
def Host.ofDirectory (place : String) (directory : Directory) : Host where
  read path := (directory.readText path).mapError FileError.message
  write name := (directory.refusal? name).elim (.ok ()) fun error => .error error.message
  place := .ok place
  stdout := .ok ()
  stderr := .ok ()

end XmlBuilder.CommandLine
