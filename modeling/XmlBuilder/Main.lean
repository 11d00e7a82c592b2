import XmlBuilder.CommandLine

/-!
The program: files and streams around the command line.
-/

namespace XmlBuilder.Main

open CommandLine

/-- Why reading or writing failed, in the words of the program where it has some. -/
def reason : IO.Error → String
  | .noFileOrDirectory .. => FileError.missing.message
  | .inappropriateType _ code _ =>
    (if code == 21 then FileError.isDirectory else FileError.notDirectory).message
  | error => toString error

/-- What an action gives, or why it failed. -/
def attempt {α : Type} (action : IO α) : IO (Except String α) := do
  try
    return .ok (← action)
  catch error => return .error (reason error)

def readInput (path : String) : IO (Except String String) := do
  match ← attempt (IO.FS.readBinFile path) with
  | .error reason => return .error reason
  | .ok content =>
    match String.fromUTF8? content with
    | some text => return .ok text
    | none => return .error FileError.notUtf8.message

def fail (message : String) : IO UInt32 := do
  match ← attempt ((← IO.getStderr).putStr (failureText message)) with
  | .ok () => return failureStatus
  | .error _ => return panicStatus

def finish (text : String) : IO UInt32 := do
  match ← attempt ((← IO.getStdout).putStr text) with
  | .ok () => return 0
  | .error reason =>
    discard (attempt ((← IO.getStderr).putStr (panicText reason)))
    return panicStatus

/-- Logs what the verbosity asks for: warnings always, all else from two flags on. -/
def logDiagnostics (verbosity : Nat) (log : List Diagnostic) : IO Unit := do
  for diagnostic in log do
    match diagnostic.level with
    | .warn => IO.eprintln ("WARN " ++ diagnostic.message)
    | .debug => if 2 ≤ verbosity then IO.eprintln ("DEBUG " ++ diagnostic.message)
    | .span => pure ()

/-- Does what `Invocation.outcome` says. -/
def perform (invocation : Invocation) : IO UInt32 := do
  let (result, log) := invocation.classFile (← readInput invocation.input)
  logDiagnostics invocation.verbosity log
  match result with
  | .error message => fail message
  | .ok file =>
    let name := file.name.fileName
    match ← attempt (IO.FS.writeFile name file.source) with
    | .error reason => fail (writeFailure name reason)
    | .ok () =>
      match ← attempt IO.currentDir with
      | .error reason => fail (placeFailure name reason)
      | .ok place => finish (report place.toString name)

end XmlBuilder.Main

open XmlBuilder in
def main (args : List String) : IO UInt32 := do
  match args with
  | [input, className] => Main.perform ⟨input, className, 0⟩
  | _ =>
    IO.eprintln "Usage: xmlgg <INPUT> <CLASS_NAME>"
    return 2
