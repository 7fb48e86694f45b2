/-
# The program

The program reads its command line and runs the command that it names, with the
system as its host.  It ends with exit code 0 if the command succeeds, with 1 if it
fails, and with the code of the usage if there is no command to run.
-/

import CurveSheet.Command.Run
import CurveSheet.Files.Tree

namespace CurveSheet

open Files Terminal CommandLine

/-- The number that the system has for a fault; some operations turn its sign. -/
def faultNumber (code : UInt32) : Nat := min code.toNat (2 ^ 32 - code.toNat)

/-- The fault with a number of the system, or any other with its words. -/
def faultWithNumber (code : UInt32) (message : String) : FileFault :=
  match faultNumber code with
  | 20 => .notADirectory
  | 21 => .isADirectory
  | 36 => .nameTooLong
  | _ => .other message

/-- The fault behind an error of the system. -/
def faultOf (error : IO.Error) : FileFault :=
  match error with
  | .noFileOrDirectory _ _ _ => .notFound
  | .inappropriateType _ code _ => faultWithNumber code (toString error)
  | .resourceExhausted _ code _ => faultWithNumber code (toString error)
  | .invalidArgument _ code _ => faultWithNumber code (toString error)
  | other => .other (toString other)

/-- Does something with a file; the system is asked only for files whose paths are texts. -/
def withPath {α : Type} (path : Path) (act : String → IO α) : IO (Except FileFault α) := do
  if Path.ofText path.text = path then
    match ← (act path.text).toBaseIO with
    | .ok a => pure (.ok a)
    | .error error => pure (.error (faultOf error))
  else pure (.error (.other "path is no text"))

/-- The bytes of a file. -/
def readBytes (path : Path) : IO (Except FileFault ByteArray) :=
  withPath path fun text => IO.FS.readBinFile text

/-- The text of a file. -/
def readFileText (path : Path) : IO (Except FileFault String) := do
  match ← readBytes path with
  | .error fault => pure (.error fault)
  | .ok bytes =>
    match FileContent.ofBytes bytes with
    | .text s => pure (.ok s)
    | .bytes _ => pure (.error .notText)

/-- Writes a file. -/
def writeFileText (path : Path) (text : String) : IO (Except FileFault Unit) :=
  withPath path fun place => IO.FS.writeFile place text

instance : Host IO where
  directory := do
    match ← IO.currentDir.toBaseIO with
    | .ok path => pure (.ofText path.toString)
    | .error _ => pure (.ofText "")
  readText := readFileText
  writeText := writeFileText
  isFile path := do
    match ← readBytes path with
    | .ok _ => pure true
    | .error _ => pure false
  hasEntry path := do
    match ← readBytes path with
    | .error .notFound => pure false
    | .error .notADirectory => pure false
    | .error .nameTooLong => pure false
    | _ => pure true
  output := IO.print
  log := IO.eprint

/-- What is said about a command line that runs no command. -/
def usageText : Usage → String
  | .version => versionText
  | .help => "Usage: fplot [OPTIONS] <draw|check|normalize|init|completions>\n"
  | _ => "error: bad usage, see fplot --help\n"

/-- Tells why no command is run. -/
def tellUsage (usage : Usage) : IO UInt32 := do
  if usage.exitCode = 0 then IO.print (usageText usage) else IO.eprint (usageText usage)
  pure (UInt32.ofNat usage.exitCode)

/-- Tells why a command failed. -/
def tellError (error : PlotError) : IO UInt32 := do
  IO.eprintln ("Error: " ++ error.code ++ "\n  " ++ error.message)
  match error.help with
  | some help => IO.eprintln ("  help: " ++ help)
  | none => pure ()
  pure 1

/-- Runs a command. -/
def runRequest (request : Request) : IO UInt32 := do
  let coloured ← (← IO.getStderr).isTty
  match ← (Command.run ⟨coloured⟩ request : ExceptT PlotError IO Unit).run with
  | .ok _ => pure 0
  | .error error => tellError error

end CurveSheet

open CurveSheet in
/-- Reads the command line and runs the command. -/
def main (arguments : List String) : IO UInt32 :=
  match CommandLine.parse arguments with
  | .error usage => tellUsage usage
  | .ok invocation => runRequest invocation.request
