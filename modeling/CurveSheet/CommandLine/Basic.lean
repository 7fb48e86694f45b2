/-
# Command lines

A command line has flags, the name of a command, and what that command takes.  The
name `help` asks for help, about the commands that are named behind it.  `verbose`
may be given on both sides of the name; what is given behind it counts, if anything.
-/

import CurveSheet.Command.Draw
import CurveSheet.Command.Init
import CurveSheet.CommandLine.Scan

namespace CurveSheet
namespace CommandLine

open Command

/-- A command and what is given for it. -/
inductive Request where
  | draw (arguments : DrawArguments)
  | check (arguments : Input)
  | normalize (formulas : List String)
  | init (arguments : InitArguments)
  | completions (shell : String)
  deriving DecidableEq

/-- A command, and how much of its work it should tell. -/
structure Invocation where
  verbose : Nat
  request : Request
  deriving DecidableEq

/-- The input that is given. -/
def Given.input (given : Given) : Input :=
  ⟨given.words, given.colours, given.xMin, given.xMax, given.yMin, given.yMax, given.session⟩

/-- The request that is given for a command; some commands cannot do without a word. -/
def Given.request (given : Given) : CommandName → Except Usage Request
  | .draw =>
    .ok (.draw ⟨given.input, given.output, given.width, given.height, given.noGrid⟩)
  | .check => .ok (.check given.input)
  | .normalize =>
    if given.words.isEmpty then .error .missingArgument else .ok (.normalize given.words)
  | .init => .ok (.init ⟨.ofText (given.words.headD "."), given.force⟩)
  | .completions =>
    match given.words with
    | [] => .error .missingArgument
    | shell :: _ => .ok (.completions shell)

/-- What is asked for behind the name of a command. -/
def invocation (verbose : Nat) (name : CommandName) (arguments : List String) :
    Except Usage Invocation :=
  match Scan.arguments name.form {} arguments with
  | .error usage => .error usage
  | .ok given => (given.request name).map fun request =>
      ⟨if given.verbose = 0 then verbose else given.verbose, request⟩

/-- The name stands for a command or for help. -/
def isName (text : String) : Bool := text == "help" || (CommandName.ofText? text).isSome

/-- Help about the commands that are named behind `help`; only `help` has commands of its own,
and none of them has. -/
def helpAbout : List String → Usage
  | [] => .help
  | [name] => if isName name then .help else .unknownCommand
  | _ => .unknownCommand

/-- No command is named. -/
def withoutName (verbose : Nat) : Usage := if verbose = 0 then .nothingGiven else .missingCommand

/-- Reads the arguments up to the name of a command, and those behind it for the command. -/
def parseFrom (scan : Scan) : List String → Except Usage Invocation
  | [] => .error (withoutName scan.given.verbose)
  | text :: rest =>
    if scan.onlyWords then .error (if isName text then .unknownArgument else .unknownCommand)
    else if text = "help" then .error (helpAbout rest)
    else match CommandName.ofText? text with
      | some name => invocation scan.given.verbose name rest
      | none =>
        if Scan.isDashed text then
          match scan.fresh .top text with
          | .error usage => .error usage
          | .ok next => parseFrom next rest
        else .error .unknownCommand

/-- Reads a command line. -/
def parse (arguments : List String) : Except Usage Invocation := parseFrom {} arguments

end CommandLine
end CurveSheet
