/-
# Why a command line runs no command

A command line either asks for help or for the version, or is wrong.  The first is no
failure and ends with exit code 0, the second with 2.
-/

namespace CurveSheet
namespace CommandLine

/-- Why a command line runs no command. -/
inductive Usage where
  | help
  | version
  /-- Nothing is given at all. -/
  | nothingGiven
  | missingCommand
  | unknownCommand
  | unknownArgument
  | missingArgument
  /-- A setting without its value, or with one that it cannot have. -/
  | invalidValue
  /-- A value that is not a number of the right size. -/
  | notInRange
  /-- A flag with a value. -/
  | unexpectedValue
  /-- Something given twice that may be given once. -/
  | repeated
  deriving DecidableEq

/-- The name and version of the program. -/
def versionText : String := "fplot 0.4.0\n"

namespace Usage

/-- The exit code. -/
def exitCode : Usage → Nat
  | help => 0
  | version => 0
  | _ => 2

end Usage
end CommandLine
end CurveSheet
