/-
# What is given on a command line

Values are looked at when they are put in their places: a path must not be empty, a
number of pixels must be an integer that 32 bits hold, a shell must be a known one,
and whatever may be given once must not be there already.  Only colours, formulas
and `verbose` may be given more than once.
-/

import CurveSheet.CommandLine.Form
import CurveSheet.CommandLine.Usage
import CurveSheet.Files.Path
import CurveSheet.Number.Reading

namespace CurveSheet
namespace CommandLine

open Files

/-- What is given. -/
structure Given where
  verbose : Nat := 0
  force : Bool := false
  noGrid : Bool := false
  colours : List String := []
  xMin : Option String := none
  xMax : Option String := none
  yMin : Option String := none
  yMax : Option String := none
  session : Option Path := none
  output : Option Path := none
  width : Option UInt32 := none
  height : Option UInt32 := none
  words : List String := []
  deriving DecidableEq

/-- `verbose` counts no further than this. -/
def maxVerbose : Nat := 255

/-- The shells that have completions. -/
def shells : List String := ["bash", "elvish", "fish", "powershell", "zsh"]

/-- A place that may be filled once, with a value that may be wrong. -/
def fillOnce {α : Type} (place : Option α) (value : Except Usage α) : Except Usage (Option α) :=
  match place with
  | some _ => .error .repeated
  | none => value.map some

/-- A path; it must not be empty. -/
def readPath (value : String) : Except Usage Path :=
  if value.isEmpty then .error .invalidValue else .ok (.ofText value)

/-- A number of pixels, perhaps with a sign. -/
def readPixels (value : String) : Except Usage UInt32 :=
  let (negative, digits) := splitSign value.toList
  let n := digitsValue digits
  if digits.isEmpty || !digits.all isDigit || (negative && n != 0) then .error .notInRange
  else if n < 2 ^ 32 then .ok (UInt32.ofNat n)
  else .error .notInRange

/-- What is given, with one more value of a setting. -/
def Given.set (given : Given) (setting : Setting) (value : String) : Except Usage Given :=
  match setting with
  | .colour => .ok { given with colours := given.colours ++ [value] }
  | .xMin => (fillOnce given.xMin (.ok value)).map fun xMin => { given with xMin }
  | .xMax => (fillOnce given.xMax (.ok value)).map fun xMax => { given with xMax }
  | .yMin => (fillOnce given.yMin (.ok value)).map fun yMin => { given with yMin }
  | .yMax => (fillOnce given.yMax (.ok value)).map fun yMax => { given with yMax }
  | .session => (fillOnce given.session (readPath value)).map fun session => { given with session }
  | .output => (fillOnce given.output (readPath value)).map fun output => { given with output }
  | .width => (fillOnce given.width (readPixels value)).map fun width => { given with width }
  | .height => (fillOnce given.height (readPixels value)).map fun height => { given with height }

/-- What is given, with one more flag. -/
def Given.raise (given : Given) : Flag → Except Usage Given
  | .verbose => .ok { given with verbose := min maxVerbose (given.verbose + 1) }
  | .help => .error .help
  | .version => .error .version
  | .force => if given.force then .error .repeated else .ok { given with force := true }
  | .noGrid => if given.noGrid then .error .repeated else .ok { given with noGrid := true }

/-- What is given, with one more word. -/
def Given.add (given : Given) (words : Words) (word : String) : Except Usage Given :=
  let added : Given := { given with words := given.words ++ [word] }
  match words with
  | .directory => if word.isEmpty then .error .invalidValue else .ok added
  | .shell => if shells.contains word then .ok added else .error .invalidValue
  | _ => .ok added

end CommandLine
end CurveSheet
