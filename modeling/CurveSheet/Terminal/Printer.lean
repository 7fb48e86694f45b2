/-
# Lines for a terminal

A line starts with a verb, right-aligned in twelve columns and in the colour of its
tone, followed by the message.  On a terminal without colours nothing is painted.
-/

namespace CurveSheet
namespace Terminal

/-- What a line is about. -/
inductive Tone where
  | done
  | note
  | caution
  | failure
  deriving DecidableEq

/-- Whether lines are painted. -/
structure Printer where
  coloured : Bool

/-- A printer that paints nothing. -/
def Printer.plain : Printer := ⟨false⟩

/-- Columns for the verb. -/
def verbWidth : Nat := 12

/-- The code that ends all painting. -/
def resetCode : String := "\x1b[0m"

/-- The code for bold text. -/
def boldCode : String := "\x1b[1m"

/-- The code for dim text. -/
def dimCode : String := "\x1b[2m"

/-- The code for the colour of a tone. -/
def Tone.code : Tone → String
  | done => "\x1b[32m"
  | note => "\x1b[36m"
  | caution => "\x1b[33m"
  | failure => "\x1b[31m"

/-- A text right-aligned in a number of columns, one for each character. -/
def alignRight (width : Nat) (text : String) : String :=
  String.ofList (List.replicate (width - text.length) ' ') ++ text

namespace Printer

/-- A text between codes and their reset. -/
def paint (printer : Printer) (codes text : String) : String :=
  if printer.coloured then codes ++ text ++ resetCode else text

/-- A dim text. -/
def dim (printer : Printer) (text : String) : String := printer.paint dimCode text

/-- A bold text in the colour of a tone. -/
def bold (printer : Printer) (tone : Tone) (text : String) : String :=
  printer.paint (boldCode ++ tone.code) text

/-- A line with a verb and a message. -/
def line (printer : Printer) (tone : Tone) (verb message : String) : String :=
  printer.bold tone (alignRight verbWidth verb) ++ " " ++ message ++ "\n"

end Printer

theorem Printer.line_plain (tone : Tone) (verb message : String) :
    Printer.plain.line tone verb message = alignRight verbWidth verb ++ " " ++ message ++ "\n" :=
  rfl

end Terminal
end CurveSheet
