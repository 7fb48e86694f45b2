/-
# What commands need of their host

A command reads and writes files by their paths and writes text to two places: its
result to the output, and what it has to say about it to the log.  Any monad that
can do this hosts commands.
-/

import CurveSheet.Files.Fault
import CurveSheet.Files.Path
import CurveSheet.Terminal.Printer

namespace CurveSheet

open Files Terminal

/-- A monad in which commands run. -/
class Host (m : Type → Type) where
  /-- The path of the working directory. -/
  directory : m Path
  readText : Path → m (Except FileFault String)
  writeText : (path : Path) → (text : String) → m (Except FileFault Unit)
  /-- There is a file at a path. -/
  isFile : Path → m Bool
  /-- There is something at a path. -/
  hasEntry : Path → m Bool
  output : String → m Unit
  log : String → m Unit

namespace Host

variable {m : Type → Type} [Host m]

/-- Logs a line with a verb and a message. -/
def say (printer : Printer) (tone : Tone) (verb message : String) : m Unit :=
  log (printer.line tone verb message)

end Host
end CurveSheet
