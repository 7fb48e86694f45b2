/-
# A world of its own

A world holds a tree of files, a working directory in it, and the texts that were
written so far.  Commands run in it as in the system, and what they leave behind can
be looked at.
-/

import CurveSheet.Files.Tree
import CurveSheet.Host.Basic

namespace CurveSheet

open Files

/-- Files, a working directory and the texts written so far. -/
structure World where
  files : FileTree
  directory : Location
  output : String
  log : String
  deriving DecidableEq

namespace World

/-- The path of the working directory. -/
def directoryPath (world : World) : Path := ⟨slash :: joinSegments world.directory⟩

/-- Writes a text as the file at a path. -/
def writeText (world : World) (path : Path) (text : String) : Except FileFault Unit × World :=
  match world.files.writeText world.directory path text with
  | .ok files => (.ok (), { world with files })
  | .error fault => (.error fault, world)

instance : Host (StateM World) where
  directory := fun world => (world.directoryPath, world)
  readText path := fun world => (world.files.readText world.directory path, world)
  writeText path text := fun world => world.writeText path text
  isFile path := fun world => (world.files.isFile world.directory path, world)
  hasEntry path := fun world => (world.files.hasEntry world.directory path, world)
  output text := fun world => ((), { world with output := world.output ++ text })
  log text := fun world => ((), { world with log := world.log ++ text })

@[simp] theorem run_output (text : String) (world : World) :
    (Host.output text : StateM World Unit).run world =
      ((), { world with output := world.output ++ text }) := rfl

@[simp] theorem run_log (text : String) (world : World) :
    (Host.log text : StateM World Unit).run world =
      ((), { world with log := world.log ++ text }) := rfl

@[simp] theorem run_readText (path : Path) (world : World) :
    (Host.readText path : StateM World (Except FileFault String)).run world =
      (world.files.readText world.directory path, world) := rfl

/-- Writing that fails changes nothing. -/
theorem run_writeText_of_error {path : Path} {text : String} {world : World} {fault : FileFault}
    (h : world.files.writeText world.directory path text = .error fault) :
    (Host.writeText path text : StateM World (Except FileFault Unit)).run world =
      (.error fault, world) := by
  change world.writeText path text = _
  simp [writeText, h]

/-- Writing that succeeds changes the files and nothing else. -/
theorem run_writeText_of_ok {path : Path} {text : String} {world : World} {files : FileTree}
    (h : world.files.writeText world.directory path text = .ok files) :
    (Host.writeText path text : StateM World (Except FileFault Unit)).run world =
      (.ok (), { world with files }) := by
  change world.writeText path text = _
  simp [writeText, h]

end World
end CurveSheet
