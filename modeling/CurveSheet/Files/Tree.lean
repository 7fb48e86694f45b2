/-
# A tree of files

Files and directories lie at *locations*, the names on the way from the root.  A
path leads to a location step by step: every step but the last must be at a
directory that is there, a step `..` goes back, no name may be too long, and a
slash at the end wants a directory.  A file that is written is created or
replaced, in a directory that is there.
-/

import CurveSheet.Files.Fault
import CurveSheet.Files.Path

namespace CurveSheet
namespace Files

/-- The names on the way from the root. -/
abbrev Location := List Segment

/-- Bytes are compared as the core library does also where a larger one is imported. -/
instance (priority := 2000) byteArrayDecidableEq : DecidableEq ByteArray :=
  ByteArray.instDecidableEq

/-- What a file holds. -/
inductive FileContent where
  | text (s : String)
  /-- Bytes that are no text. -/
  | bytes (b : ByteArray)
  deriving DecidableEq

/-- What bytes are. -/
def FileContent.ofBytes (b : ByteArray) : FileContent :=
  match String.fromUTF8? b with
  | some s => .text s
  | none => .bytes b

/-- What lies at a location. -/
inductive Entry where
  | file (content : FileContent)
  | directory
  deriving DecidableEq

/-- What lies where; the first of several entries for one location counts. -/
structure FileTree where
  entries : List (Location × Entry)
  deriving DecidableEq

namespace FileTree

/-- What lies at a location; the root is always a directory. -/
def entryAt? (tree : FileTree) (place : Location) : Option Entry :=
  if place = [] then some .directory else tree.entries.lookup place

/-- Puts something at a location, in the place of what was there. -/
def put (tree : FileTree) (place : Location) (entry : Entry) : FileTree :=
  ⟨(place, entry) :: tree.entries.filter (·.1 != place)⟩

theorem entryAt?_put (tree : FileTree) (place : Location) (entry : Entry) (h : place ≠ []) :
    (tree.put place entry).entryAt? place = some entry := by
  simp [put, entryAt?, h]

theorem entryAt?_put_of_ne (tree : FileTree) {place other : Location} (entry : Entry)
    (h : other ≠ place) : (tree.put place entry).entryAt? other = tree.entryAt? other := by
  unfold entryAt? put
  split
  · rfl
  · have hb : (other == place) = false := by simpa using h
    simp only [List.lookup_cons, hb]
    induction tree.entries with
    | nil => rfl
    | cons first rest ih =>
      obtain ⟨spot, held⟩ := first
      by_cases hf : spot = place
      · simp [List.lookup_cons, hf, hb, ih]
      · simp only [List.filter_cons, bne_iff_ne, ne_eq, hf, not_false_eq_true, ↓reduceIte,
          List.lookup_cons, ih]

/-- The location is that of a directory. -/
def enter (tree : FileTree) (place : Location) : Except FileFault Unit :=
  match tree.entryAt? place with
  | some .directory => .ok ()
  | some (.file _) => .error .notADirectory
  | none => .error .notFound

/-- The location one step from another. -/
def stepFrom (place : Location) (segment : Segment) : Location :=
  if isIdle segment then place
  else if segment = [dot, dot] then place.dropLast
  else place ++ [segment]

/-- The location to which segments lead from another. -/
def follow (tree : FileTree) (place : Location) : List Segment → Except FileFault Location
  | [] => .ok place
  | segment :: rest =>
    match tree.enter place with
    | .ok _ =>
      if isTooLong segment then .error .nameTooLong
      else follow tree (stepFrom place segment) rest
    | .error fault => .error fault

/-- The location from which a path starts. -/
def startOf (directory : Location) (path : List UInt8) : Location :=
  if isAbsolute path then [] else directory

/-- What is wrong with a path wherever it leads. -/
def pathFault? (path : List UInt8) : Option FileFault :=
  if 0 ∈ path then some .nulInPath
  else if path.isEmpty then some .notFound
  else if pathLimit ≤ path.length then some .nameTooLong
  else none

/-- What lies at a path in a working directory. -/
def find (tree : FileTree) (directory : Location) (path : Path) : Except FileFault Entry :=
  match pathFault? path.bytes with
  | some fault => .error fault
  | none =>
    match tree.follow (startOf directory path.bytes) (segments path.bytes) with
    | .error fault => .error fault
    | .ok place =>
      match tree.entryAt? place with
      | some entry => .ok entry
      | none => .error .notFound

/-- The text of the file at a path. -/
def readText (tree : FileTree) (directory : Location) (path : Path) : Except FileFault String :=
  match tree.find directory path with
  | .error fault => .error fault
  | .ok .directory => .error .isADirectory
  | .ok (.file (.text s)) => .ok s
  | .ok (.file (.bytes _)) => .error .notText

/-- There is a file at a path. -/
def isFile (tree : FileTree) (directory : Location) (path : Path) : Bool :=
  match tree.find directory path with
  | .ok (.file _) => true
  | _ => false

/-- There is something at a path. -/
def hasEntry (tree : FileTree) (directory : Location) (path : Path) : Bool :=
  (tree.find directory path).isOk

/-- The location of the file that is to be written under a name in a directory; with a slash
behind it the name is that of no file. -/
def targetIn (tree : FileTree) (parent : Location) (name : Segment) (slash : Bool) :
    Except FileFault Location :=
  match tree.enter parent with
  | .error fault => .error fault
  | .ok _ =>
    if isIdle name ∨ name = [dot, dot] ∨ slash = true then .error .isADirectory
    else if isTooLong name then .error .nameTooLong
    else if tree.entryAt? (parent ++ [name]) = some .directory then .error .isADirectory
    else .ok (parent ++ [name])

/-- The location of the file that is to be written at a path. -/
def target (tree : FileTree) (directory : Location) (path : Path) : Except FileFault Location :=
  match pathFault? path.bytes with
  | some fault => .error fault
  | none =>
    let parts := (segments path.bytes).reverse
    match parts.dropWhile (·.isEmpty) with
    | [] => .error .isADirectory
    | name :: before =>
      match tree.follow (startOf directory path.bytes) before.reverse with
      | .error fault => .error fault
      | .ok parent => tree.targetIn parent name (parts.head? = some [])

/-- The tree with a text as the file at a path. -/
def writeText (tree : FileTree) (directory : Location) (path : Path) (text : String) :
    Except FileFault FileTree :=
  (tree.target directory path).map fun place => tree.put place (.file (.text text))

end FileTree
end Files
end CurveSheet
