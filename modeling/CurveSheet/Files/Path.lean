/-
# Paths

A path is a row of segments with slashes between them.  Empty segments and the
segment `.` lead nowhere; the others are its *components*.  A path that starts with
a slash starts at the root, any other at the working directory.  Names and whole
paths are limited in their bytes, and these need not be those of a text.

A path under the working directory is shown by what follows the directory, as it
was written but without the slashes and dots at its ends; any other is shown as
it is.  What is shown is a text, so bytes that are no text are replaced in it.
-/

import CurveSheet.Text.Utf8

namespace CurveSheet
namespace Files

open Text

/-- A path: any bytes. -/
structure Path where
  bytes : List UInt8
  deriving DecidableEq

/-- The path that a text is. -/
def Path.ofText (text : String) : Path := ⟨Utf8.encode text.toList⟩

/-- A path as a text; bytes that are no text are replaced. -/
def Path.text (path : Path) : String := String.ofList (Utf8.decode path.bytes)

/-- A path has fewer bytes than these. -/
def pathLimit : Nat := 4096

/-- A name has at most these bytes. -/
def nameLimit : Nat := 255

/-- The byte between two segments. -/
def slash : UInt8 := 0x2F

/-- The byte of a segment that leads nowhere. -/
def dot : UInt8 := 0x2E

/-- What stands between two slashes of a path. -/
abbrev Segment := List UInt8

/-- The segments of a path. -/
def segments (path : List UInt8) : List Segment := path.splitOn slash

/-- The path that has some segments. -/
def joinSegments (parts : List Segment) : List UInt8 := [slash].intercalate parts

/-- The segment leads nowhere. -/
def isIdle (segment : Segment) : Bool := segment.isEmpty || segment == [dot]

/-- The segment has too many bytes for a name. -/
def isTooLong (segment : Segment) : Bool := nameLimit < segment.length

/-- The path starts at the root. -/
def isAbsolute (path : List UInt8) : Bool := path.head? == some slash

/-- The segments of a path that lead somewhere. -/
def components (path : List UInt8) : List Segment := (segments path).filter (!isIdle ·)

/-- The segments that follow some components, if the path starts with them. -/
def behind : (front : List Segment) → List Segment → Option (List Segment)
  | [], rest => some rest
  | _ :: _, [] => none
  | name :: others, segment :: rest =>
    if isIdle segment then behind (name :: others) rest
    else if segment = name then behind others rest
    else none

/-- Segments less the idle ones at both ends. -/
def trimIdle (parts : List Segment) : List Segment :=
  ((parts.dropWhile isIdle).reverse.dropWhile isIdle).reverse

/-- The path from a directory to another path, if that lies under it. -/
def relativeTo? (directory path : List UInt8) : Option (List UInt8) :=
  if isAbsolute directory && isAbsolute path then
    (behind (components directory) (segments path)).map fun rest => joinSegments (trimIdle rest)
  else none

/-- What of a path is shown in a working directory. -/
def shownPart (directory path : Path) : Path :=
  match relativeTo? directory.bytes path.bytes with
  | some [] => ⟨[dot]⟩
  | some relative => ⟨relative⟩
  | none => path

/-- A path as it is shown in a working directory. -/
def shownPath (directory path : Path) : String := (shownPart directory path).text

/-- The path of a file in a directory. -/
def fileIn (directory name : Path) : Path :=
  if directory.bytes.isEmpty || directory.bytes.getLast? == some slash then
    ⟨directory.bytes ++ name.bytes⟩
  else ⟨directory.bytes ++ slash :: name.bytes⟩

theorem filter_trimIdle (parts : List Segment) :
    (trimIdle parts).filter (!isIdle ·) = parts.filter (!isIdle ·) := by
  have dropped (l : List Segment) :
      (l.dropWhile isIdle).filter (!isIdle ·) = l.filter (!isIdle ·) := by
    induction l with
    | nil => rfl
    | cons segment rest ih => by_cases h : isIdle segment = true <;> simp [h, ih]
  simp only [trimIdle, List.filter_reverse, dropped, List.reverse_reverse]

example : shownPath (.ofText "/home/a") (.ofText "/home/a//b/./c/") = "b/./c" := by
  decide +kernel
example : shownPath (.ofText "/home/a") (.ofText "/home/ab") = "/home/ab" := by decide +kernel

end Files
end CurveSheet
