/-
# Going through the arguments of a command

The arguments are taken one after the other:

| argument | is |
| --- | --- |
| `--name`, `-n` | a flag, or a setting whose value is the next argument |
| `--name=value`, `-nvalue`, `-n=value` | a setting with its value |
| `-abc` | flags in a row, of which the last may be a setting |
| `--` | a sign that only words follow |
| anything else, also `-` alone | a word |

A value that follows its setting, and a word, are looked at only when the next thing
is done.  So an argument that is not known is found before the fault of what stands
before it.
-/

import CurveSheet.CommandLine.Given

namespace CurveSheet
namespace CommandLine

/-- What was taken but not yet looked at. -/
inductive Pending where
  | nothing
  | setting (setting : Setting) (value : Option String)
  | word (word : String)
  deriving DecidableEq

/-- What is given so far. -/
structure Scan where
  given : Given := {}
  pending : Pending := .nothing
  /-- Only words follow. -/
  onlyWords : Bool := false
  deriving DecidableEq

namespace Scan

/-- Looks at what was taken last. -/
def settle (form : Form) (scan : Scan) : Except Usage Scan :=
  match scan.pending with
  | .nothing => .ok scan
  | .setting _ none => .error .invalidValue
  | .setting setting (some value) =>
    (scan.given.set setting value).map fun given => { scan with given, pending := .nothing }
  | .word word =>
    (scan.given.add form.words word).map fun given => { scan with given, pending := .nothing }

/-- Takes a flag. -/
def flag (form : Form) (scan : Scan) (flag : Flag) : Except Usage Scan :=
  match scan.settle form with
  | .error usage => .error usage
  | .ok settled => (settled.given.raise flag).map fun given => { settled with given }

/-- Takes a setting that has its value with it. -/
def settingWith (form : Form) (scan : Scan) (setting : Setting) (value : String) :
    Except Usage Scan :=
  match scan.settle form with
  | .error usage => .error usage
  | .ok settled => (settled.given.set setting value).map fun given => { settled with given }

/-- Takes a setting whose value is to follow. -/
def settingAlone (form : Form) (scan : Scan) (setting : Setting) : Except Usage Scan :=
  (scan.settle form).map fun settled => { settled with pending := .setting setting none }

/-- Takes what stands behind two dashes. -/
def long (form : Form) (scan : Scan) (body : List Char) : Except Usage Scan :=
  let name := String.ofList (body.takeWhile (· != '='))
  let value := match body.dropWhile (· != '=') with
    | [] => none
    | _ :: rest => some (String.ofList rest)
  match form.settingNamed? name, form.flagNamed? name, value with
  | some setting, _, some value => scan.settingWith form setting value
  | some setting, _, none => scan.settingAlone form setting
  | none, some _, some _ => .error .unexpectedValue
  | none, some f, none => scan.flag form f
  | none, none, _ => .error .unknownArgument

/-- Takes the letters behind one dash. -/
def letters (form : Form) (scan : Scan) : List Char → Except Usage Scan
  | [] => .ok scan
  | letter :: rest =>
    match form.settingLettered? letter, form.flagLettered? letter with
    | some setting, _ =>
      match rest with
      | [] => scan.settingAlone form setting
      | '=' :: value => scan.settingWith form setting (String.ofList value)
      | value => scan.settingWith form setting (String.ofList value)
    | none, some f =>
      match scan.flag form f with
      | .error usage => .error usage
      | .ok next => letters form next rest
    | none, none => .error .unknownArgument

/-- The command takes one more word. -/
def takesWord (form : Form) (scan : Scan) : Bool :=
  let taken := !scan.given.words.isEmpty ||
    match scan.pending with
    | .word _ => true
    | _ => false
  match form.words with
  | .none => false
  | .formulas => true
  | .someFormulas => true
  | .directory => !taken
  | .shell => !taken

/-- Takes a word. -/
def word (form : Form) (scan : Scan) (text : String) : Except Usage Scan :=
  if scan.takesWord form then
    (scan.settle form).map fun settled => { settled with pending := .word text }
  else .error .unknownArgument

/-- Takes an argument that does not belong to a setting before it. -/
def fresh (form : Form) (scan : Scan) (argument : String) : Except Usage Scan :=
  match argument.toList with
  | ['-', '-'] => .ok { scan with onlyWords := true }
  | '-' :: '-' :: body => scan.long form body
  | '-' :: letter :: rest => scan.letters form (letter :: rest)
  | _ => scan.word form argument

/-- The argument starts with a dash and is more than that. -/
def isDashed (argument : String) : Bool :=
  match argument.toList with
  | '-' :: _ :: _ => true
  | _ => false

/-- Takes an argument. -/
def argument (form : Form) (scan : Scan) (text : String) : Except Usage Scan :=
  if scan.onlyWords then scan.word form text
  else match scan.pending with
    | .setting setting none =>
      if setting.takesDashes || !isDashed text then
        .ok { scan with pending := .setting setting (some text) }
      else scan.fresh form text
    | _ => scan.fresh form text

/-- Takes all arguments and looks at the last. -/
def arguments (form : Form) (scan : Scan) : List String → Except Usage Given
  | [] => (scan.settle form).map (·.given)
  | text :: rest =>
    match scan.argument form text with
    | .error usage => .error usage
    | .ok next => arguments form next rest

end Scan
end CommandLine
end CurveSheet
