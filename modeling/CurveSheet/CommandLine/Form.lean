/-
# The forms of commands

A *flag* is given or not; a *setting* takes a value; both have a long name behind two
dashes and some a letter behind one.  The form of a command says which flags and
settings it has and what other words it takes.
-/

namespace CurveSheet
namespace CommandLine

/-- What is given without a value. -/
inductive Flag where
  | verbose
  | help
  | version
  | force
  | noGrid
  deriving DecidableEq

/-- The long name of a flag. -/
def Flag.name : Flag → String
  | verbose => "verbose"
  | help => "help"
  | version => "version"
  | force => "force"
  | noGrid => "no-grid"

/-- The letter of a flag. -/
def Flag.letter? : Flag → Option Char
  | verbose => some 'v'
  | help => some 'h'
  | version => some 'V'
  | _ => none

/-- What is given with a value. -/
inductive Setting where
  | colour
  | xMin
  | xMax
  | yMin
  | yMax
  | session
  | output
  | width
  | height
  deriving DecidableEq

/-- The long name of a setting. -/
def Setting.name : Setting → String
  | colour => "color"
  | xMin => "x-min"
  | xMax => "x-max"
  | yMin => "y-min"
  | yMax => "y-max"
  | session => "session"
  | output => "output"
  | width => "width"
  | height => "height"

/-- The letter of a setting. -/
def Setting.letter? : Setting → Option Char
  | colour => some 'c'
  | session => some 's'
  | output => some 'o'
  | _ => none

/-- The setting takes the next argument as its value even if that starts with a dash. -/
def Setting.takesDashes : Setting → Bool
  | xMin => true
  | xMax => true
  | yMin => true
  | yMax => true
  | _ => false

/-- The words that a command takes beside flags and settings. -/
inductive Words where
  | none
  | formulas
  | someFormulas
  | directory
  | shell
  deriving DecidableEq

/-- The commands. -/
inductive CommandName where
  | draw
  | check
  | normalize
  | init
  | completions
  deriving DecidableEq

/-- The command with a name. -/
def CommandName.ofText? : String → Option CommandName
  | "draw" => some draw
  | "check" => some check
  | "normalize" => some normalize
  | "init" => some init
  | "completions" => some completions
  | _ => none

/-- What may be given. -/
structure Form where
  flags : List Flag
  settings : List Setting
  words : Words

/-- What may be given before the name of a command. -/
def Form.top : Form := ⟨[.verbose, .help, .version], [], .none⟩

/-- The settings of the input. -/
def inputSettings : List Setting := [.colour, .xMin, .xMax, .yMin, .yMax, .session]

/-- What may be given behind the name of a command. -/
def CommandName.form : CommandName → Form
  | draw => ⟨[.verbose, .help, .noGrid], inputSettings ++ [.output, .width, .height], .formulas⟩
  | check => ⟨[.verbose, .help], inputSettings, .formulas⟩
  | normalize => ⟨[.verbose, .help], [], .someFormulas⟩
  | init => ⟨[.verbose, .help, .force], [], .directory⟩
  | completions => ⟨[.verbose, .help], [], .shell⟩

/-- The flag with a long name. -/
def Form.flagNamed? (form : Form) (name : String) : Option Flag :=
  form.flags.find? (·.name == name)

/-- The setting with a long name. -/
def Form.settingNamed? (form : Form) (name : String) : Option Setting :=
  form.settings.find? (·.name == name)

/-- The flag with a letter. -/
def Form.flagLettered? (form : Form) (letter : Char) : Option Flag :=
  form.flags.find? (·.letter? == some letter)

/-- The setting with a letter. -/
def Form.settingLettered? (form : Form) (letter : Char) : Option Setting :=
  form.settings.find? (·.letter? == some letter)

end CommandLine
end CurveSheet
