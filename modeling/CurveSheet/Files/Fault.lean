/-
# Why a file cannot be read or written

The ways in which access to a file fails, with the words the operating system has
for them.
-/

namespace CurveSheet
namespace Files

/-- Why a file cannot be read or written. -/
inductive FileFault where
  | notFound
  | notADirectory
  | isADirectory
  /-- The path or a name in it has too many bytes. -/
  | nameTooLong
  /-- The path has a NUL in it, which would end it for the system. -/
  | nulInPath
  /-- The bytes of a file that should be text are not. -/
  | notText
  /-- Any other reason, in the system's words. -/
  | other (message : String)
  deriving DecidableEq

/-- The words for a fault. -/
def FileFault.message : FileFault → String
  | notFound => "No such file or directory (os error 2)"
  | notADirectory => "Not a directory (os error 20)"
  | isADirectory => "Is a directory (os error 21)"
  | nameTooLong => "File name too long (os error 36)"
  | nulInPath => "file name contained an unexpected NUL byte"
  | notText => "stream did not contain valid UTF-8"
  | other message => message

end Files
end CurveSheet
