/-!
# `FrameworkUpgrade.Machine.OsFault`: what the outside refuses

The faults of files, programs and the terminal, each with its one wording. Those
of the operating system carry their number.
-/

set_option autoImplicit false

namespace FrameworkUpgrade

/-- Why the outside refuses to do something. -/
inductive OsFault where
  | notFound
  | notADirectory
  | isADirectory
  | nameTooLong
  | tooManyLinks
  | notPermitted
  | notText
  | nulInName
  | nulInArgument
  | noTerminal
  | nothingToSelect
  | noMoreKeys
deriving DecidableEq, Repr

/-- The wording of a fault. -/
def OsFault.message : OsFault → String
  | .notFound => "No such file or directory (os error 2)"
  | .notADirectory => "Not a directory (os error 20)"
  | .isADirectory => "Is a directory (os error 21)"
  | .nameTooLong => "File name too long (os error 36)"
  | .tooManyLinks => "Too many levels of symbolic links (os error 40)"
  | .notPermitted => "Permission denied (os error 13)"
  | .notText => "stream did not contain valid UTF-8"
  | .nulInName => "file name contained an unexpected NUL byte"
  | .nulInArgument => "nul byte found in provided data"
  | .noTerminal => "not a terminal"
  | .nothingToSelect => "Empty list of items given to `MultiSelect`"
  | .noMoreKeys => "unexpected end of file"

end FrameworkUpgrade
