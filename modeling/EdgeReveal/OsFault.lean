/-!
# Operating system faults

Why a file or a socket could not be used, in the system's words.
-/
namespace EdgeReveal

inductive OsFault where
  | notFound
  | notDirectory
  | isDirectory
  | nameTooLong
  | connectionRefused
  | nulInPath
  | notUtf8
  deriving DecidableEq, Repr, Inhabited

def OsFault.message : OsFault → String
  | .notFound => "No such file or directory (os error 2)"
  | .notDirectory => "Not a directory (os error 20)"
  | .isDirectory => "Is a directory (os error 21)"
  | .nameTooLong => "File name too long (os error 36)"
  | .connectionRefused => "Connection refused (os error 111)"
  | .nulInPath => "file name contained an unexpected NUL byte"
  | .notUtf8 => "stream did not contain valid UTF-8"

end EdgeReveal
