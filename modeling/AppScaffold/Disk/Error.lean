namespace AppScaffold

inductive DiskError
  | notFound | fileExists | notDirectory | isDirectory
  | nameTooLong
  | nullInName
  | notText
  | other (message : String)
  deriving DecidableEq

namespace DiskError

def numbered (message : String) (n : Nat) : String := message ++ " (os error " ++ toString n ++ ")"

def message : DiskError → String
  | notFound => numbered "No such file or directory" 2
  | fileExists => numbered "File exists" 17
  | notDirectory => numbered "Not a directory" 20
  | isDirectory => numbered "Is a directory" 21
  | nameTooLong => numbered "File name too long" 36
  | nullInName => "file name contained an unexpected NUL byte"
  | notText => "stream did not contain valid UTF-8"
  | other message => message

end DiskError

def decodeText (bytes : ByteArray) : Except DiskError String :=
  match String.fromUTF8? bytes with
  | some s => .ok s
  | none => .error .notText

end AppScaffold
