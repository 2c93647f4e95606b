import AppScaffold.Disk.Basic
import AppScaffold.Model.Prompt
import AppScaffold.Spec.Validation
import AppScaffold.Text.Lines

namespace AppScaffold

inductive CommandError
  | readInput (e : DiskError)
  | readFile (path : String) (e : DiskError)
  | decode (source : String) (e : Json.Error)
  | invalid (errors : List Issue)
  | issues (errors : Nat)
  | prompt (e : PromptError)
  | outside (path : String)
  | createDirectory (path : String) (e : DiskError)
  | writeFile (path : String) (e : DiskError)

namespace CommandError

def message : CommandError → String
  | readInput _ => "read specification from stdin"
  | readFile path _ => "read " ++ path
  | decode source _ => "decode specification from " ++ source
  | invalid errors => "specification is invalid: " ++ Issue.summary errors
  | issues errors => toString errors ++ " validation error(s)"
  | prompt e => e.message
  | outside path => "refusing to write " ++ path ++ ": path leaves the output directory"
  | createDirectory path _ => "create directory " ++ path
  | writeFile path _ => "write " ++ path

def causes : CommandError → List String
  | readInput e | readFile _ e | createDirectory _ e | writeFile _ e => [e.message]
  | decode _ e => [(SpecError.json e).message, e.message]
  | _ => []

def hanging (n : Nat) (s : String) : String :=
  ("\n" ++ Text.spaces n).intercalate
    ((Text.splitWhere (· == '\n') s.toList).map String.ofList)

def numberedCause (n : Nat) (cause : String) : String :=
  Text.spaces (5 - (toString n).length) ++ toString n ++ ": " ++ hanging 7 cause ++ "\n"

def numberedCauses (n : Nat) : List String → List String
  | [] => []
  | cause :: rest => numberedCause n cause :: numberedCauses (n + 1) rest

/-- Causes below their heading; a single one has no number. -/
def causesText : List String → String
  | [] => ""
  | [cause] => "\nCaused by:\n    " ++ hanging 4 cause ++ "\n"
  | causes => "\nCaused by:\n" ++ String.join (numberedCauses 0 causes)

def text (e : CommandError) : String := "Error: " ++ e.message ++ "\n" ++ causesText e.causes

end CommandError

end AppScaffold
