import AppScaffold.Json.Error
import AppScaffold.Spec.Specification
import AppScaffold.Text.Blank

namespace AppScaffold

inductive Severity
  | error | warning
  deriving DecidableEq

inductive Issue
  | emptyAppName
  | noScreens
  | emptyScreenName (index : Nat)
  | invalidScreenName (name : String)
  | duplicateScreenName (name : String)
  | emptyScreenPath (screen : String)
  | invalidStateName (screen name : String)
  | duplicateStateName (screen name : String)
  | unknownTarget (screen target : String)
  deriving DecidableEq

namespace Issue

def severity : Issue → Severity
  | unknownTarget .. => .warning
  | _ => .error

def isError (i : Issue) : Bool := i.severity = .error

def message : Issue → String
  | emptyAppName => "appName must not be empty"
  | noScreens => "specification has no screens"
  | emptyScreenName index => "screen #" ++ toString index ++ " has an empty name"
  | invalidScreenName name => "screen name '" ++ name ++ "' is not a valid identifier"
  | duplicateScreenName name => "screen name '" ++ name ++ "' is used more than once"
  | emptyScreenPath screen => "screen '" ++ screen ++ "' has an empty path"
  | invalidStateName screen name =>
    "state binding '" ++ name ++ "' on screen '" ++ screen ++ "' is not a valid identifier"
  | duplicateStateName screen name =>
    "state binding '" ++ name ++ "' is declared more than once on screen '" ++ screen ++ "'"
  | unknownTarget screen target =>
    "button on screen '" ++ screen ++ "' navigates to unknown screen '" ++ target ++ "'"

def summary (issues : List Issue) : String := "; ".intercalate (issues.map message)

end Issue

def isIdentifierStart (c : Char) : Bool := c.isAlpha || c == '_' || c == '$'
def isIdentifierPart (c : Char) : Bool := c.isAlphanum || c == '_' || c == '$'

/-- ASCII letters, digits, underscores and dollar signs, and no digit first. -/
def isIdentifier (name : String) : Bool :=
  match name.toList with
  | [] => false
  | c :: cs => isIdentifierStart c && cs.all isIdentifierPart

def issueIf (condition : Bool) (i : Issue) : List Issue := if condition then [i] else []

/-- The issues of a screen's state, behind bindings of the names `seen`. -/
def stateIssues (screen : String) (seen : List String) : List StateBinding → List Issue
  | [] => []
  | b :: bs =>
    (if !isIdentifier b.name then [.invalidStateName screen b.name]
      else issueIf (seen.contains b.name) (.duplicateStateName screen b.name)) ++
    stateIssues screen (b.name :: seen) bs

/-- The issues of one screen, the `index`-th, behind screens of the names `seen`. -/
def Screen.issues (index : Nat) (seen : List String) (s : Screen) : List Issue :=
  (if s.name.isEmpty then [.emptyScreenName index]
    else issueIf (!isIdentifier s.name) (.invalidScreenName s.name)) ++
  issueIf (!s.name.isEmpty && seen.contains s.name) (.duplicateScreenName s.name) ++
  issueIf (Text.isBlankText s.path) (.emptyScreenPath s.name) ++
  stateIssues s.name [] s.state

def screenIssues (index : Nat) (seen : List String) : List Screen → List Issue
  | [] => []
  | s :: ss => s.issues index seen ++ screenIssues (index + 1) (s.name :: seen) ss

/-- The buttons of a screen, rendered or not, that lead to no screen. -/
def AppSpecification.targetIssues (spec : AppSpecification) (s : Screen) : List Issue :=
  ((s.walk.filterMap Component.navigationTarget?).filter fun target =>
    (spec.screen? target).isNone).map (.unknownTarget s.name)

/-- The issues of a specification in the order in which they are found. -/
structure Report where
  issues : List Issue

def AppSpecification.validate (spec : AppSpecification) : Report :=
  ⟨issueIf (Text.isBlankText spec.appName) .emptyAppName ++
    issueIf spec.screens.isEmpty .noScreens ++
    screenIssues 0 [] spec.screens ++
    spec.screens.flatMap spec.targetIssues⟩

namespace Report

def isValid (r : Report) : Bool := !r.issues.any Issue.isError
def errors (r : Report) : List Issue := r.issues.filter Issue.isError
def warnings (r : Report) : List Issue := r.issues.filter (!·.isError)

end Report

inductive SpecError
  | json (e : Json.Error)
  | invalid (errors : List Issue)

def SpecError.message : SpecError → String
  | json e => "Invalid specification JSON: " ++ e.message
  | invalid errors => "Invalid specification: " ++ Issue.summary errors

def Report.check (r : Report) : Except SpecError Unit :=
  if r.errors.isEmpty then .ok () else .error (.invalid r.errors)

end AppScaffold
