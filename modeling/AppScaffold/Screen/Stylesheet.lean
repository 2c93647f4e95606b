import AppScaffold.Text.Lines

namespace AppScaffold

open Text

inductive StyleRule
  | container | content | title | text | button | buttonText | input
  | listItem | listItemText | card | image
  deriving DecidableEq

/-- A property of a rule: a value as it is written, or properties of its own. -/
inductive StyleProperty
  | plain (name value : String)
  | group (name : String) (parts : List (String × String))

namespace StyleProperty

def assignment (level : Nat) (name value : String) : String :=
  indent level ++ name ++ ": " ++ value ++ ","

def lines (level : Nat) : StyleProperty → List String
  | plain name value => [assignment level name value]
  | group name parts =>
    (indent level ++ name ++ ": \x7b") :: parts.map (fun (n, v) => assignment (level + 1) n v) ++
      [indent level ++ "\x7d,"]

end StyleProperty

namespace StyleRule

def name : StyleRule → String
  | container => "container"
  | content => "content"
  | title => "title"
  | text => "text"
  | button => "button"
  | buttonText => "buttonText"
  | input => "input"
  | listItem => "listItem"
  | listItemText => "listItemText"
  | card => "card"
  | image => "image"

def reference (r : StyleRule) : String := "styles." ++ r.name

open StyleProperty in
def properties : StyleRule → List StyleProperty
  | container => [plain "flex" "1", plain "backgroundColor" "'#f8fafc'"]
  | content => [plain "padding" "16"]
  | title =>
    [plain "fontSize" "28", plain "fontWeight" "'bold'", plain "color" "'#1f2937'",
      plain "marginBottom" "16", plain "textAlign" "'center'"]
  | text =>
    [plain "fontSize" "16", plain "color" "'#4b5563'", plain "marginBottom" "12",
      plain "lineHeight" "24"]
  | button =>
    [plain "backgroundColor" "'#6366f1'", plain "paddingVertical" "12",
      plain "paddingHorizontal" "24", plain "borderRadius" "8", plain "marginVertical" "8",
      plain "alignItems" "'center'"]
  | buttonText => [plain "color" "'#ffffff'", plain "fontSize" "16", plain "fontWeight" "'600'"]
  | input =>
    [plain "borderWidth" "1", plain "borderColor" "'#d1d5db'", plain "borderRadius" "8",
      plain "padding" "12", plain "fontSize" "16", plain "marginVertical" "8",
      plain "backgroundColor" "'#ffffff'"]
  | listItem =>
    [plain "backgroundColor" "'#ffffff'", plain "padding" "16", plain "marginVertical" "4",
      plain "borderRadius" "8", plain "borderWidth" "1", plain "borderColor" "'#e5e7eb'"]
  | listItemText => [plain "fontSize" "16", plain "color" "'#374151'"]
  | card =>
    [plain "backgroundColor" "'#ffffff'", plain "borderRadius" "12", plain "padding" "16",
      plain "marginVertical" "8", plain "shadowColor" "'#000'",
      group "shadowOffset" [("width", "0"), ("height", "2")], plain "shadowOpacity" "0.1",
      plain "shadowRadius" "3.84", plain "elevation" "5"]
  | image =>
    [plain "width" "'100%'", plain "height" "200", plain "borderRadius" "8",
      plain "marginVertical" "8"]

def lines (r : StyleRule) : List String :=
  (indent 1 ++ r.name ++ ": \x7b") :: r.properties.flatMap (·.lines 2) ++ [indent 1 ++ "\x7d,"]

def all : List StyleRule :=
  [container, content, title, text, button, buttonText, input, listItem, listItemText, card, image]

end StyleRule

def stylesheetLines (rules : List StyleRule) : List String :=
  "const styles = StyleSheet.create(\x7b" :: rules.flatMap StyleRule.lines ++ ["\x7d);"]

end AppScaffold
