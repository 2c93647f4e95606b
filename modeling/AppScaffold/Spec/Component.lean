import AppScaffold.Json.Writer

namespace AppScaffold

open Json

inductive ComponentKind
  | title | text | button | list | textInput | image
  | card | scrollView | view | touchableOpacity | flatList | safeAreaView
  | unknown (name : String)
  deriving DecidableEq

namespace ComponentKind

def name : ComponentKind → String
  | title => "Title"
  | text => "Text"
  | button => "Button"
  | list => "List"
  | textInput => "TextInput"
  | image => "Image"
  | card => "Card"
  | scrollView => "ScrollView"
  | view => "View"
  | touchableOpacity => "TouchableOpacity"
  | flatList => "FlatList"
  | safeAreaView => "SafeAreaView"
  | unknown name => name

def known : List ComponentKind :=
  [title, text, button, list, textInput, image, card, scrollView, view, touchableOpacity,
    flatList, safeAreaView]

def ofName (s : String) : ComponentKind := (known.find? (·.name == s)).getD (unknown s)

def isContainer : ComponentKind → Bool
  | card | scrollView | view | touchableOpacity | safeAreaView => true
  | _ => false

def isUnknown : ComponentKind → Bool
  | unknown _ => true
  | _ => false

end ComponentKind

/-- What a component shows: one text, or a text for every row of a list. -/
inductive Content
  | text (s : String)
  | items (rows : List String)
  deriving DecidableEq

namespace Content

def displayText : Content → String
  | text s => s
  | items rows => ", ".intercalate rows

/-- A value as a row: a string as it is, anything else as it is written. -/
def rowOfValue : Value → String
  | .string s => s
  | v => v.compact

def ofValue? : Value → Option Content
  | .null => none
  | .string s => some (text s)
  | .array vs => some (items (vs.map rowOfValue))
  | v => some (text v.compact)

def toValue : Content → Value
  | text s => .string s
  | items rows => .array (rows.map .string)

end Content

/-- A node of a screen's tree. It may carry any attribute; its kind decides which are read.
Handlers, `value`, `renderItem` and `keyExtractor` are program text. -/
structure Component where
  kind : ComponentKind
  content : Option Content := none
  navigateTo : Option String := none
  onPress : Option String := none
  placeholder : Option String := none
  value : Option String := none
  onChangeText : Option String := none
  source : Option String := none
  alt : Option String := none
  children : List Component := []
  data : Option (List Value) := none
  renderItem : Option String := none
  keyExtractor : Option String := none
  style : Option Value := none

namespace Component

instance : Inhabited Component := ⟨{ kind := .unknown "" }⟩

def ofKind (kind : ComponentKind) : Component := { kind }

def withContent (c : Component) (content : Content) : Component :=
  { c with content := some content }

def withNavigateTo (c : Component) (route : String) : Component :=
  { c with navigateTo := some route }

def withOnPress (c : Component) (handler : String) : Component := { c with onPress := some handler }
def withStyle (c : Component) (style : Value) : Component := { c with style := some style }
def withChild (c child : Component) : Component := { c with children := c.children ++ [child] }

end Component

/-- An attribute counts as absent when it is empty. -/
def nonEmpty (s : Option String) : Option String := s.filter (· ≠ "")

def Component.navigationTarget? (c : Component) : Option String :=
  match c.kind with
  | .button => nonEmpty c.navigateTo
  | _ => none

end AppScaffold
