import AppScaffold.Spec.Specification

namespace AppScaffold

inductive NativePrimitive
  | safeAreaView | scrollView | view | text | touchableOpacity | textInput | image | flatList
  | styleSheet
  deriving DecidableEq

namespace NativePrimitive

def name : NativePrimitive → String
  | safeAreaView => "SafeAreaView"
  | scrollView => "ScrollView"
  | view => "View"
  | text => "Text"
  | touchableOpacity => "TouchableOpacity"
  | textInput => "TextInput"
  | image => "Image"
  | flatList => "FlatList"
  | styleSheet => "StyleSheet"

def all : List NativePrimitive :=
  [safeAreaView, scrollView, view, text, touchableOpacity, textInput, image, flatList, styleSheet]

def ofWrapper : List NativePrimitive := [safeAreaView, scrollView, styleSheet]

end NativePrimitive

/-- The primitives in the element of a component, its children left aside. -/
def Component.primitives (c : Component) : List NativePrimitive :=
  match c.kind with
  | .title | .text | .unknown _ => [.text]
  | .button => [.touchableOpacity, .text]
  | .list =>
    match c.content with
    | some (.text _) => [.text]
    | _ => [.flatList, .view, .text]
  | .textInput => [.textInput]
  | .image => [.image]
  | .card | .view => [.view]
  | .scrollView => [.scrollView]
  | .touchableOpacity => [.touchableOpacity]
  | .flatList => if (nonEmpty c.renderItem).isNone then [.flatList, .text] else [.flatList]
  | .safeAreaView => [.safeAreaView]

namespace Screen

def imports (s : Screen) : List NativePrimitive :=
  let used := NativePrimitive.ofWrapper ++ s.walkRendered.flatMap Component.primitives
  NativePrimitive.all.filter used.contains

def importList (s : Screen) : String := ", ".intercalate (s.imports.map NativePrimitive.name)

def targets (s : Screen) : List String := s.walkRendered.filterMap Component.navigationTarget?

def usesNavigation (s : Screen) : Bool := !s.targets.isEmpty
def hasState (s : Screen) : Bool := !s.state.isEmpty
def hasEffects (s : Screen) : Bool := !s.effects.isEmpty

def hooks (s : Screen) : List String :=
  (if s.hasState then ["useState"] else []) ++ if s.hasEffects then ["useEffect"] else []

end Screen

end AppScaffold
