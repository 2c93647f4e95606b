import AppScaffold.Markup.Element
import AppScaffold.Markup.Literal
import AppScaffold.Screen.Stylesheet
import AppScaffold.Spec.Component

/-! Components as elements of a screen's markup. Every component has an element: what its kind does
not use is left out, and an unknown kind becomes a text that says so. -/

namespace AppScaffold

open Json Markup

def placeholderImage : String := "https://via.placeholder.com/300x200"

def defaultChangeHandler : String := "text => \x7b\x7d"
def defaultRenderItem : String := "(\x7b item \x7d) => <Text>\x7bitem\x7d</Text>"
def defaultKeyExtractor : String := "(item, index) => index.toString()"

def listRow : String :=
  "\n".intercalate
    ["(\x7b item \x7d) => (", "  <View style=\x7bstyles.listItem\x7d>",
      "    <Text style=\x7bstyles.listItemText\x7d>\x7bitem\x7d</Text>", "  </View>", ")"]

/-- What a press does: it leads to a screen, or else runs the given program text, if any. -/
def pressHandler (route onPress : Option String) : String :=
  match route, onPress with
  | some route, _ => "() => navigation.navigate(" ++ literal route ++ ")"
  | none, some body => "() => " ++ body
  | none, none => "() => \x7b\x7d"

def styleAttribute (body : String) : Attribute := .code "style" body

def ruleStyle (rule : StyleRule) (own : Option Value) : Attribute :=
  styleAttribute <|
    match own with
    | some v => "[" ++ rule.reference ++ ", " ++ v.compact ++ "]"
    | none => rule.reference

def ownStyle (own : Option Value) : List Attribute :=
  own.toList.map fun v => styleAttribute v.compact

namespace Component

/-- The content between tags; nothing, where there is none. -/
def body (c : Component) : String := (c.content.map fun s => bodyText s.displayText).getD ""

def textElement (rule : StyleRule) (c : Component) : Element :=
  .inline "Text" [ruleStyle rule c.style] c.body

def pressAttribute (route : Option String) (c : Component) : Attribute :=
  .code "onPress" (pressHandler route (nonEmpty c.onPress))

def buttonElement (c : Component) : Element :=
  .nested "TouchableOpacity" [ruleStyle .button c.style, c.pressAttribute c.navigationTarget?]
    [.inline "Text" [ruleStyle .buttonText none] c.body]

def rowsElement (rows : List String) (c : Component) : Element :=
  .block "FlatList" <|
    [.code "data" ("[" ++ ", ".intercalate (rows.map literal) ++ "]"),
      .code "renderItem" listRow, .code "keyExtractor" defaultKeyExtractor] ++ ownStyle c.style

/-- A list whose content is no list shows it as text. -/
def listElement (c : Component) : Element :=
  match c.content with
  | some (.text _) => c.textElement .text
  | some (.items rows) => c.rowsElement rows
  | none => c.rowsElement []

def inputElement (c : Component) : Element :=
  .block "TextInput"
    [ruleStyle .input c.style, .quoted "placeholder" (attributeText (c.placeholder.getD "")),
      .code "value" ((nonEmpty c.value).getD "''"),
      .code "onChangeText" ((nonEmpty c.onChangeText).getD defaultChangeHandler)]

def imageElement (c : Component) : Element :=
  let source := literal ((nonEmpty c.source).getD placeholderImage)
  .block "Image" <|
    [.code "source" ("\x7b uri: " ++ source ++ " \x7d"),
      ruleStyle .image c.style, .quoted "resizeMode" "cover"] ++
    (nonEmpty c.alt).toList.map fun alt => .quoted "accessibilityLabel" (attributeText alt)

def flatListElement (c : Component) : Element :=
  .block "FlatList" <|
    [.code "data" (Value.array (c.data.getD [])).compact,
      .code "renderItem" ((nonEmpty c.renderItem).getD defaultRenderItem),
      .code "keyExtractor" ((nonEmpty c.keyExtractor).getD defaultKeyExtractor)] ++
    ownStyle c.style

def unknownElement (name : String) : Element :=
  .inline "Text" [ruleStyle .text none] ("Unsupported component: " ++ bodyText name)

def elementAround (c : Component) (children : List Element) : Element :=
  match c.kind with
  | .title => c.textElement .title
  | .text => c.textElement .text
  | .button => c.buttonElement
  | .list => c.listElement
  | .textInput => c.inputElement
  | .image => c.imageElement
  | .flatList => c.flatListElement
  | .card => .nested "View" [ruleStyle .card c.style] children
  | .scrollView => .nested "ScrollView" (ownStyle c.style) children
  | .view => .nested "View" (ownStyle c.style) children
  | .touchableOpacity =>
    .nested "TouchableOpacity" (ownStyle c.style ++ [c.pressAttribute none]) children
  | .safeAreaView => .nested "SafeAreaView" [ruleStyle .container c.style] children
  | .unknown name => unknownElement name

end Component

mutual

def Component.element (c : Component) : Element :=
  match c with
  | { children, .. } => c.elementAround (forestElements children)

def forestElements : List Component → List Element
  | [] => []
  | c :: cs => c.element :: forestElements cs

end

/-- The markup of a component that stands at the given level. -/
def Component.render (c : Component) (level : Nat) : String := Text.unlines (c.element.lines level)

end AppScaffold
