import AppScaffold.Spec.Specification

namespace AppScaffold

open Json

def member? (key : String) (v : Option Value) : List (String × Value) :=
  match v with
  | some v => [(key, v)]
  | none => []

def listMember? (key : String) (items : List Value) : List (String × Value) :=
  if items.isEmpty then [] else [(key, .array items)]

mutual

def Component.toValue : Component → Value
  | { kind, content, navigateTo, onPress, placeholder, value, onChangeText, source, alt, children,
      data, renderItem, keyExtractor, style } =>
    .object <|
      [("type", .string kind.name)] ++ member? "content" (content.map Content.toValue) ++
      member? "navigateTo" (navigateTo.map .string) ++ member? "onPress" (onPress.map .string) ++
      member? "placeholder" (placeholder.map .string) ++ member? "value" (value.map .string) ++
      member? "onChangeText" (onChangeText.map .string) ++ member? "source" (source.map .string) ++
      member? "alt" (alt.map .string) ++ listMember? "children" (forestToValues children) ++
      member? "data" (data.map .array) ++ member? "renderItem" (renderItem.map .string) ++
      member? "keyExtractor" (keyExtractor.map .string) ++ member? "style" style

def forestToValues : List Component → List Value
  | [] => []
  | c :: cs => c.toValue :: forestToValues cs

end

def StateBinding.toValue (b : StateBinding) : Value :=
  .object [("name", .string b.name), ("initialValue", b.initialValue), ("type", .string b.type)]

def Effect.toValue (e : Effect) : Value :=
  .object [("dependencies", .array (e.dependencies.map .string)), ("code", .string e.code)]

def Screen.toValue (s : Screen) : Value :=
  .object <|
    [("name", .string s.name), ("path", .string s.path),
      ("components", .array (forestToValues s.components))] ++
    listMember? "state" (s.state.map StateBinding.toValue) ++
    listMember? "effects" (s.effects.map Effect.toValue)

def AppSpecification.toValue (s : AppSpecification) : Value :=
  .object
    [("appName", .string s.appName), ("dependencies", .array (s.dependencies.names.map .string)),
      ("screens", .array (s.screens.map Screen.toValue))]

end AppScaffold
