import AppScaffold.Schema.Reader
import AppScaffold.Spec.Specification

/-! Specifications from JSON. A document is fitted to its kind first; here its fields, listed in
their order, become components, screens and specifications. -/

namespace AppScaffold

open Json Schema

namespace Json.Value

def asText : Value → String
  | .string s => s
  | _ => ""

def asText? : Value → Option String
  | .string s => some s
  | _ => none

def asItems : Value → List Value
  | .array vs => vs
  | _ => []

def asGiven? : Value → Option Value
  | .null => none
  | v => some v

/-- A list as it is, a single value as a list of one. -/
def asRows? : Value → Option (List Value)
  | .null => none
  | .array vs => some vs
  | v => some [v]

end Json.Value

mutual

def Component.ofForm : Value → Component
  | .array [kind, content, navigateTo, onPress, placeholder, value, onChangeText, source, alt,
      .array children, data, renderItem, keyExtractor, style] =>
    { kind := .ofName kind.asText, content := Content.ofValue? content
      navigateTo := navigateTo.asText?, onPress := onPress.asText?
      placeholder := placeholder.asText?, value := value.asText?
      onChangeText := onChangeText.asText?, source := source.asText?, alt := alt.asText?
      children := forestOfForms children, data := data.asRows?
      renderItem := renderItem.asText?, keyExtractor := keyExtractor.asText?
      style := style.asGiven? }
  | _ => default

def forestOfForms : List Value → List Component
  | [] => []
  | v :: vs => Component.ofForm v :: forestOfForms vs

end

def StateBinding.ofForm : Value → StateBinding
  | .array [name, initialValue, type] => ⟨name.asText, initialValue, type.asText⟩
  | _ => ⟨"", .null, ""⟩

def Effect.ofForm : Value → Effect
  | .array [dependencies, code] => ⟨dependencies.asItems.map Value.asText, code.asText⟩
  | _ => ⟨[], ""⟩

def Screen.ofForm : Value → Screen
  | .array [name, path, components, state, effects] =>
    ⟨name.asText, path.asText, forestOfForms components.asItems,
      state.asItems.map StateBinding.ofForm, effects.asItems.map Effect.ofForm⟩
  | _ => ⟨"", "", [], [], []⟩

def AppSpecification.ofForm : Value → AppSpecification
  | .array [appName, dependencies, screens] =>
    ⟨appName.asText, .ofList (dependencies.asItems.map Value.asText),
      screens.asItems.map Screen.ofForm⟩
  | _ => ⟨"", .empty, []⟩

namespace Component

def ofValue (v : Value) : Except Error Component :=
  ((Kind.record .component).ofValue v).map ofForm

def parse (text : String) : Except Error Component :=
  ((Kind.record .component).parse text).map ofForm

end Component

namespace Screen

def ofValue (v : Value) : Except Error Screen := ((Kind.record .screen).ofValue v).map ofForm
def parse (text : String) : Except Error Screen := ((Kind.record .screen).parse text).map ofForm

end Screen

namespace AppSpecification

def ofValue (v : Value) : Except Error AppSpecification :=
  ((Kind.record .specification).ofValue v).map ofForm

def parse (text : String) : Except Error AppSpecification :=
  ((Kind.record .specification).parse text).map ofForm

end AppSpecification

namespace Content

def fit : Value → Except Error Content
  | .string s => .ok (text s)
  | .array vs =>
    match vs.mapM Value.asText? with
    | some rows => .ok (items rows)
    | none => .error ⟨.mismatch (.noVariant "Content"), none⟩
  | _ => .error ⟨.mismatch (.noVariant "Content"), none⟩

/-- The content that a text writes. What does not fit is found before what follows it. -/
def parse (s : String) : Except Error Content :=
  let cs := s.toList
  match readValue maxDepth cs with
  | .error f => .error (f.toError cs)
  | .ok (v, rest) => do
    let content ← fit v
    readDocument (fun _ => .ok (content, rest)) s

end Content

end AppScaffold
