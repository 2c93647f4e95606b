import AppScaffold.Proofs.Except
import AppScaffold.Proofs.Schema.Written
import AppScaffold.Spec.Decode

/-! Specifications written as JSON and read again. What comes back is the specification in normal
form: known kinds are given as such, and no style is null. Whatever has been read is in normal
form. -/

namespace AppScaffold

open Json Schema

/-- A kind that is called by a known name is of that name's kind. -/
def ComponentKind.normal : ComponentKind → ComponentKind
  | unknown name => ofName name
  | kind => kind

mutual

def Component.normal (c : Component) : Component :=
  match c with
  | { kind, children, style, .. } =>
    { c with
      kind := kind.normal, children := forestNormal children, style := style.filter (· ≠ .null) }

def forestNormal : List Component → List Component
  | [] => []
  | c :: cs => c.normal :: forestNormal cs

end

def Screen.normal (s : Screen) : Screen := { s with components := forestNormal s.components }

def AppSpecification.normal (s : AppSpecification) : AppSpecification :=
  { s with screens := s.screens.map Screen.normal }

namespace ComponentKind

theorem ofName_name (kind : ComponentKind) : ofName kind.name = kind.normal := by
  cases kind with
  | unknown name => rfl
  | _ => decide

theorem normal_of_known : ∀ kind ∈ known, kind.normal = kind := by
  decide

theorem normal_ofName (name : String) : (ofName name).normal = ofName name := by
  unfold ofName
  cases found : known.find? (·.name == name) with
  | none => simp [normal, ofName, found]
  | some kind => exact normal_of_known kind (List.mem_of_find?_eq_some found)

end ComponentKind

namespace Schema

theorem fit_text (s : String) : Kind.text.fit (.string s) = .ok (.string s) := rfl

theorem fitItems_texts (ss : List String) :
    Kind.fitItems .text (ss.map .string) = .ok (ss.map .string) := by
  induction ss with
  | nil => rfl
  | cons s ss ih =>
    rw [List.map_cons, Kind.fitItems, fit_text]
    show (Kind.fitItems .text (ss.map .string)).bind _ = _
    rw [ih]
    rfl

theorem fits_optionalText (key : String) (s : Option String) :
    Slot.Fits ⟨.optional key .text, s.map .string, (s.map Value.string).getD .null⟩ := by
  cases s <;> rfl

theorem fits_optionalAny (key : String) (v : Option Value) :
    Slot.Fits ⟨.optional key .any, v, v.getD .null⟩ := by
  cases v with
  | none => rfl
  | some v => cases v <;> rfl

theorem fits_defaultedAny (key : String) (v absent : Value) :
    Slot.Fits ⟨.defaulted key .any absent, some v, v⟩ := by
  cases v <;> rfl

theorem fits_listOrNull (key : String) {item : Kind} {vs forms : List Value}
    (fitted : Kind.fitItems item vs = .ok forms) :
    Slot.Fits ⟨.listOrNull key item, if vs.isEmpty then none else some (.array vs),
      .array forms⟩ := by
  cases vs with
  | nil =>
    have empty : forms = [] := by simpa [Kind.fitItems] using fitted.symm
    rw [empty]
    rfl
  | cons v vs =>
    show ((Kind.fitItems item (v :: vs)).bind _ : Except Mismatch Value) = _
    rw [fitted]
    rfl

end Schema

theorem normal_default : (default : Component).normal = default := by
  show ({ kind := ComponentKind.normal (.unknown "") } : Component) = { kind := .unknown "" }
  rw [show ComponentKind.normal (.unknown "") = .unknown "" by decide]

theorem forms_normal :
    (∀ v, (Component.ofForm v).normal = Component.ofForm v) ∧
      ∀ vs, forestNormal (forestOfForms vs) = forestOfForms vs := by
  apply Component.ofForm.mutual_induct
  case case1 =>
    intro kind content navigateTo onPress placeholder value onChangeText source alt children data
      renderItem keyExtractor style children_normal
    have given : style.asGiven?.filter (· ≠ .null) = style.asGiven? := by
      cases style <;> rfl
    simp only [Component.ofForm, Component.normal, ComponentKind.normal_ofName, given,
      children_normal]
  case case2 =>
    intro v other
    rw [Component.ofForm.eq_2 v other]
    exact normal_default
  case case3 => rfl
  case case4 =>
    intro v vs first rest
    rw [forestOfForms, forestNormal, first, rest]

theorem Screen.normal_ofForm (v : Value) : (Screen.ofForm v).normal = Screen.ofForm v := by
  unfold Screen.ofForm
  split
  · simp only [Screen.normal, forms_normal.2]
  · rfl

theorem AppSpecification.normal_ofForm (v : Value) :
    (AppSpecification.ofForm v).normal = AppSpecification.ofForm v := by
  unfold AppSpecification.ofForm
  split
  · simp only [AppSpecification.normal, List.map_map, Function.comp_def, Screen.normal_ofForm]
  · rfl

/-- The fields of a component as they are written; the last argument has its children's forms. -/
def Component.slots (c : Component) (forms : List Value) : List Slot :=
  let text (key : String) (s : Option String) : Slot :=
    ⟨.optional key .text, s.map .string, (s.map Value.string).getD .null⟩
  let any (key : String) (v : Option Value) : Slot := ⟨.optional key .any, v, v.getD .null⟩
  let children := forestToValues c.children
  [⟨.defaulted "type" .text (.string ""), some (.string c.kind.name), .string c.kind.name⟩,
    any "content" (c.content.map Content.toValue), text "navigateTo" c.navigateTo,
    text "onPress" c.onPress, text "placeholder" c.placeholder, text "value" c.value,
    text "onChangeText" c.onChangeText, text "source" c.source, text "alt" c.alt,
    ⟨.listOrNull "children" (.record .component),
      if children.isEmpty then none else some (.array children), .array forms⟩,
    any "data" (c.data.map .array), text "renderItem" c.renderItem,
    text "keyExtractor" c.keyExtractor, any "style" c.style]

theorem members_listOrNull (key : String) (item : Kind) (vs : List Value) (form : Value) :
    Slot.members ⟨.listOrNull key item, if vs.isEmpty then none else some (.array vs), form⟩ =
      listMember? key vs := by
  cases vs <;> rfl

theorem Component.toValue_eq_slots (c : Component) (forms : List Value) :
    c.toValue = .object ((c.slots forms).flatMap Slot.members) := by
  obtain ⟨kind, content, navigateTo, onPress, placeholder, value, onChangeText, source, alt,
    children, data, renderItem, keyExtractor, style⟩ := c
  simp only [Component.toValue, Component.slots, List.flatMap_cons, List.flatMap_nil,
    members_listOrNull, List.append_assoc, List.append_nil]
  rfl

theorem Component.fits_slots (c : Component) {forms : List Value}
    (fitted : Kind.fitItems (.record .component) (forestToValues c.children) = .ok forms) :
    ∀ s ∈ c.slots forms, s.Fits := by
  simp only [Component.slots, List.forall_mem_cons, fits_optionalText, fits_optionalAny,
    fits_listOrNull _ fitted, true_and]
  exact ⟨rfl, fun _ none => nomatch none⟩

theorem Content.ofValue?_toValue (content : Option Content) :
    Content.ofValue? ((content.map Content.toValue).getD .null) = content := by
  match content with
  | none => rfl
  | some (.text s) => rfl
  | some (.items rows) =>
    have same : (rows.map Value.string).map Content.rowOfValue = rows := by
      rw [List.map_map]
      exact List.map_id rows
    show some (Content.items _) = _
    rw [same]

theorem asText?_getD (s : Option String) : ((s.map Value.string).getD .null).asText? = s := by
  cases s <;> rfl

theorem asRows?_getD (vs : Option (List Value)) :
    ((vs.map Value.array).getD .null).asRows? = vs := by
  cases vs <;> rfl

theorem asGiven?_getD (v : Option Value) : (v.getD .null).asGiven? = v.filter (· ≠ .null) := by
  cases v with
  | none => rfl
  | some v => cases v <;> rfl

theorem Component.ofForm_slots (c : Component) {forms : List Value}
    (read : forestOfForms forms = forestNormal c.children) :
    Component.ofForm (.array ((c.slots forms).map Slot.form)) = c.normal := by
  obtain ⟨kind, content, navigateTo, onPress, placeholder, value, onChangeText, source, alt,
    children, data, renderItem, keyExtractor, style⟩ := c
  simp only [Component.slots, List.map_cons, List.map_nil, Component.ofForm, Component.normal,
    Value.asText, ComponentKind.ofName_name, Content.ofValue?_toValue, asText?_getD, asRows?_getD,
    asGiven?_getD, read]

mutual

theorem Component.fit_toValue (c : Component) :
    ∃ form, (Kind.record .component).fit c.toValue = .ok form ∧
      Component.ofForm form = c.normal := by
  match c with
  | { children, .. } =>
    obtain ⟨forms, fitted, read⟩ := fitItems_forestToValues children
    rw [Component.toValue_eq_slots _ forms]
    exact ⟨_, Kind.fit_written _ rfl (Component.fits_slots _ fitted), Component.ofForm_slots _ read⟩

theorem fitItems_forestToValues (cs : List Component) :
    ∃ forms, Kind.fitItems (.record .component) (forestToValues cs) = .ok forms ∧
      forestOfForms forms = forestNormal cs := by
  match cs with
  | [] => exact ⟨[], rfl, rfl⟩
  | c :: cs =>
    obtain ⟨form, fitted, read⟩ := Component.fit_toValue c
    obtain ⟨forms, others, rest⟩ := fitItems_forestToValues cs
    refine ⟨form :: forms, ?_, ?_⟩
    · rw [forestToValues, Kind.fitItems, fitted]
      show (Kind.fitItems _ (forestToValues cs)).bind _ = _
      rw [others]
      rfl
    · rw [forestOfForms, forestNormal, read, rest]

end

theorem fitItems_map {α : Type} {k : Kind} {write : α → Value} {read : Value → α} {normal : α → α}
    (each : ∀ a, ∃ form, k.fit (write a) = .ok form ∧ read form = normal a) (items : List α) :
    ∃ forms, Kind.fitItems k (items.map write) = .ok forms ∧
      forms.map read = items.map normal := by
  induction items with
  | nil => exact ⟨[], rfl, rfl⟩
  | cons a items ih =>
    obtain ⟨form, fitted, reads⟩ := each a
    obtain ⟨forms, others, rest⟩ := ih
    refine ⟨form :: forms, ?_, ?_⟩
    · rw [List.map_cons, Kind.fitItems, fitted]
      show (Kind.fitItems k (items.map write)).bind _ = _
      rw [others]
      rfl
    · rw [List.map_cons, List.map_cons, reads, rest]

theorem asText_strings (ss : List String) : (ss.map Value.string).map Value.asText = ss := by
  rw [List.map_map]
  exact List.map_id ss

theorem StateBinding.fit_toValue (b : StateBinding) :
    ∃ form, (Kind.record .binding).fit b.toValue = .ok form ∧ StateBinding.ofForm form = id b := by
  let slots : List Slot :=
    [⟨.required "name" .text, some (.string b.name), .string b.name⟩,
      ⟨.defaulted "initialValue" .any .null, some b.initialValue, b.initialValue⟩,
      ⟨.defaulted "type" .text (.string ""), some (.string b.type), .string b.type⟩]
  have fits : ∀ s ∈ slots, s.Fits := by
    simp only [slots, List.forall_mem_cons]
    exact ⟨rfl, fits_defaultedAny _ b.initialValue .null, rfl, fun _ none => nomatch none⟩
  exact ⟨_, Kind.fit_written slots rfl fits, rfl⟩

theorem Effect.fit_toValue (e : Effect) :
    ∃ form, (Kind.record .effect).fit e.toValue = .ok form ∧ Effect.ofForm form = id e := by
  let dependencies : Value := .array (e.dependencies.map .string)
  let slots : List Slot :=
    [⟨.listOrNull "dependencies" .text, some dependencies, dependencies⟩,
      ⟨.required "code" .text, some (.string e.code), .string e.code⟩]
  have fits : ∀ s ∈ slots, s.Fits := by
    simp only [slots, List.forall_mem_cons]
    refine ⟨?_, rfl, fun _ none => nomatch none⟩
    show ((Kind.fitItems .text (e.dependencies.map .string)).bind _ : Except Mismatch Value) = _
    rw [fitItems_texts]
    rfl
  refine ⟨_, Kind.fit_written slots rfl fits, ?_⟩
  show (⟨(e.dependencies.map Value.string).map Value.asText, e.code⟩ : Effect) = e
  rw [asText_strings]

theorem Screen.fit_toValue (s : Screen) :
    ∃ form, (Kind.record .screen).fit s.toValue = .ok form ∧ Screen.ofForm form = s.normal := by
  obtain ⟨components, fitted, read⟩ := fitItems_forestToValues s.components
  obtain ⟨state, stateFitted, stateRead⟩ := fitItems_map StateBinding.fit_toValue s.state
  obtain ⟨effects, effectsFitted, effectsRead⟩ := fitItems_map Effect.fit_toValue s.effects
  let stateValues := s.state.map StateBinding.toValue
  let effectValues := s.effects.map Effect.toValue
  let slots : List Slot :=
    [⟨.required "name" .text, some (.string s.name), .string s.name⟩,
      ⟨.required "path" .text, some (.string s.path), .string s.path⟩,
      ⟨.required "components" (.list (.record .component)),
        some (.array (forestToValues s.components)), .array components⟩,
      ⟨.listOrNull "state" (.record .binding),
        if stateValues.isEmpty then none else some (.array stateValues), .array state⟩,
      ⟨.listOrNull "effects" (.record .effect),
        if effectValues.isEmpty then none else some (.array effectValues), .array effects⟩]
  have fits : ∀ t ∈ slots, t.Fits := by
    simp only [slots, List.forall_mem_cons]
    refine ⟨rfl, rfl, ?_, fits_listOrNull _ stateFitted, fits_listOrNull _ effectsFitted,
      fun _ none => nomatch none⟩
    show ((Kind.fitItems _ (forestToValues s.components)).bind _ : Except Mismatch Value) = _
    rw [fitted]
    rfl
  have written : s.toValue = .object (slots.flatMap Slot.members) := by
    simp only [Screen.toValue, slots, List.flatMap_cons, List.flatMap_nil, members_listOrNull,
      List.append_assoc, List.append_nil]
    rfl
  rw [written]
  refine ⟨_, Kind.fit_written slots rfl fits, ?_⟩
  show (⟨s.name, s.path, forestOfForms components, state.map _, effects.map _⟩ : Screen) = _
  rw [read, stateRead, effectsRead, List.map_id, List.map_id]
  rfl

theorem AppSpecification.fit_toValue (s : AppSpecification) :
    ∃ form, (Kind.record .specification).fit s.toValue = .ok form ∧
      AppSpecification.ofForm form = s.normal := by
  obtain ⟨screens, fitted, read⟩ := fitItems_map Screen.fit_toValue s.screens
  let names : Value := .array (s.dependencies.names.map .string)
  let slots : List Slot :=
    [⟨.required "appName" .text, some (.string s.appName), .string s.appName⟩,
      ⟨.required "dependencies" .set, some names, names⟩,
      ⟨.required "screens" (.list (.record .screen)), some (.array (s.screens.map Screen.toValue)),
        .array screens⟩]
  have fits : ∀ t ∈ slots, t.Fits := by
    simp only [slots, List.forall_mem_cons]
    refine ⟨rfl, ?_, ?_, fun _ none => nomatch none⟩
    · show ((Kind.fitItems .text (s.dependencies.names.map .string)).bind _ :
        Except Mismatch Value) = _
      rw [fitItems_texts]
      rfl
    · show ((Kind.fitItems _ (s.screens.map Screen.toValue)).bind _ : Except Mismatch Value) = _
      rw [fitted]
      rfl
  refine ⟨_, Kind.fit_written slots rfl fits, ?_⟩
  show (⟨s.appName, .ofList ((s.dependencies.names.map Value.string).map Value.asText),
    screens.map Screen.ofForm⟩ : AppSpecification) = _
  rw [asText_strings, NameSet.ofList_names, read]
  rfl

/-- A specification that is written and read again is its normal form, and what has been read from
a value or from a text comes back as it was. -/
theorem AppSpecification.ofValue_toValue (s : AppSpecification) :
    ofValue s.toValue = .ok s.normal ∧
      (∀ v, ofValue v = .ok s → s.normal = s) ∧ ∀ text, parse text = .ok s → s.normal = s := by
  obtain ⟨form, fitted, read⟩ := s.fit_toValue
  refine ⟨?_, ?_, ?_⟩
  · rw [ofValue, Kind.ofValue, fitted, ← read]
    rfl
  · intro v decoded
    obtain ⟨form, -, rfl⟩ := map_eq_ok_iff.mp decoded
    exact normal_ofForm form
  · intro text decoded
    obtain ⟨form, -, rfl⟩ := map_eq_ok_iff.mp decoded
    exact normal_ofForm form

def handmadeApp : AppSpecification where
  appName := "Shop"
  screens :=
    [{ name := "Home", path := "/", components :=
        [{ kind := .view, children := [{ kind := .unknown "Card", style := some .null }] }] }]

theorem AppSpecification.ofValue_toValue_handmadeApp :
    let read : AppSpecification :=
      { appName := "Shop", screens :=
          [{ name := "Home", path := "/", components :=
              [{ kind := .view, children := [{ kind := .card }] }] }] }
    ofValue handmadeApp.toValue = .ok read ∧ read.normal = read ∧
      ofValue read.toValue = .ok read := by
  intro read
  have decoded : ofValue handmadeApp.toValue = .ok read := (ofValue_toValue handmadeApp).1.trans rfl
  have stable : read.normal = read := (ofValue_toValue read).2.1 _ decoded
  exact ⟨decoded, stable, (ofValue_toValue read).1.trans (congrArg _ stable)⟩

end AppScaffold
