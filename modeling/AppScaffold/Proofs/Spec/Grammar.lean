import AppScaffold.Proofs.Schema.Acceptance
import AppScaffold.Spec.Decode
import Mathlib.Tactic.Tauto

namespace AppScaffold

open Json Schema

def Component.textKeys : List String :=
  ["navigateTo", "onPress", "placeholder", "value", "onChangeText", "source", "alt", "renderItem",
    "keyExtractor"]

/-- A component. Nothing is said of its other members. -/
inductive IsComponent : Value → Prop
  | object {members : List (String × Value)}
      (type : Allows members "type" IsText)
      (texts : ∀ key ∈ Component.textKeys, Allows members key (OrNull IsText))
      (children : ∀ v, ("children", v) ∈ members → v = .null ∨ ∃ items, v = .array items)
      (nested : ∀ items, ("children", .array items) ∈ members → ∀ c ∈ items, IsComponent c) :
      IsComponent (.object members)

def IsBinding (v : Value) : Prop :=
  ∃ members, v = .object members ∧ Has members "name" IsText ∧ Allows members "type" IsText

def IsEffect (v : Value) : Prop :=
  ∃ members, v = .object members ∧ Allows members "dependencies" (OrNull (ListOf IsText)) ∧
    Has members "code" IsText

def IsScreen (v : Value) : Prop :=
  ∃ members, v = .object members ∧ Has members "name" IsText ∧ Has members "path" IsText ∧
    Has members "components" (ListOf IsComponent) ∧
    Allows members "state" (OrNull (ListOf IsBinding)) ∧
    Allows members "effects" (OrNull (ListOf IsEffect))

def IsSpecification (v : Value) : Prop :=
  ∃ members, v = .object members ∧ Has members "appName" IsText ∧
    Has members "dependencies" (ListOf IsText) ∧ Has members "screens" (ListOf IsScreen)

/-- The value stands where a document wants a record of that kind. -/
inductive Expected (document : Value) : Record → Value → Prop
  | specification : Expected document .specification document
  | screen {members : List (String × Value)} {items : List Value} {v : Value} :
      Expected document .specification (.object members) → ("screens", .array items) ∈ members →
      v ∈ items → Expected document .screen v
  | component {members : List (String × Value)} {items : List Value} {v : Value} :
      Expected document .screen (.object members) → ("components", .array items) ∈ members →
      v ∈ items → Expected document .component v
  | binding {members : List (String × Value)} {items : List Value} {v : Value} :
      Expected document .screen (.object members) → ("state", .array items) ∈ members →
      v ∈ items → Expected document .binding v
  | effect {members : List (String × Value)} {items : List Value} {v : Value} :
      Expected document .screen (.object members) → ("effects", .array items) ∈ members →
      v ∈ items → Expected document .effect v
  | child {members : List (String × Value)} {items : List Value} {v : Value} :
      Expected document .component (.object members) → ("children", .array items) ∈ members →
      v ∈ items → Expected document .component v

theorem isComponent_iff {v : Value} :
    IsComponent v ↔ ∃ members, v = .object members ∧ Allows members "type" IsText ∧
      (∀ key ∈ Component.textKeys, Allows members key (OrNull IsText)) ∧
      Allows members "children" (OrNull (ListOf IsComponent)) := by
  constructor
  · rintro ⟨type, texts, children, nested⟩
    refine ⟨_, rfl, type, texts, ?_⟩
    intro v member
    rcases children v member with null | ⟨items, rfl⟩
    · exact .inl null
    · exact .inr ⟨items, rfl, nested items member⟩
  · rintro ⟨members, rfl, type, texts, children⟩
    refine .object type texts ?_ ?_
    · intro v member
      exact (children v member).imp_right fun ⟨items, array, _⟩ => ⟨items, array⟩
    · intro items member
      rcases children _ member with null | ⟨others, array, each⟩
      · cases null
      · obtain rfl := Value.array.inj array
        exact each

section Records

variable {v : Value} (named : ∀ items, v ≠ .array items)

include named

theorem accepts_binding_iff : (Kind.record .binding).Accepts v ↔ IsBinding v := by
  rw [accepts_record_iff_of_named named]
  refine exists_congr fun members => and_congr_right' ?_
  simp [Record.fields, Field.heldBy_required, Field.heldBy_defaulted, Field.allows_any]

theorem accepts_effect_iff : (Kind.record .effect).Accepts v ↔ IsEffect v := by
  rw [accepts_record_iff_of_named named]
  refine exists_congr fun members => and_congr_right' ?_
  simp [Record.fields, Field.heldBy_required, Field.heldBy_listOrNull]

end Records

section Document

variable {document : Value}
  (named : ∀ r v, Expected document r v → ∀ items, v ≠ .array items)

include named

theorem accepts_component_iff (v : Value) (expected : Expected document .component v) :
    (Kind.record .component).Accepts v ↔ IsComponent v := by
  rw [accepts_record_iff_of_named (named _ v expected), isComponent_iff]
  refine exists_congr fun members => and_congr_right fun object => ?_
  have children : Allows members "children" (OrNull (ListOf (Kind.record .component).Accepts)) ↔
      Allows members "children" (OrNull (ListOf IsComponent)) := by
    refine allows_congr fun w member => orNull_congr (listOf_congr fun items array c among => ?_)
    subst object array
    exact accepts_component_iff c (.child expected member among)
  simp only [Record.fields, Component.textKeys, List.forall_mem_cons, Field.heldBy_defaulted,
    Field.heldBy_optional, Field.heldBy_listOrNull, Field.allows_orNull_any, Kind.accepts_text,
    children]
  tauto
termination_by sizeOf v
decreasing_by
  subst object array
  have inside := List.sizeOf_lt_of_mem member
  have among := List.sizeOf_lt_of_mem among
  simp at inside ⊢
  omega

theorem accepts_screen_iff {v : Value} (expected : Expected document .screen v) :
    (Kind.record .screen).Accepts v ↔ IsScreen v := by
  rw [accepts_record_iff_of_named (named _ v expected)]
  refine exists_congr fun members => and_congr_right fun object => ?_
  subst object
  have components : Has members "components" (ListOf (Kind.record .component).Accepts) ↔
      Has members "components" (ListOf IsComponent) := by
    refine has_congr fun w member => listOf_congr fun items array c among => ?_
    subst array
    exact accepts_component_iff named c (.component expected member among)
  have state : Allows members "state" (OrNull (ListOf (Kind.record .binding).Accepts)) ↔
      Allows members "state" (OrNull (ListOf IsBinding)) := by
    refine allows_congr fun w member => orNull_congr (listOf_congr fun items array b among => ?_)
    subst array
    exact accepts_binding_iff (named _ b (.binding expected member among))
  have effects : Allows members "effects" (OrNull (ListOf (Kind.record .effect).Accepts)) ↔
      Allows members "effects" (OrNull (ListOf IsEffect)) := by
    refine allows_congr fun w member => orNull_congr (listOf_congr fun items array e among => ?_)
    subst array
    exact accepts_effect_iff (named _ e (.effect expected member among))
  simp only [Record.fields, List.forall_mem_cons, Field.heldBy_required, Field.heldBy_listOrNull,
    Kind.accepts_text, Kind.accepts_list, components, state, effects]
  simp

theorem accepts_specification_iff :
    (Kind.record .specification).Accepts document ↔ IsSpecification document := by
  rw [accepts_record_iff_of_named (named _ document .specification)]
  refine exists_congr fun members => and_congr_right fun object => ?_
  subst object
  have screens : Has members "screens" (ListOf (Kind.record .screen).Accepts) ↔
      Has members "screens" (ListOf IsScreen) := by
    refine has_congr fun w member => listOf_congr fun items array s among => ?_
    subst array
    exact accepts_screen_iff named (.screen .specification member among)
  simp only [Record.fields, List.forall_mem_cons, Field.heldBy_required, Kind.accepts_text,
    Kind.accepts_list, Kind.accepts_set, screens]
  simp

end Document

/-- A document that gives no record as a list of fields is read as a specification exactly when it
follows the grammar. -/
theorem AppSpecification.ofValue_iff_grammar (document : Value)
    (named : ∀ r v, Expected document r v → ∀ items, v ≠ .array items) :
    (∃ spec, ofValue document = .ok spec) ↔ IsSpecification document := by
  rw [← accepts_specification_iff named]
  constructor
  · rintro ⟨spec, read⟩
    obtain ⟨form, fitted, -⟩ := map_eq_ok_iff.mp read
    exact ⟨form, mapError_eq_ok_iff.mp fitted⟩
  · rintro ⟨form, fits⟩
    exact ⟨ofForm form, map_eq_ok_iff.mpr ⟨form, mapError_eq_ok_iff.mpr fits, rfl⟩⟩

def Follows : Record → Value → Prop
  | .specification => IsSpecification
  | .screen => IsScreen
  | .component => IsComponent
  | .binding => IsBinding
  | .effect => IsEffect
  | _ => fun _ => False

theorem Follows.isObject {r : Record} {v : Value} (follows : Follows r v) :
    ∃ members, v = .object members := by
  cases r with
  | specification | screen | binding | effect =>
    obtain ⟨members, object, -⟩ := follows
    exact ⟨members, object⟩
  | component =>
    cases follows
    exact ⟨_, rfl⟩
  | _ => exact follows.elim

section Items

variable {members : List (String × Value)} {key : String} {p : Value → Prop} {items : List Value}
  {v : Value}

theorem Json.ListOf.of_mem (list : ListOf p (.array items)) (among : v ∈ items) : p v := by
  obtain ⟨others, array, each⟩ := list
  obtain rfl := Value.array.inj array
  exact each v among

theorem Json.Allows.item (allows : Allows members key (ListOf p))
    (member : (key, .array items) ∈ members) (among : v ∈ items) : p v :=
  (allows _ member).of_mem among

theorem Json.Allows.item_orNull (allows : Allows members key (OrNull (ListOf p)))
    (member : (key, .array items) ∈ members) (among : v ∈ items) : p v := by
  rcases allows _ member with null | list
  · cases null
  · exact list.of_mem among

end Items

/-- Where a record is expected there is one, so that none is given as a list. -/
theorem Expected.follows {document v : Value} {r : Record} (grammar : IsSpecification document)
    (expected : Expected document r v) : Follows r v := by
  induction expected with
  | specification => exact grammar
  | screen _ member among ih =>
    obtain ⟨members, same, -, -, -, screens⟩ := ih
    obtain rfl := Value.object.inj same
    exact screens.item member among
  | component _ member among ih =>
    obtain ⟨members, same, -, -, ⟨-, components⟩, -, -⟩ := ih
    obtain rfl := Value.object.inj same
    exact components.item member among
  | binding _ member among ih =>
    obtain ⟨members, same, -, -, -, state, -⟩ := ih
    obtain rfl := Value.object.inj same
    exact state.item_orNull member among
  | effect _ member among ih =>
    obtain ⟨members, same, -, -, -, -, effects⟩ := ih
    obtain rfl := Value.object.inj same
    exact effects.item_orNull member among
  | child _ member among ih =>
    obtain ⟨members, same, -, -, children⟩ := isComponent_iff.mp ih
    obtain rfl := Value.object.inj same
    exact children.item_orNull member among

def tolerantCard : Value :=
  .object [("children", .array [.object [("content", .bool true), ("children", .null)]]),
    ("type", .string "Card"), ("alt", .null)]

def tolerantDocument : Value :=
  .object [("appName", .string "Tasks"), ("dependencies", .array [.string "axios"]),
    ("author", .array [.null]),
    ("screens", .array [
      .object [("name", .string "Home"), ("path", .string "/"), ("state", .null),
        ("components", .array [tolerantCard])]])]

theorem isComponent_tolerantCard : IsComponent tolerantCard := by
  have leaf : IsComponent (.object [("content", .bool true), ("children", .null)]) :=
    isComponent_iff.mpr ⟨_, rfl, by simp [Component.textKeys, Allows, OrNull]⟩
  exact isComponent_iff.mpr
    ⟨_, rfl, by simp [Component.textKeys, Allows, OrNull, IsText, ListOf, leaf]⟩

theorem isSpecification_tolerantDocument : IsSpecification tolerantDocument := by
  have screen : IsScreen (.object [("name", .string "Home"), ("path", .string "/"),
      ("state", .null), ("components", .array [tolerantCard])]) :=
    ⟨_, rfl, by simp [Allows, Has, OrNull, IsText, ListOf, isComponent_tolerantCard]⟩
  exact ⟨_, rfl, by simp [Allows, Has, IsText, ListOf, screen]⟩

theorem AppSpecification.ofValue_tolerantDocument :
    (∀ r v, Expected tolerantDocument r v → ∀ items, v ≠ .array items) ∧
      ∃ spec, ofValue tolerantDocument = .ok spec := by
  have named : ∀ r v, Expected tolerantDocument r v → ∀ items, v ≠ .array items := by
    rintro r v expected items rfl
    obtain ⟨members, object⟩ := (expected.follows isSpecification_tolerantDocument).isObject
    cases object
  exact ⟨named, (ofValue_iff_grammar _ named).mpr isSpecification_tolerantDocument⟩

end AppScaffold
