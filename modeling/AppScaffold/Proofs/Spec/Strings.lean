import AppScaffold.Proofs.Json.Compact
import AppScaffold.Proofs.Spec.Walk

namespace AppScaffold

open Json

def ComponentKind.strings : ComponentKind → List String
  | .unknown name => [name]
  | _ => []

def Content.strings : Content → List String
  | .text s => [s]
  | .items rows => rows

namespace Component

def attributes (c : Component) : List (Option String) :=
  [c.navigateTo, c.onPress, c.placeholder, c.value, c.onChangeText, c.source, c.alt,
    c.renderItem, c.keyExtractor]

/-- The strings of a component, those of its children left aside. -/
def strings (c : Component) : List String :=
  c.kind.strings ++ c.content.toList.flatMap Content.strings ++
    c.attributes.flatMap Option.toList ++ itemStrings (c.data.getD []) ++
    c.style.toList.flatMap Value.strings

def Avoids (mark : String) (c : Component) : Prop := ∀ u ∈ c.strings, Text.Avoids mark u

instance (mark : String) (c : Component) : Decidable (c.Avoids mark) :=
  inferInstanceAs (Decidable (∀ u ∈ c.strings, Text.Avoids mark u))

end Component

namespace Screen

/-- The strings of a screen and of all its components, rendered or not. -/
def strings (s : Screen) : List String :=
  s.name :: s.state.flatMap (fun b => b.name :: b.initialValue.strings) ++
    s.effects.flatMap (fun e => e.code :: e.dependencies) ++ s.walk.flatMap Component.strings

def Avoids (mark : String) (s : Screen) : Prop := ∀ u ∈ s.strings, Text.Avoids mark u

instance (mark : String) (s : Screen) : Decidable (s.Avoids mark) :=
  inferInstanceAs (Decidable (∀ u ∈ s.strings, Text.Avoids mark u))

end Screen

variable {mark : String}

namespace Component

variable {c : Component}

theorem mem_strings_of_kind {name : String} (unknown : c.kind = .unknown name) :
    name ∈ c.strings := by
  simp [strings, ComponentKind.strings, unknown]

theorem mem_strings_of_content {shown : Content} (given : c.content = some shown) {u : String}
    (member : u ∈ shown.strings) : u ∈ c.strings := by
  simp [strings, given, member]

theorem mem_strings_of_attributes {o : Option String} (known : o ∈ c.attributes) {u : String}
    (given : o = some u) : u ∈ c.strings := by
  have among : u ∈ c.attributes.flatMap Option.toList :=
    List.mem_flatMap.mpr ⟨o, known, Option.mem_toList.mpr given⟩
  simp [strings, among]

theorem mem_strings_of_nonEmpty {o : Option String} (known : o ∈ c.attributes) {u : String}
    (filled : nonEmpty o = some u) : u ∈ c.strings :=
  mem_strings_of_attributes known (Option.eq_some_of_filter_eq_some filled)

theorem mem_strings_of_data {u : String} (member : u ∈ itemStrings (c.data.getD [])) :
    u ∈ c.strings := by
  simp [strings, member]

theorem mem_strings_of_style {v : Value} (given : c.style = some v) {u : String}
    (member : u ∈ v.strings) : u ∈ c.strings := by
  simp [strings, given, member]

theorem mem_strings_of_target {u : String} (target : c.navigationTarget? = some u) :
    u ∈ c.strings := by
  rw [navigationTarget?] at target
  split at target
  · exact mem_strings_of_nonEmpty (by simp [attributes]) target
  · cases target

end Component

namespace Component.Avoids

variable {c : Component} (avoids : c.Avoids mark)
include avoids

theorem kind {name : String} (unknown : c.kind = .unknown name) : Text.Avoids mark name :=
  avoids name (mem_strings_of_kind unknown)

theorem content {shown : Content} (given : c.content = some shown) :
    ∀ u ∈ shown.strings, Text.Avoids mark u :=
  fun u member => avoids u (mem_strings_of_content given member)

theorem nonEmpty {o : Option String} (known : o ∈ c.attributes) {u : String}
    (filled : nonEmpty o = some u) : Text.Avoids mark u :=
  avoids u (mem_strings_of_nonEmpty known filled)

end Component.Avoids

namespace Screen.Avoids

variable {s : Screen} (avoids : s.Avoids mark)
include avoids

theorem name : Text.Avoids mark s.name := by
  apply avoids
  simp [strings]

theorem state {b : StateBinding} (member : b ∈ s.state) :
    ∀ u ∈ b.name :: b.initialValue.strings, Text.Avoids mark u := by
  intro u among
  apply avoids
  simp only [strings, List.cons_append, List.mem_cons, List.mem_append, List.mem_flatMap]
  exact .inr (.inl (.inl ⟨b, member, List.mem_cons.mp among⟩))

theorem effect {e : Effect} (member : e ∈ s.effects) :
    ∀ u ∈ e.code :: e.dependencies, Text.Avoids mark u := by
  intro u among
  apply avoids
  simp only [strings, List.cons_append, List.mem_cons, List.mem_append, List.mem_flatMap]
  exact .inr (.inl (.inr ⟨e, member, List.mem_cons.mp among⟩))

theorem component {c : Component} (member : c ∈ s.walk) : c.Avoids mark := by
  intro u among
  apply avoids
  simp only [strings, List.cons_append, List.mem_cons, List.mem_append, List.mem_flatMap]
  exact .inr (.inr ⟨c, member, among⟩)

theorem rendered {c : Component} (member : c ∈ walkForest .rendered s.components) :
    c.Avoids mark := by
  apply avoids.component
  rw [s.walk_eq]
  exact (walkForest_rendered_sublist s.components).subset member

end Screen.Avoids

end AppScaffold
