import AppScaffold.Proofs.Markup.Signs
import AppScaffold.Proofs.Spec.Strings
import AppScaffold.Screen.Element

namespace AppScaffold

open Json Markup Text

/-- The texts that stand in an element beside the strings of its component, the call of a way to
another screen left aside. -/
def elementTexts : List String :=
  ["''", "() => ", "() => \x7b\x7d", "\x7b uri: ", "Unsupported component: ",
    defaultChangeHandler, defaultKeyExtractor]

/-- A mark that is in no text made of strings with the property, however they are written there. -/
structure Barred (mark : String) (P : String → Prop) : Prop where
  unwritten : Unwritten mark
  outside : Outside mark " '"
  plain {s : String} : P s → Text.Avoids mark s
  inValue {s : String} : P s → Text.Avoids mark (writeString s)
  inLiteral {s : String} : P s → Text.Avoids mark (literal s)
  inAttribute {s : String} : P s → Text.Avoids mark (attributeText s)
  joined {rows : List String} : (∀ s ∈ rows, P s) → P (", ".intercalate rows)
  fixed : ∀ t ∈ elementTexts, Text.Avoids mark t
  placeholder : P placeholderImage

theorem Markup.Sign.barred (g : Sign) : Barred g.text (Text.Avoids g.text) where
  unwritten := g.foreign.unwritten
  outside := g.of_each (by decide)
  plain := id
  inValue := g.foreign.avoids_writeString
  inLiteral := g.avoids_literal
  inAttribute := g.avoids_attributeText
  joined := g.avoids_separated
  fixed := g.of_each (by decide +kernel)
  placeholder := g.of_each (by decide +kernel)

section Barred

variable {mark : String} {P : String → Prop} (barred : Barred mark P)
include barred

theorem Barred.marked : mark ≠ "" := barred.unwritten.marked

theorem Barred.glue {s : String} (present : s ≠ "")
    (signs : s.toList.all (punctuation ++ " '").toList.contains = true) : Glue mark s := by
  refine .of_outside barred.marked present fun c member => ?_
  have known := List.all_eq_true.mp signs c member
  rw [List.contains_iff_mem, String.toList_append, List.mem_append] at known
  exact known.elim (barred.unwritten.outside c) (barred.outside c)

theorem Barred.spaced {s : String} (last : s.toList.getLast? = some ' ') :
    endsOutside mark s = true := by
  have blank : ' ' ∉ mark.toList := barred.outside ' ' (by decide)
  rw [endsOutside, last]
  simp [blank]

theorem Barred.separated {parts : List String} (avoids : ∀ s ∈ parts, Text.Avoids mark s) :
    Text.Avoids mark (", ".intercalate parts) := by
  refine .intercalate barred.marked (by decide) (fun c member => ?_) avoids
  rcases List.mem_cons.mp member with rfl | later
  · exact barred.unwritten.outside ',' (by decide)
  · exact barred.outside c (List.mem_cons.mpr (.inl (List.mem_singleton.mp later)))

theorem Barred.inBody {s : String} (free : P s) : Text.Avoids mark (bodyText s) := by
  rw [bodyText]
  split
  · exact (barred.glue (by decide) (by decide)).enclose (barred.glue (by decide) (by decide))
      (barred.inLiteral free)
  · exact barred.plain free

theorem Barred.inCompact {v : Value} (free : ∀ u ∈ v.strings, P u) : Text.Avoids mark v.compact :=
  v.avoids_compact_of_written barred.unwritten fun u member => barred.inValue (free u member)

theorem avoids_defaultKeyExtractor : Text.Avoids mark defaultKeyExtractor :=
  barred.fixed _ (by simp [elementTexts])

theorem avoids_rows {rows : List String} (free : ∀ u ∈ rows, P u) :
    Text.Avoids mark ("[" ++ ", ".intercalate (rows.map literal) ++ "]") := by
  have opening : Glue mark "[" := barred.glue (by decide) (by decide)
  have closing : Glue mark "]" := barred.glue (by decide) (by decide)
  refine opening.enclose closing (barred.separated fun u member => ?_)
  obtain ⟨row, among, rfl⟩ := List.mem_map.mp member
  exact barred.inLiteral (free row among)

theorem avoids_unknown {name : String} (free : P name) :
    Text.Avoids mark ("Unsupported component: " ++ bodyText name) := by
  have label : Text.Avoids mark "Unsupported component: " :=
    barred.fixed _ (by simp [elementTexts])
  exact label.append_of_ends (barred.inBody free) (barred.spaced (by decide))

end Barred

theorem Markup.Sign.avoids_call (g : Sign) {u : String} (avoids : Text.Avoids g.text u) :
    Text.Avoids g.text ("() => navigation.navigate(" ++ literal u ++ ")") := by
  have front : Glue g.text "() => navigation.navigate(" := g.of_each (by decide +kernel)
  have closing : Glue g.text ")" := g.of_each (by decide)
  exact front.enclose closing (g.avoids_literal avoids)

section Strings

variable {mark : String} {P : String → Prop} (barred : Barred mark P)
variable {c : Component} (free : ∀ u ∈ c.strings, P u)
include barred free

theorem avoids_ownValue {v : Value} (own : c.style = some v) : Text.Avoids mark v.compact :=
  barred.inCompact fun u member => free u (Component.mem_strings_of_style own member)

theorem avoids_ruleStyle (rule : StyleRule) (plain : Text.Avoids mark rule.reference) :
    Text.Avoids mark (ruleStyle rule c.style).body := by
  cases own : c.style with
  | none => exact plain
  | some v =>
    have opening : Glue mark "[" := barred.glue (by decide) (by decide)
    have comma : Glue mark ", " := barred.glue (by decide) (by decide)
    have closing : Glue mark "]" := barred.glue (by decide) (by decide)
    have front := opening.avoids.append_of_ends plain opening.ends
    have both := comma.join front (avoids_ownValue barred free own)
    exact both.append_of_begins closing.avoids closing.begins

theorem avoids_body : Text.Avoids mark c.body := by
  cases shown : c.content with
  | none =>
    rw [Component.body, shown]
    exact avoids_empty barred.marked
  | some content =>
    have strings : ∀ u ∈ content.strings, P u := fun u member =>
      free u (Component.mem_strings_of_content shown member)
    have display : P content.displayText := by
      cases content with
      | text s => exact strings s List.mem_cons_self
      | items rows => exact barred.joined strings
    rw [Component.body, shown]
    exact barred.inBody display

theorem avoids_filled {o : Option String} (known : o ∈ c.attributes) {other : String}
    (plain : Text.Avoids mark other) : Text.Avoids mark ((nonEmpty o).getD other) := by
  cases given : nonEmpty o with
  | none => exact plain
  | some u => exact barred.plain (free u (Component.mem_strings_of_nonEmpty known given))

theorem avoids_press (route : Option String)
    (call : ∀ u, route = some u →
      Text.Avoids mark ("() => navigation.navigate(" ++ literal u ++ ")")) :
    Text.Avoids mark (c.pressAttribute route).body := by
  rw [Component.pressAttribute, Attribute.body]
  cases route with
  | some u => exact call u rfl
  | none =>
    cases given : nonEmpty c.onPress with
    | none => exact barred.fixed "() => \x7b\x7d" (by simp [elementTexts])
    | some u =>
      have arrow : Text.Avoids mark "() => " := barred.fixed _ (by simp [elementTexts])
      have handler : u ∈ c.strings :=
        Component.mem_strings_of_nonEmpty (by simp [Component.attributes]) given
      exact arrow.append_of_ends (barred.plain (free u handler)) (barred.spaced (by decide))

theorem avoids_placeholder : Text.Avoids mark (attributeText (c.placeholder.getD "")) := by
  cases given : c.placeholder with
  | none => exact avoids_empty barred.marked
  | some u =>
    exact barred.inAttribute
      (free u (Component.mem_strings_of_attributes (by simp [Component.attributes]) given))

theorem avoids_value : Text.Avoids mark ((nonEmpty c.value).getD "''") :=
  avoids_filled barred free (by simp [Component.attributes])
    (barred.fixed _ (by simp [elementTexts]))

theorem avoids_changeHandler :
    Text.Avoids mark ((nonEmpty c.onChangeText).getD defaultChangeHandler) :=
  avoids_filled barred free (by simp [Component.attributes])
    (barred.fixed _ (by simp [elementTexts]))

theorem avoids_keyExtractor :
    Text.Avoids mark ((nonEmpty c.keyExtractor).getD defaultKeyExtractor) :=
  avoids_filled barred free (by simp [Component.attributes]) (avoids_defaultKeyExtractor barred)

theorem avoids_source : Text.Avoids mark
    ("\x7b uri: " ++ literal ((nonEmpty c.source).getD placeholderImage) ++ " \x7d") := by
  have opening : Text.Avoids mark "\x7b uri: " := barred.fixed _ (by simp [elementTexts])
  have closing : Glue mark " \x7d" := barred.glue (by decide) (by decide)
  have source : P ((nonEmpty c.source).getD placeholderImage) := by
    cases given : nonEmpty c.source with
    | none => exact barred.placeholder
    | some u =>
      exact free u (Component.mem_strings_of_nonEmpty (by simp [Component.attributes]) given)
  have front := opening.append_of_ends (barred.inLiteral source) (barred.spaced (by decide))
  exact front.append_of_begins closing.avoids closing.begins

theorem avoids_label {alt : String} (given : nonEmpty c.alt = some alt) :
    Text.Avoids mark (attributeText alt) :=
  barred.inAttribute
    (free alt (Component.mem_strings_of_nonEmpty (by simp [Component.attributes]) given))

theorem avoids_data : Text.Avoids mark (Value.array (c.data.getD [])).compact := by
  apply barred.inCompact
  rw [Value.strings]
  exact fun u member => free u (Component.mem_strings_of_data member)

end Strings

end AppScaffold
