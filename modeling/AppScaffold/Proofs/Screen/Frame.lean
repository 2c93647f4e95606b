import AppScaffold.Proofs.Markup.Signs
import AppScaffold.Proofs.Spec.Strings
import AppScaffold.Proofs.Text.Case
import AppScaffold.Screen.Module

namespace AppScaffold

open Markup Text

namespace Screen

/-- What a module holds whatever the strings of its screen are. -/
def fixedTexts : List String :=
  ["import \x7b useNavigation \x7d from '@react-navigation/native';", "  useEffect(() => \x7b",
    "  const navigation = useNavigation();", "  return (", "  );", "\x7d", "",
    "const styles = StyleSheet.create(\x7b", "\x7d);", "export default function "]

/-- The texts that stand in a line of a module beside the strings of its screen. -/
def joints : List String :=
  ["import \x7b ", " \x7d from 'react-native';", "Screen() \x7b", "  const [", ", ",
    "] = useState(", ");", "  \x7d, [", "]);", ": \x7b", ": ", ",", "\x7d,"]

def reactLine (s : Screen) : String :=
  "import React" ++
    (if s.hooks.isEmpty then "" else ", \x7b " ++ ", ".intercalate s.hooks ++ " \x7d") ++
    " from 'react';"

def nativeLine (names : List String) : String :=
  "import \x7b " ++ ", ".intercalate names ++ " \x7d from 'react-native';"

theorem importLines_eq (s : Screen) : s.importLines =
    s.reactLine :: nativeLine (s.imports.map NativePrimitive.name) ::
      if s.usesNavigation then ["import \x7b useNavigation \x7d from '@react-navigation/native';"]
      else [] := rfl

theorem hooks_mem (s : Screen) :
    s.hooks ∈ [[], ["useState"], ["useEffect"], ["useState", "useEffect"]] := by
  rw [hooks]
  cases s.hasState <;> cases s.hasEffects <;> decide

theorem avoids_reactLine {mark : String} (s : Screen)
    (free : ∀ hooks ∈ [[], ["useState"], ["useEffect"], ["useState", "useEffect"]],
      Text.Avoids mark ("import React" ++
        (if hooks.isEmpty then "" else ", \x7b " ++ ", ".intercalate hooks ++ " \x7d") ++
        " from 'react';")) :
    Text.Avoids mark s.reactLine :=
  free s.hooks s.hooks_mem

end Screen

def StyleProperty.entries : StyleProperty → List (String × String)
  | plain name value => [(name, value)]
  | group name parts => (name, "") :: parts

section Upper

variable (g : Sign)

theorem upperChar_keeps (c : Char) :
    upperChar c = [c] ∨ ∀ d ∈ upperChar c, g.text.toList.head? ≠ some d := by
  have sign (d : Char) (below : d.toNat < 0x41) (alone : upperChar d = [d])
      (first : g.text.toList.head? = some d) :
      upperChar c = [c] ∨ ∀ e ∈ upperChar c, g.text.toList.head? ≠ some e := by
    by_cases among : d ∈ upperChar c
    · rw [← eq_of_mem_upperChar below among]
      exact .inl alone
    · refine .inr fun e member same => among ?_
      rw [first] at same
      rwa [Option.some.inj same]
  rcases g with (_ | _) | _
  · exact sign '<' (by decide) (by decide +kernel) rfl
  · refine .inr fun d member first => ?_
    have small : 's' = d := by simpa [Sign.text, Mark.text] using first
    exact not_mem_upperChar (by decide) c (small ▸ member)
  · exact sign '/' (by decide) (by decide +kernel) rfl

omit g in
theorem avoids_upperFirst {mark : String} (marked : mark ≠ "")
    (keeps : ∀ c, upperChar c = [c] ∨ ∀ d ∈ upperChar c, mark.toList.head? ≠ some d) {s : String}
    (avoids : Text.Avoids mark s) : Text.Avoids mark (upperFirst s) := by
  rw [Text.Avoids] at avoids
  intro occurs
  rw [upperFirst] at occurs
  split at occurs
  · exact avoids_empty marked occurs
  · rename_i c cs chars
    rw [String.toList_ofList] at occurs
    rw [chars] at avoids
    rcases keeps c with same | start
    · rw [same] at occurs
      exact avoids occurs
    · exact avoids (List.infix_cons (infix_of_infix_append start occurs))

end Upper

section Lines

variable (g : Sign)

theorem avoids_fixedTexts : ∀ l ∈ Screen.fixedTexts, Text.Avoids g.text l :=
  g.of_each (by decide +kernel)

theorem glue_joints : ∀ t ∈ Screen.joints, Glue g.text t :=
  g.of_each (by decide +kernel)

theorem avoids_setterName {binding : String} (avoids : Text.Avoids g.text binding) :
    Text.Avoids g.text (setterName binding) := by
  have upper := avoids_upperFirst g.foreign.marked (upperChar_keeps g) avoids
  have start : Unstarted g.text "et" := g.of_each (by decide)
  intro occurs
  -- Only the `s` in front can begin a sign, and no sign goes on with `e`.
  rcases List.infix_cons_iff.mp (show g.text.toList <:+: 's' :: ("et" ++ upperFirst binding).toList
    by simpa [setterName] using occurs) with begins | later
  · rcases g with (_ | _) | _ <;> simp [Sign.text, Mark.text] at begins
  · rw [String.toList_append] at later
    exact upper (infix_of_infix_append start later)

theorem avoids_nativeLine (s : Screen) :
    Text.Avoids g.text (Screen.nativeLine (s.imports.map NativePrimitive.name)) := by
  have opening : Glue g.text "import \x7b " := glue_joints g _ (by simp [Screen.joints])
  have closing : Glue g.text " \x7d from 'react-native';" :=
    glue_joints g _ (by simp [Screen.joints])
  refine opening.enclose closing (g.avoids_separated fun u member => ?_)
  obtain ⟨p, -, rfl⟩ := List.mem_map.mp member
  apply g.avoids_word
  cases p <;> decide

theorem avoids_importLines (s : Screen) : ∀ l ∈ s.importLines, Text.Avoids g.text l := by
  have react : Text.Avoids g.text s.reactLine :=
    s.avoids_reactLine (g.of_each (by decide +kernel))
  have navigation :
      Text.Avoids g.text "import \x7b useNavigation \x7d from '@react-navigation/native';" :=
    avoids_fixedTexts g _ (by simp [Screen.fixedTexts])
  rw [Screen.importLines_eq, List.forall_mem_cons, List.forall_mem_cons]
  refine ⟨react, avoids_nativeLine g s, fun l member => ?_⟩
  split at member
  · rw [List.mem_singleton.mp member]
    exact navigation
  · cases member

theorem avoids_declaration {b : StateBinding}
    (avoids : ∀ u ∈ b.name :: b.initialValue.strings, Text.Avoids g.text u) :
    Text.Avoids g.text b.declaration := by
  rw [List.forall_mem_cons] at avoids
  have opening : Glue g.text "  const [" := glue_joints g _ (by simp [Screen.joints])
  have comma : Glue g.text ", " := glue_joints g _ (by simp [Screen.joints])
  have call : Glue g.text "] = useState(" := glue_joints g _ (by simp [Screen.joints])
  have closing : Glue g.text ");" := glue_joints g _ (by simp [Screen.joints])
  have name := opening.avoids.append_of_ends avoids.1 opening.ends
  have pair := comma.join name (avoids_setterName g avoids.1)
  have value := call.join pair (b.initialValue.avoids_compact g.foreign avoids.2)
  exact value.append_of_begins closing.avoids closing.begins

theorem avoids_block {e : Effect} (avoids : ∀ u ∈ e.code :: e.dependencies, Text.Avoids g.text u) :
    ∀ l ∈ e.block, Text.Avoids g.text l := by
  rw [List.forall_mem_cons] at avoids
  have first : Text.Avoids g.text "  useEffect(() => \x7b" :=
    avoids_fixedTexts g _ (by simp [Screen.fixedTexts])
  have opening : Glue g.text "  \x7d, [" := glue_joints g _ (by simp [Screen.joints])
  have closing : Glue g.text "]);" := glue_joints g _ (by simp [Screen.joints])
  have code := avoids.1.indentLines g.inked g.foreign.marked 4
  have last := opening.enclose closing (g.avoids_separated avoids.2)
  simp only [Effect.block, List.forall_mem_cons]
  exact ⟨first, code, last, List.forall_mem_nil _⟩

theorem avoids_blocks {parts : List (List String)}
    (avoids : ∀ ls ∈ parts, ∀ l ∈ ls, Text.Avoids g.text l) :
    ∀ l ∈ blocks parts, Text.Avoids g.text l := by
  intro l member
  obtain ⟨ls, filled, among⟩ := List.mem_flatMap.mp member
  rcases List.mem_append.mp among with inner | last
  · exact avoids ls (List.mem_filter.mp filled).1 l inner
  · rw [List.mem_singleton.mp last]
    exact avoids_empty g.foreign.marked

theorem avoids_heading (level : Nat) {name : String} (word : isWord name = true) :
    Text.Avoids g.text (indent level ++ name ++ ": \x7b") := by
  have opening : Glue g.text ": \x7b" := glue_joints g _ (by simp [Screen.joints])
  have name := (g.avoids_word word).blank_append g.inked (isBlankText_spaces (2 * level))
  exact name.append_of_begins opening.avoids opening.begins

theorem avoids_assignment (level : Nat) {name value : String} (word : isWord name = true)
    (free : Text.Avoids g.text value) :
    Text.Avoids g.text (StyleProperty.assignment level name value) := by
  have colon : Glue g.text ": " := glue_joints g _ (by simp [Screen.joints])
  have comma : Glue g.text "," := glue_joints g _ (by simp [Screen.joints])
  have name := (g.avoids_word word).blank_append g.inked (isBlankText_spaces (2 * level))
  exact (colon.join name free).append_of_begins comma.avoids comma.begins

theorem avoids_closing (level : Nat) : Text.Avoids g.text (indent level ++ "\x7d,") := by
  have closing : Glue g.text "\x7d," := glue_joints g _ (by simp [Screen.joints])
  exact closing.avoids.blank_append g.inked (isBlankText_spaces _)

theorem avoids_propertyLines (level : Nat) {p : StyleProperty}
    (plain : ∀ entry ∈ p.entries, isWord entry.1 = true ∧ Text.Avoids g.text entry.2) :
    ∀ l ∈ p.lines level, Text.Avoids g.text l := by
  intro l member
  cases p with
  | plain name value =>
    have fits := plain (name, value) List.mem_cons_self
    rw [List.mem_singleton.mp member]
    exact avoids_assignment g level fits.1 fits.2
  | group name parts =>
    rcases List.mem_append.mp member with front | last
    · rcases List.mem_cons.mp front with rfl | part
      · exact avoids_heading g level (plain (name, "") List.mem_cons_self).1
      · obtain ⟨entry, among, rfl⟩ := List.mem_map.mp part
        have fits := plain entry (List.mem_cons_of_mem _ among)
        exact avoids_assignment g (level + 1) fits.1 fits.2
    · rw [List.mem_singleton.mp last]
      exact avoids_closing g level

theorem plain_properties (rule : StyleRule) : ∀ p ∈ rule.properties, ∀ entry ∈ p.entries,
    isWord entry.1 = true ∧ Text.Avoids g.text entry.2 := by
  refine g.of_each ?_
  cases rule <;> decide +kernel

theorem avoids_ruleLines (rule : StyleRule) : ∀ l ∈ rule.lines, Text.Avoids g.text l := by
  have word : isWord rule.name = true := by
    cases rule <;> decide
  intro l member
  rcases List.mem_append.mp member with front | last
  · rcases List.mem_cons.mp front with rfl | inner
    · exact avoids_heading g 1 word
    · obtain ⟨p, property, among⟩ := List.mem_flatMap.mp inner
      exact avoids_propertyLines g 2 (plain_properties g rule p property) l among
  · rw [List.mem_singleton.mp last]
    exact avoids_closing g 1

theorem avoids_stylesheetLines (rules : List StyleRule) :
    ∀ l ∈ stylesheetLines rules, Text.Avoids g.text l := by
  have first : Text.Avoids g.text "const styles = StyleSheet.create(\x7b" :=
    avoids_fixedTexts g _ (by simp [Screen.fixedTexts])
  have last : Text.Avoids g.text "\x7d);" :=
    avoids_fixedTexts g _ (by simp [Screen.fixedTexts])
  intro l member
  rcases List.mem_append.mp member with front | closing
  · rcases List.mem_cons.mp front with rfl | inner
    · exact first
    · obtain ⟨rule, -, among⟩ := List.mem_flatMap.mp inner
      exact avoids_ruleLines g rule l among
  · rw [List.mem_singleton.mp closing]
    exact last

theorem avoids_declarations {s : Screen} (avoids : s.Avoids g.text) :
    ∀ l ∈ s.declarations, Text.Avoids g.text l := by
  have navigation : Text.Avoids g.text "  const navigation = useNavigation();" :=
    avoids_fixedTexts g _ (by simp [Screen.fixedTexts])
  intro l member
  rcases List.mem_append.mp member with leads | declared
  · split at leads
    · rw [List.mem_singleton.mp leads]
      exact navigation
    · cases leads
  · obtain ⟨b, among, rfl⟩ := List.mem_map.mp declared
    exact avoids_declaration g (avoids.state among)

theorem avoids_functionHead {s : Screen} (avoids : s.Avoids g.text) :
    Text.Avoids g.text ("export default function " ++ s.componentName ++ "() \x7b") := by
  have front : Text.Avoids g.text "export default function " :=
    avoids_fixedTexts g _ (by simp [Screen.fixedTexts])
  have gap : endsOutside g.text "export default function " = true :=
    g.of_each (by simp [endsOutside, Sign.text, Mark.text])
  have suffix : Glue g.text "Screen() \x7b" := glue_joints g _ (by simp [Screen.joints])
  have split : "export default function " ++ s.componentName ++ "() \x7b" =
      "export default function " ++ s.name ++ "Screen() \x7b" := by
    apply String.toList_injective
    simp [Screen.componentName]
  rw [split]
  exact (front.append_of_ends avoids.name gap).append_of_begins suffix.avoids suffix.begins

end Lines

namespace Screen

def linesAbove (s : Screen) : List String :=
  s.importLines ++ [""] ++ ["export default function " ++ s.componentName ++ "() \x7b"] ++
    blocks (s.declarations :: s.effects.map Effect.block) ++ ["  return ("]

def linesBelow : List String := ["  );", "\x7d", ""] ++ stylesheetLines StyleRule.all ++ [""]

theorem lines_eq (s : Screen) : s.lines = s.linesAbove ++ s.markupLines ++ linesBelow := by
  simp [lines, functionLines, linesAbove, linesBelow]

end Screen

section Frame

variable (g : Sign)

theorem avoids_linesAbove {s : Screen} (avoids : s.Avoids g.text) :
    ∀ l ∈ s.linesAbove, Text.Avoids g.text l := by
  have opening : Text.Avoids g.text "  return (" :=
    avoids_fixedTexts g _ (by simp [Screen.fixedTexts])
  have body : ∀ l ∈ blocks (s.declarations :: s.effects.map Effect.block),
      Text.Avoids g.text l := by
    apply avoids_blocks
    intro ls member
    rcases List.mem_cons.mp member with rfl | effect
    · exact avoids_declarations g avoids
    · obtain ⟨e, among, rfl⟩ := List.mem_map.mp effect
      exact avoids_block g (avoids.effect among)
  intro l member
  simp only [Screen.linesAbove, List.mem_append, List.mem_singleton] at member
  rcases member with (((imported | rfl) | rfl) | inner) | rfl
  · exact avoids_importLines g s l imported
  · exact avoids_empty g.foreign.marked
  · exact avoids_functionHead g avoids
  · exact body l inner
  · exact opening

theorem avoids_linesBelow : ∀ l ∈ Screen.linesBelow, Text.Avoids g.text l := by
  have fixed : ["  );", "\x7d", ""] ⊆ Screen.fixedTexts := by
    simp [Screen.fixedTexts]
  intro l member
  simp only [Screen.linesBelow, List.mem_append, List.mem_singleton] at member
  rcases member with (front | sheet) | rfl
  · exact avoids_fixedTexts g l (fixed front)
  · exact avoids_stylesheetLines g StyleRule.all l sheet
  · exact avoids_empty g.foreign.marked

end Frame

end AppScaffold
