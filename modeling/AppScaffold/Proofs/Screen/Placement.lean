import AppScaffold.Proofs.Spec.Walk
import AppScaffold.Proofs.Text.Lines
import AppScaffold.Screen.Module

namespace AppScaffold

open Markup Text

theorem Text.infix_unlines {ls ks : List String} (within : ls <:+: ks) :
    (unlines ls).toList <:+: (unlines ks).toList := by
  obtain ⟨front, back, rfl⟩ := within
  by_cases none : ls = []
  · rw [none]
    exact List.nil_infix
  · have behind : (unlines ls).toList <:+: (unlines (ls ++ back)).toList := by
      by_cases last : back = []
      · simp [last]
      · rw [unlines_append ls back none last, String.append_assoc, String.toList_append]
        exact (List.prefix_append _ _).isInfix
    rw [List.append_assoc]
    by_cases first : front = []
    · rw [first]
      exact behind
    · rw [unlines_append front _ first (by simp [none]), String.toList_append]
      exact behind.trans (List.suffix_append _ _).isInfix

theorem Markup.infix_enclosed (level : Nat) (tag : String) (attributes : List Attribute)
    (inner : List String) : inner <:+: enclosed level tag attributes inner :=
  ⟨[indent level ++ openTag tag attributes], [indent level ++ closeTag tag], rfl⟩

theorem Component.element_eq (c : Component) :
    c.element = c.elementAround (forestElements c.children) := by
  cases c
  rw [element]

theorem Component.elementAround_of_container {c : Component}
    (container : c.kind.isContainer = true) :
    ∃ tag attributes, ∀ children, c.elementAround children = .nested tag attributes children := by
  cases kind : c.kind with
  | card | scrollView | view | touchableOpacity | safeAreaView => simp [elementAround, kind]
  | _ =>
    rw [kind] at container
    cases container

/-- A component that is no container does not show its children. -/
theorem Component.elementAround_of_leaf {c : Component} (leaf : c.kind.isContainer = false)
    (first second : List Element) : c.elementAround first = c.elementAround second := by
  cases kind : c.kind with
  | card | scrollView | view | touchableOpacity | safeAreaView =>
    rw [kind] at leaf
    cases leaf
  | _ => simp [elementAround, kind]

theorem Component.forestLines_infix_elementAround {c : Component}
    (container : c.kind.isContainer = true) (level : Nat) (children : List Element) :
    forestLines (level + 1) children <:+: (c.elementAround children).lines level := by
  obtain ⟨tag, attributes, element⟩ := elementAround_of_container container
  rw [element, Element.lines]
  cases children with
  | nil => exact List.nil_infix
  | cons e es => exact infix_enclosed level tag attributes _

theorem forestLines_infix (cs : List Component) {d : Component}
    (member : d ∈ walkForest .rendered cs) (level : Nat) :
    ∃ inner, d.element.lines inner <:+: forestLines level (forestElements cs) := by
  induction cs using forest_induction generalizing level with
  | nil => cases member
  | cons c cs below behind =>
    rw [forestElements, forestLines]
    rcases mem_walkForest_cons.mp member with (rfl | ⟨container, deeper⟩) | later
    · exact ⟨level, (List.prefix_append _ _).isInfix⟩
    · obtain ⟨inner, within⟩ := below deeper (level + 1)
      have around := c.forestLines_infix_elementAround container level (forestElements c.children)
      rw [← c.element_eq] at around
      exact ⟨inner, within.trans (around.trans (List.prefix_append _ _).isInfix)⟩
    · obtain ⟨inner, within⟩ := behind later level
      exact ⟨inner, within.trans (List.suffix_append _ _).isInfix⟩

namespace Screen

theorem markupLines_infix (s : Screen) : s.markupLines <:+: s.lines := by
  have split : s.lines = (s.importLines ++ [""] ++
      (["export default function " ++ s.componentName ++ "() \x7b"] ++
        blocks (s.declarations :: s.effects.map Effect.block) ++ ["  return ("])) ++
      s.markupLines ++ (["  );", "\x7d"] ++ [""] ++ stylesheetLines StyleRule.all ++ [""]) := by
    simp only [lines, functionLines, List.append_assoc]
  exact ⟨_, _, split.symm⟩

theorem componentLines_infix (s : Screen) :
    forestLines 4 (forestElements s.components) <:+: s.lines := by
  have framed : forestLines 4 (forestElements s.components) <:+: s.markupLines :=
    (infix_enclosed 3 "ScrollView" _ _).trans (infix_enclosed 2 "SafeAreaView" _ _)
  exact framed.trans s.markupLines_infix

/-- Whatever is rendered is in the module as it is rendered at some level. -/
theorem exists_render_infix {s : Screen} {c : Component} (member : c ∈ s.walkRendered) :
    ∃ level, (c.render level).toList <:+: s.moduleText.toList := by
  rw [walkRendered_eq] at member
  obtain ⟨level, within⟩ := forestLines_infix s.components member 4
  exact ⟨level, infix_unlines (within.trans s.componentLines_infix)⟩

end Screen

end AppScaffold
