import AppScaffold.Proofs.Screen.Frame
import AppScaffold.Proofs.Screen.Openings

namespace AppScaffold

open Markup Text

/-- What a screen opens: the two primitives around it, and what its rendered components open. -/
def Screen.openings (s : Screen) : List Opening :=
  [(.safeAreaView, some .container), (.scrollView, some .content)] ++
    s.walkRendered.flatMap Component.openings

theorem names_markupLines (m : Mark) {s : Screen} (avoids : s.Avoids m.text) :
    s.markupLines.flatMap m.names = s.openings.flatMap (Opening.mentions m) := by
  have inner : (forestLines 4 (forestElements s.components)).flatMap m.names =
      s.walkRendered.flatMap fun d => d.openings.flatMap (Opening.mentions m) := by
    rw [names_forestLines m 4 _ (named_forestElements s.components), s.walkRendered_eq]
    exact mentions_forestElements m s.components fun d member => avoids.rendered member
  rw [Screen.markupLines, names_enclosed m 2 (by decide) (by simp +decide),
    names_enclosed m 3 (by decide) (by simp +decide), inner, Screen.openings,
    List.flatMap_append, List.flatMap_assoc]
  simp [openingNames, Opening.mentions, NativePrimitive.name, styleAttribute]

theorem names_lines_eq_nil (m : Mark) {ls : List String}
    (avoids : ∀ l ∈ ls, Text.Avoids m.text l) : ls.flatMap m.names = [] := by
  rw [List.flatMap_eq_nil_iff]
  exact fun l member => names_eq_nil m (avoids l member)

theorem names_moduleText (m : Mark) {s : Screen} (avoids : s.Avoids m.text) :
    m.names s.moduleText = s.openings.flatMap (Opening.mentions m) := by
  have above := names_lines_eq_nil m (avoids_linesAbove (.of m) avoids)
  have below := names_lines_eq_nil m (avoids_linesBelow (.of m))
  calc m.names s.moduleText
    _ = s.lines.flatMap m.names := namesAfter_unlines m.inked m.marked s.lines
    _ = s.markupLines.flatMap m.names := by
      rw [s.lines_eq, List.flatMap_append, List.flatMap_append, above, below, List.nil_append,
        List.append_nil]
    _ = s.openings.flatMap (Opening.mentions m) := names_markupLines m avoids

end AppScaffold
