import AppScaffold.Markup.Literal
import AppScaffold.Proofs.Json.Compact

namespace AppScaffold.Markup

open Json Text

variable {mark : String}

theorem escapes_literal (foreign : Foreign mark) (quote : Outside mark "'") :
    Escapes mark.toList escape := by
  intro c
  have apart : '\\' ∉ mark.toList := foreign.outside '\\' (by decide)
  have start (d : Char) (known : d ∈ escapeTails.toList) :
      '\\' ∉ mark.toList ∧ ∀ x ∈ [d], mark.toList.head? ≠ some x := by
    refine ⟨apart, fun x member => ?_⟩
    rw [List.mem_singleton.mp member]
    exact foreign.start d known
  unfold escape
  split
  · exact .inr ⟨'\\', ['\\'], rfl, start '\\' (by decide)⟩
  · refine .inr ⟨'\\', ['\''], rfl, apart, fun x member first => ?_⟩
    rw [List.mem_singleton.mp member] at first
    exact quote '\'' (by decide) (List.mem_of_head? first)
  · exact .inr ⟨'\\', ['n'], rfl, start 'n' (by decide)⟩
  · exact .inr ⟨'\\', ['r'], rfl, start 'r' (by decide)⟩
  · exact .inr ⟨'\\', ['t'], rfl, start 't' (by decide)⟩
  · exact .inl rfl

theorem avoids_literal (foreign : Foreign mark) (quote : Outside mark "'") {s : String}
    (avoids : Avoids mark s) : Avoids mark (literal s) :=
  .enclosed foreign.marked ⟨by decide, quote⟩ ⟨by decide, quote⟩
    (avoids.flatMap (escapes_literal foreign quote))

theorem escapes_attribute (entity : Outside mark "&") (start : Unstarted mark "quot;") :
    Escapes mark.toList attributeChar := by
  intro c
  unfold attributeChar
  split
  · exact .inr ⟨'&', ['q', 'u', 'o', 't', ';'], rfl, entity '&' (by decide), start⟩
  · exact .inl rfl

theorem avoids_attributeText (entity : Outside mark "&") (start : Unstarted mark "quot;")
    {s : String} (avoids : Avoids mark s) : Avoids mark (attributeText s) :=
  avoids.flatMap (escapes_attribute entity start)

theorem not_mem_literal {c : Char} (control : c = '\n' ∨ c = '\r' ∨ c = '\t') (s : String) :
    c ∉ (literal s).toList := by
  have escaped : ∀ d, c ∉ escape d := by
    intro d
    unfold escape
    split
    any_goals rcases control with rfl | rfl | rfl <;> decide
    rename_i feed carriage tab
    intro member
    obtain rfl := List.mem_singleton.mp member
    exact control.elim feed (·.elim carriage tab)
  rcases control with rfl | rfl | rfl <;> simp [literal, escaped]

theorem lineFeed_not_mem_literal (s : String) : '\n' ∉ (literal s).toList :=
  not_mem_literal (.inl rfl) s

/-- Text between tags has a line feed only where it is not written as a literal. -/
theorem lineFeed_not_mem_bodyText {s : String}
    (plain : s.toList.any isSpecial = false → '\n' ∉ s.toList) : '\n' ∉ (bodyText s).toList := by
  rw [bodyText]
  split
  · simp [lineFeed_not_mem_literal]
  · rename_i plainly
    exact plain (by simpa using plainly)

theorem lineFeed_not_mem_attributeText {s : String} (single : '\n' ∉ s.toList) :
    '\n' ∉ (attributeText s).toList := by
  rw [attributeText, String.toList_ofList, List.mem_flatMap]
  rintro ⟨c, member, feed⟩
  unfold attributeChar at feed
  split at feed
  · exact absurd feed (by decide)
  · exact single (List.mem_singleton.mp feed ▸ member)

end AppScaffold.Markup
