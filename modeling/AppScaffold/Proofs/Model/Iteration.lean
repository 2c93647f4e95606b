import AppScaffold.Model.Prompt
import AppScaffold.Proofs.Json.Pretty
import AppScaffold.Proofs.Spec.RoundTrip

namespace AppScaffold

open Json Schema

/-- What is legible, and a text between it and the end of a frame, can be told from others in that
frame. -/
theorem framed_inj {α : Type} {write : α → String} {a b : α} (legible : Legible write a)
    {front heading gap first second m n : String}
    (closes : ∃ c, heading.toList.head? = some c ∧ isNumeral c = false)
    (same : front ++ write a ++ heading ++ m ++ gap ++ first ++ second =
      front ++ write b ++ heading ++ n ++ gap ++ first ++ second) : a = b ∧ m = n := by
  have texts := congrArg String.toList same
  simp only [String.toList_append, List.append_assoc] at texts
  have closed (rest : List Char) : Closed (heading.toList ++ rest) := by
    obtain ⟨c, head, other⟩ := closes
    intro d first
    rw [List.head?_append, head] at first
    exact Option.some.inj first ▸ other
  obtain ⟨rfl, behind⟩ := legible b _ _ (closed _) (closed _) (List.append_cancel_left texts)
  have ends := List.append_cancel_right (List.append_cancel_left behind)
  exact ⟨rfl, String.toList_inj.mp ends⟩

namespace AppSpecification

def Decoded (s : AppSpecification) : Prop :=
  (∃ v, ofValue v = .ok s) ∨ ∃ text, parse text = .ok s

theorem decoded_iff {s : AppSpecification} : s.Decoded ↔ s.normal = s := by
  constructor
  · rintro (⟨v, decoded⟩ | ⟨text, decoded⟩)
    · obtain ⟨form, -, rfl⟩ := map_eq_ok_iff.mp decoded
      exact normal_ofForm form
    · obtain ⟨form, -, rfl⟩ := map_eq_ok_iff.mp decoded
      exact normal_ofForm form
  · intro normal
    obtain ⟨form, fitted, read⟩ := s.fit_toValue
    exact .inl ⟨s.toValue, map_eq_ok_iff.mpr
      ⟨form, mapError_eq_ok_iff.mpr fitted, read.trans normal⟩⟩

theorem normal_eq_of_toValue_eq {s t : AppSpecification} (same : s.toValue = t.toValue) :
    s.normal = t.normal := by
  obtain ⟨form, fitted, first⟩ := s.fit_toValue
  obtain ⟨other, fits, second⟩ := t.fit_toValue
  rw [← same, fitted] at fits
  rw [← first, ← second, Except.ok.inj fits]

theorem iterationPrompt_congr {s t : AppSpecification} (same : s.toValue = t.toValue) (m : String) :
    s.iterationPrompt m = t.iterationPrompt m := by
  delta iterationPrompt
  rw [same]

/-- Equal prompts ask for the same change, of specifications that are written alike. Where both
come from documents they are one specification. -/
theorem iterationPrompt_inj {s t : AppSpecification} {m n : String}
    (same : s.iterationPrompt m = t.iterationPrompt n) :
    m = n ∧ s.toValue = t.toValue ∧ (s.Decoded → t.Decoded → s = t) := by
  obtain ⟨values, rfl⟩ := framed_inj (s.toValue.legible_prettyAt 0) ⟨'\n', rfl, rfl⟩ same
  refine ⟨rfl, values, fun first second => ?_⟩
  rw [← decoded_iff.mp first, ← decoded_iff.mp second, normal_eq_of_toValue_eq values]

def titled : AppSpecification where
  appName := "\n\nModification Request:\n"
  screens := [{ name := "Home", path := "/", components := [{ kind := .title }] }]

/-- The same app with a kind of component that no document gives: its name is that of a title. -/
def misnamed : AppSpecification where
  appName := "\n\nModification Request:\n"
  screens := [{ name := "Home", path := "/", components := [{ kind := .unknown "Title" }] }]

theorem iterationPrompt_titled :
    titled.iterationPrompt "Drop it.\n\nModification Request:\nKeep it." =
        misnamed.iterationPrompt "Drop it.\n\nModification Request:\nKeep it." ∧
      titled.toValue = misnamed.toValue ∧ titled.Decoded ∧ ¬ misnamed.Decoded := by
  have values : titled.toValue = misnamed.toValue := rfl
  have same (m : String) : titled.iterationPrompt m = misnamed.iterationPrompt m :=
    iterationPrompt_congr values m
  have decoded : titled.Decoded := decoded_iff.mpr rfl
  refine ⟨same _, (iterationPrompt_inj (same "Drop it.")).2.1, decoded, fun other => ?_⟩
  have equal := (iterationPrompt_inj (same "Drop it.")).2.2 decoded other
  cases equal

end AppSpecification

end AppScaffold
