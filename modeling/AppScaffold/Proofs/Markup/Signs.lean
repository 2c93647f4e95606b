import AppScaffold.Proofs.Markup.Mentions

namespace AppScaffold.Markup

open Json Text

inductive Sign
  | of (m : Mark)
  /-- The end of a tag that closes its own element. -/
  | ending

namespace Sign

def text : Sign → String
  | of m => m.text
  | ending => "/>"

@[elab_as_elim]
theorem of_each {motive : Sign → Prop} (g : Sign)
    (each : motive (.of .tag) ∧ motive (.of .style) ∧ motive .ending) : motive g := by
  rcases g with (_ | _) | _
  · exact each.1
  · exact each.2.1
  · exact each.2.2

variable (g : Sign)

theorem foreign : Foreign g.text := by
  cases g with
  | of m => exact m.foreign
  | ending =>
    exact
      { marked := by decide
        outside := by decide
        numeral := by decide
        words := by decide
        start := by decide }

theorem inked : Inked g.text := by
  cases g with
  | of m => exact m.inked
  | ending => decide

theorem avoids_word {s : String} (word : isWord s = true) : Avoids g.text s := by
  cases g with
  | of m => exact m.avoids_word word
  | ending =>
    intro occurs
    have slash := List.all_eq_true.mp word '/' (occurs.subset (by decide))
    exact absurd slash (by decide)

theorem quote : Outside g.text "'" := by
  cases g with
  | of m => exact m.quote
  | ending => decide

theorem avoids_literal {s : String} (avoids : Avoids g.text s) : Avoids g.text (literal s) :=
  Markup.avoids_literal g.foreign g.quote avoids

theorem avoids_attributeText {s : String} (avoids : Avoids g.text s) :
    Avoids g.text (attributeText s) := by
  have entity : Outside g.text "&" := g.of_each (by decide)
  have start : Unstarted g.text "quot;" := g.of_each (by decide)
  exact Markup.avoids_attributeText entity start avoids

theorem avoids_separated {parts : List String} (avoids : ∀ s ∈ parts, Avoids g.text s) :
    Avoids g.text (", ".intercalate parts) := by
  have comma : Outside g.text ", " := g.of_each (by decide)
  exact .intercalate g.foreign.marked (by decide) comma avoids

end Sign

end AppScaffold.Markup
