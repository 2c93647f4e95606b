import AppScaffold.Proofs.Markup.Indentation
import AppScaffold.Proofs.Text.Places

namespace AppScaffold.Markup

open Text

mutual

def Element.labels : Element → List String
  | .inline tag attributes _ => tag :: attributes.map Attribute.name
  | .block tag attributes => tag :: attributes.map Attribute.name
  | .nested tag attributes children => tag :: attributes.map Attribute.name ++ forestLabels children

def forestLabels : List Element → List String
  | [] => []
  | e :: es => e.labels ++ forestLabels es

end

/-- A mark of ink, without a sign that tags are written with. -/
structure Verbal (mark : String) : Prop where
  marked : mark ≠ ""
  inked : Inked mark
  outside : Outside mark "<>/=\"\x7b\x7d"

variable {mark : String} (verbal : Verbal mark)
include verbal

namespace Verbal

theorem glue {s : String} (present : s ≠ "")
    (signs : s.toList.all (fun c => isBlank c || "<>/=\"\x7b\x7d".toList.contains c) = true) :
    Glue mark s := by
  refine .of_outside verbal.marked present fun c member known => ?_
  have sign := List.all_eq_true.mp signs c member
  rw [verbal.inked c known, Bool.false_or, List.contains_iff_mem] at sign
  exact verbal.outside c sign known

theorem placed_nil {s : String} (avoids : Avoids mark s) : Placed mark s [] :=
  (Placed.nil_iff verbal.marked).mpr avoids

end Verbal

theorem endsOutside_written (a : Attribute) : endsOutside mark a.written = true := by
  have brace : Glue mark "\x7d" := verbal.glue (by decide) (by decide)
  have quote : Glue mark "\"" := verbal.glue (by decide) (by decide)
  cases a with
  | code key body => exact endsOutside_append _ brace.ends
  | quoted key body => exact endsOutside_append _ quote.ends

theorem placed_written {a : Attribute} (label : Avoids mark a.name) :
    Placed mark a.written (places mark a.body) := by
  have named := verbal.placed_nil label
  have around {opening closing body : String} (before : Glue mark opening)
      (behind : Glue mark closing) :
      Placed mark (a.name ++ opening ++ body ++ closing) (places mark body) :=
    (named.glue verbal.marked before (.self mark body)).append_glue verbal.marked behind
  cases a with
  | code key body =>
    exact around (verbal.glue (by decide) (by decide)) (verbal.glue (by decide) (by decide))
  | quoted key body =>
    exact around (verbal.glue (by decide) (by decide)) (verbal.glue (by decide) (by decide))

section Tags

variable {tag : String} {attributes : List Attribute}

theorem placed_spaced (labels : ∀ l ∈ attributes.map Attribute.name, Avoids mark l) :
    Placed mark (spaced attributes) ((attributes.map Attribute.body).flatMap (places mark)) := by
  induction attributes with
  | nil => exact .self mark ""
  | cons a attributes ih =>
    rw [List.map_cons, List.forall_mem_cons] at labels
    have blank : Glue mark " " := verbal.glue (by decide) (by decide)
    have first := (placed_written verbal labels.1).glue_append verbal.marked blank
    have ends := endsOutside_append " " (endsOutside_written verbal a)
    rw [spaced, List.map_cons, String.join_cons, List.map_cons, List.flatMap_cons]
    exact first.append (ih labels.2) (.of_ends ends _)

variable (labels : ∀ l ∈ tag :: attributes.map Attribute.name, Avoids mark l)
include labels

theorem placed_opening :
    Placed mark ("<" ++ tag ++ spaced attributes)
      ((attributes.map Attribute.body).flatMap (places mark)) := by
  rw [List.forall_mem_cons] at labels
  have sign : Glue mark "<" := verbal.glue (by decide) (by decide)
  have named := (verbal.placed_nil labels.1).glue_append verbal.marked sign
  have blank : Glue mark " " := verbal.glue (by decide) (by decide)
  refine named.append (placed_spaced verbal labels.2) ?_
  cases attributes with
  | nil => exact .empty mark _
  | cons a attributes =>
    apply Unjoined.of_begins
    rw [spaced, List.map_cons, String.join_cons, beginsOutside, String.append_assoc,
      String.toList_append]
    exact blank.begins

theorem placed_openTag (level : Nat) :
    Placed mark (indent level ++ openTag tag attributes)
      ((attributes.map Attribute.body).flatMap (places mark)) := by
  have sign : Glue mark ">" := verbal.glue (by decide) (by decide)
  exact ((placed_opening verbal labels).append_glue verbal.marked sign).blank_append verbal.inked
    verbal.marked (isBlankText_spaces _)

theorem avoids_closeTag : Avoids mark (closeTag tag) := by
  have front : Glue mark "</" := verbal.glue (by decide) (by decide)
  have sign : Glue mark ">" := verbal.glue (by decide) (by decide)
  exact front.enclose sign (labels tag List.mem_cons_self)

theorem placed_enclosed (level : Nat) {inner : List String} {xs : List (String × String)}
    (placed : Placed mark (unlines inner) xs) :
    Placed mark (unlines (enclosed level tag attributes inner))
      ((attributes.map Attribute.body).flatMap (places mark) ++ xs) := by
  have opening : Placed mark (unlines [indent level ++ openTag tag attributes])
      ((attributes.map Attribute.body).flatMap (places mark)) :=
    placed_openTag verbal labels level
  have closing : Placed mark (unlines [indent level ++ closeTag tag]) [] :=
    verbal.placed_nil <| (avoids_closeTag verbal labels).blank_append verbal.inked
      (isBlankText_spaces _)
  have front := opening.unlines_append verbal.inked verbal.marked placed
  have whole := front.unlines_append verbal.inked verbal.marked closing
  rwa [List.append_nil] at whole

theorem placed_inline (level : Nat) (body : String) :
    Placed mark (indent level ++ openTag tag attributes ++ body ++ closeTag tag)
      ((attributes.map Attribute.body ++ [body]).flatMap (places mark)) := by
  have sign : Glue mark ">" := verbal.glue (by decide) (by decide)
  have front : Glue mark "</" := verbal.glue (by decide) (by decide)
  have ends : endsOutside mark (indent level ++ openTag tag attributes) = true :=
    endsOutside_append _ (endsOutside_append _ sign.ends)
  have begins : beginsOutside mark (closeTag tag) = true := by
    rw [beginsOutside, closeTag, String.append_assoc, String.toList_append]
    exact front.begins
  have opening := placed_openTag verbal labels level
  have text := opening.append (.self mark body) (.of_ends ends body)
  have whole := text.append (verbal.placed_nil (avoids_closeTag verbal labels))
    (.of_begins _ begins)
  rwa [List.append_nil, ← List.flatMap_singleton (places mark) body, ← List.flatMap_append] at whole

end Tags

theorem avoids_attributeLine (level : Nat) {a : Attribute} (label : Avoids mark a.name)
    (body : Avoids mark a.body) : ∀ l ∈ (lines a.written).map (attributeLine level), Avoids mark l := by
  have written : Avoids mark a.written := by
    rw [← Placed.nil_iff verbal.marked, ← (places_eq_nil_iff verbal.marked).mpr body]
    exact placed_written verbal label
  intro l member
  obtain ⟨line, among, rfl⟩ := List.mem_map.mp member
  have inner : Avoids mark line := fun occurs => written (occurs.trans (infix_of_mem_lines among))
  rw [attributeLine]
  split
  · exact avoids_empty verbal.marked
  · rw [String.append_assoc]
    exact (inner.blank_append verbal.inked (by decide)).blank_append verbal.inked
      (isBlankText_spaces _)

mutual

/-- An element has the places of the texts on the lines of its tags. -/
theorem Element.placed_lines (e : Element) (level : Nat) (labels : ∀ l ∈ e.labels, Avoids mark l)
    (bodies : ∀ a ∈ e.lineAttributes, Avoids mark a.body) :
    Placed mark (unlines (e.lines level)) (e.tagTexts.flatMap (places mark)) := by
  match e with
  | .inline tag attributes body =>
    rw [Element.lines, Element.tagTexts]
    exact placed_inline verbal labels level body
  | .block tag attributes =>
    rw [Element.labels, List.forall_mem_cons, List.forall_mem_map] at labels
    have front : Glue mark "<" := verbal.glue (by decide) (by decide)
    have last : Glue mark "/>" := verbal.glue (by decide) (by decide)
    apply Placed.unlines_of_avoids verbal.inked verbal.marked
    rw [Element.lines, List.forall_mem_append, List.forall_mem_cons, List.forall_mem_singleton]
    refine ⟨⟨?_, ?_⟩, last.avoids.blank_append verbal.inked (isBlankText_spaces _)⟩
    · rw [String.append_assoc]
      exact (front.avoids.append_of_ends labels.1 front.ends).blank_append verbal.inked
        (isBlankText_spaces _)
    · rw [List.forall_mem_flatMap]
      exact fun a member => avoids_attributeLine verbal level (labels.2 a member) (bodies a member)
  | .nested tag attributes children =>
    rw [Element.labels, List.cons_append, List.forall_mem_cons, List.forall_mem_append] at labels
    have own : ∀ l ∈ tag :: attributes.map Attribute.name, Avoids mark l :=
      List.forall_mem_cons.mpr ⟨labels.1, labels.2.1⟩
    rw [Element.lines, Element.tagTexts, List.flatMap_append]
    split
    · rename_i bare
      have sign : Glue mark " />" := verbal.glue (by decide) (by decide)
      have line := ((placed_opening verbal own).append_glue verbal.marked sign).blank_append
        verbal.inked verbal.marked (isBlankText_spaces (2 * level))
      rw [List.isEmpty_iff.mp bare]
      simpa [forestTagTexts, indent, unlines, String.append_assoc] using line
    · exact placed_enclosed verbal own level
        (placed_forestLines children (level + 1) labels.2.2 bodies)

theorem placed_forestLines (es : List Element) (level : Nat)
    (labels : ∀ l ∈ forestLabels es, Avoids mark l)
    (bodies : ∀ a ∈ forestLineAttributes es, Avoids mark a.body) :
    Placed mark (unlines (forestLines level es)) ((forestTagTexts es).flatMap (places mark)) := by
  match es with
  | [] => exact .self mark ""
  | e :: es =>
    rw [forestLabels, List.forall_mem_append] at labels
    rw [forestLineAttributes, List.forall_mem_append] at bodies
    rw [forestLines, forestTagTexts, List.flatMap_append]
    exact .unlines_append verbal.inked verbal.marked (e.placed_lines level labels.1 bodies.1)
      (placed_forestLines es level labels.2 bodies.2)

end

end AppScaffold.Markup
