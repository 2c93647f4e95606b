import AppScaffold.Proofs.Text.Names
import Mathlib.Data.List.Basic
import Mathlib.Data.List.Forall2
import Mathlib.Data.List.Infix

/-! The places of a mark in a text, with what stands before each of them and what stands behind it.
Where no mark begins in one text and ends in the next, the places of both together are those of the
one and then those of the other. -/

namespace AppScaffold.Text

def placesOf (mark : List Char) : List Char → List (List Char × List Char)
  | [] => []
  | c :: cs =>
    (mark.isPrefixOf? (c :: cs)).toList.map (fun behind => ([], behind)) ++
      (placesOf mark cs).map fun p => (c :: p.1, p.2)

/-- What stands before a mark and what stands behind it, for each of its places, in their order. -/
def places (mark text : String) : List (String × String) :=
  (placesOf mark.toList text.toList).map fun p => (String.ofList p.1, String.ofList p.2)

/-- No place of the mark begins in the first text and ends in the second. -/
def Unjoined (mark a b : String) : Prop :=
  ∀ p q, mark.toList = p ++ q → p ≠ [] → q ≠ [] → p <:+ a.toList → ¬ q <+: b.toList

section Chars

variable {mark : List Char}

theorem mem_placesOf_iff (marked : mark ≠ []) {cs before behind : List Char} :
    (before, behind) ∈ placesOf mark cs ↔ before ++ mark ++ behind = cs := by
  induction cs generalizing before with
  | nil => simp [placesOf, marked]
  | cons c cs ih =>
    rw [placesOf, List.mem_append]
    cases before with
    | nil => simp [List.mem_map]
    | cons d before => simp [List.mem_map, ih, and_comm, eq_comm]

theorem isPrefixOf?_append {a b : List Char}
    (apart : ∀ q, mark = a ++ q → q ≠ [] → ¬ q <+: b) :
    mark.isPrefixOf? (a ++ b) = (mark.isPrefixOf? a).map (· ++ b) := by
  apply Option.ext
  intro behind
  rw [List.isPrefixOf?_eq_some_iff_append_eq, List.append_eq_append_iff]
  simp only [Option.map_eq_some_iff, List.isPrefixOf?_eq_some_iff_append_eq]
  constructor
  · intro split
    cases split with
    | inl within =>
      obtain ⟨rest, whole, rfl⟩ := within
      exact ⟨rest, whole.symm, rfl⟩
    | inr beyond =>
      obtain ⟨q, whole, later⟩ := beyond
      by_cases none : q = []
      · exact ⟨[], by simp [whole, none], by simp [later, none]⟩
      · exact absurd ⟨behind, later.symm⟩ (apart q whole none)
  · intro found
    obtain ⟨rest, whole, same⟩ := found
    exact .inl ⟨rest, whole.symm, same.symm⟩

theorem placesOf_append {a b : List Char}
    (apart : ∀ p q, mark = p ++ q → p ≠ [] → q ≠ [] → p <:+ a → ¬ q <+: b) :
    placesOf mark (a ++ b) =
      (placesOf mark a).map (fun p => (p.1, p.2 ++ b)) ++
        (placesOf mark b).map fun p => (a ++ p.1, p.2) := by
  induction a with
  | nil => simp [placesOf]
  | cons c a ih =>
    have here : mark.isPrefixOf? (c :: a ++ b) = (mark.isPrefixOf? (c :: a)).map (· ++ b) :=
      isPrefixOf?_append fun q whole later =>
        apart _ q whole (List.cons_ne_nil c a) later List.suffix_rfl
    have rest := ih fun p q whole some later ends =>
      apart p q whole some later (ends.trans (List.suffix_cons c a))
    rw [List.cons_append] at here ⊢
    rw [placesOf, placesOf, here, rest]
    cases mark.isPrefixOf? (c :: a) <;> simp [List.map_map, Function.comp_def]

end Chars

variable {mark a b : String}

theorem mem_places_iff (marked : mark ≠ "") {text before behind : String} :
    (before, behind) ∈ places mark text ↔ before ++ mark ++ behind = text := by
  have some : mark.toList ≠ [] := fun none => marked (String.toList_eq_nil_iff.mp none)
  have chars : (before, behind) ∈ places mark text ↔
      (before.toList, behind.toList) ∈ placesOf mark.toList text.toList := by
    rw [places, List.mem_map]
    constructor
    · intro found
      obtain ⟨p, member, same⟩ := found
      cases same
      simpa using member
    · intro member
      exact ⟨_, member, by simp⟩
  rw [chars, mem_placesOf_iff some, ← String.toList_append, ← String.toList_append,
    String.toList_inj]

theorem places_eq_nil_iff (marked : mark ≠ "") {text : String} :
    places mark text = [] ↔ Avoids mark text := by
  rw [List.eq_nil_iff_forall_not_mem, Avoids]
  constructor
  · intro none occurs
    obtain ⟨before, behind, whole⟩ := occurs
    refine none (String.ofList before, String.ofList behind) ((mem_places_iff marked).mpr ?_)
    apply String.toList_injective
    simpa using whole
  · intro avoids p member
    have whole := (mem_places_iff marked).mp member
    refine avoids ⟨p.1.toList, p.2.toList, ?_⟩
    rw [← String.toList_append, ← String.toList_append, whole]

theorem places_append (apart : Unjoined mark a b) :
    places mark (a ++ b) =
      (places mark a).map (fun p => (p.1, p.2 ++ b)) ++
        (places mark b).map fun p => (a ++ p.1, p.2) := by
  rw [places, places, places, String.toList_append, placesOf_append apart]
  simp [Function.comp_def, String.ofList_append]

theorem Unjoined.of_ends (ends : endsOutside mark a = true) (b : String) : Unjoined mark a b := by
  intro p q whole begun _ ending _
  obtain ⟨c, last, outside⟩ := (Option.any_eq_true _ _).mp ends
  obtain ⟨front, same⟩ := ending
  have member : c ∈ p := by
    rw [← same, List.getLast?_append_of_ne_nil front begun] at last
    exact List.mem_of_getLast? last
  have known : c ∈ mark.toList := by
    rw [whole]
    exact List.mem_append_left q member
  simp [known] at outside

theorem Unjoined.of_begins (a : String) (begins : beginsOutside mark b = true) : Unjoined mark a b := by
  intro p q whole _ more _ beginning
  obtain ⟨c, first, outside⟩ := (Option.any_eq_true _ _).mp begins
  obtain ⟨back, same⟩ := beginning
  have member : c ∈ q := by
    rw [← same, List.head?_append, List.head?_eq_some_head more, Option.some_or] at first
    exact Option.some.inj first ▸ List.head_mem more
  have known : c ∈ mark.toList := by
    rw [whole]
    exact List.mem_append_right p member
  simp [known] at outside

theorem Unjoined.empty (mark a : String) : Unjoined mark a "" := by
  intro p q _ _ more _ beginning
  exact more (List.prefix_nil.mp beginning)

theorem Unjoined.of_inits (b : String)
    (ends : ∀ p ∈ mark.toList.inits, p = [] ∨ p = mark.toList ∨ ¬ p <:+ a.toList) :
    Unjoined mark a b := by
  intro p q whole begun more ending _
  have front : p ∈ mark.toList.inits := by
    rw [List.mem_inits, whole]
    exact List.prefix_append p q
  have proper : p ≠ mark.toList := by
    rw [whole]
    simpa using more
  exact ((ends p front).resolve_left begun).resolve_left proper ending

theorem Unjoined.of_tails (a : String)
    (begins : ∀ q ∈ mark.toList.tails, q = [] ∨ q = mark.toList ∨ ¬ q <+: b.toList) :
    Unjoined mark a b := by
  intro p q whole begun more _ beginning
  have back : q ∈ mark.toList.tails := by
    rw [List.mem_tails, whole]
    exact List.suffix_append p q
  have proper : q ≠ mark.toList := by
    rw [whole]
    simpa using begun
  exact ((begins q back).resolve_left more).resolve_left proper beginning

/-- The same place of a mark, seen in a part of a text and in the whole of it. -/
structure Within (inner outer : String × String) : Prop where
  before : ∃ front, front ++ inner.1 = outer.1
  behind : ∃ back, inner.2 ++ back = outer.2

namespace Within

variable {inner outer : String × String}

theorem refl (p : String × String) : Within p p :=
  ⟨⟨"", String.empty_append⟩, ⟨"", String.append_empty⟩⟩

theorem append_behind (within : Within inner outer) (more : String) :
    Within inner (outer.1, outer.2 ++ more) := by
  obtain ⟨before, back, behind⟩ := within
  exact ⟨before, back ++ more, by rw [← String.append_assoc, behind]⟩

theorem append_before (within : Within inner outer) (more : String) :
    Within inner (more ++ outer.1, outer.2) := by
  obtain ⟨⟨front, before⟩, behind⟩ := within
  exact ⟨⟨more ++ front, by rw [String.append_assoc, before]⟩, behind⟩

end Within

/-- The mark has as many places in the text as there are surroundings here, and they stand around
its places one after the other. -/
def Placed (mark text : String) (around : List (String × String)) : Prop :=
  List.Forall₂ Within around (places mark text)

namespace Placed

variable {text : String} {xs ys : List (String × String)}

theorem nil_iff (marked : mark ≠ "") : Placed mark text [] ↔ Avoids mark text := by
  rw [Placed, List.forall₂_nil_left_iff, places_eq_nil_iff marked]

theorem self (mark text : String) : Placed mark text (places mark text) :=
  List.forall₂_same.mpr fun p _ => .refl p

theorem eq_nil (placed : Placed mark "" xs) : xs = [] :=
  List.forall₂_nil_right_iff.mp placed

theorem avoids_iff (marked : mark ≠ "") (placed : Placed mark text xs) :
    Avoids mark text ↔ xs = [] := by
  rw [← places_eq_nil_iff marked, ← List.length_eq_zero_iff, ← placed.length_eq,
    List.length_eq_zero_iff]

theorem append (first : Placed mark a xs) (second : Placed mark b ys) (apart : Unjoined mark a b) :
    Placed mark (a ++ b) (xs ++ ys) := by
  rw [Placed, places_append apart]
  apply List.rel_append
  · rw [List.forall₂_map_right_iff]
    exact first.imp fun _ _ within => within.append_behind b
  · rw [List.forall₂_map_right_iff]
    exact second.imp fun _ _ within => within.append_before a

theorem glue {sep : String} (marked : mark ≠ "") (glue : Glue mark sep)
    (first : Placed mark a xs) (second : Placed mark b ys) :
    Placed mark (a ++ sep ++ b) (xs ++ ys) := by
  have none := (nil_iff marked).mpr glue.avoids
  have front := first.append none (.of_begins a glue.begins)
  rw [List.append_nil] at front
  exact front.append second (.of_ends (endsOutside_append a glue.ends) b)

theorem glue_append {sep : String} (marked : mark ≠ "") (glue : Glue mark sep)
    (placed : Placed mark a xs) : Placed mark (sep ++ a) xs :=
  ((nil_iff marked).mpr glue.avoids).append placed (.of_ends glue.ends a)

theorem append_glue {sep : String} (marked : mark ≠ "") (glue : Glue mark sep)
    (placed : Placed mark a xs) : Placed mark (a ++ sep) xs := by
  have whole := placed.append ((nil_iff marked).mpr glue.avoids) (.of_begins a glue.begins)
  rwa [List.append_nil] at whole

theorem blank_append (inked : Inked mark) (marked : mark ≠ "") (blank : isBlankText a = true)
    (placed : Placed mark b xs) : Placed mark (a ++ b) xs := by
  by_cases none : a = ""
  · rw [none, String.empty_append]
    exact placed
  · exact placed.glue_append marked (.of_outside marked none (inked.outside blank))

theorem unlines_append (inked : Inked mark) (marked : mark ≠ "") {ls ks : List String}
    (first : Placed mark (unlines ls) xs) (second : Placed mark (unlines ks) ys) :
    Placed mark (unlines (ls ++ ks)) (xs ++ ys) := by
  have feed : Glue mark "\n" := .of_outside marked (by decide) (inked.outside (by decide))
  by_cases none : ls = []
  · rw [none] at first ⊢
    rw [first.eq_nil]
    exact second
  · by_cases last : ks = []
    · rw [last] at second ⊢
      rw [second.eq_nil, List.append_nil, List.append_nil]
      exact first
    · rw [Text.unlines_append ls ks none last]
      exact first.glue marked feed second

theorem unlines_flatMap {α : Type} {items : List α} (inked : Inked mark) (marked : mark ≠ "")
    {lines : α → List String} {around : α → List (String × String)}
    (each : ∀ x ∈ items, Placed mark (unlines (lines x)) (around x)) :
    Placed mark (unlines (items.flatMap lines)) (items.flatMap around) := by
  induction items with
  | nil => exact self mark ""
  | cons x items ih =>
    rw [List.forall_mem_cons] at each
    rw [List.flatMap_cons, List.flatMap_cons]
    exact unlines_append inked marked each.1 (ih each.2)

theorem unlines_of_avoids (inked : Inked mark) (marked : mark ≠ "") {ls : List String}
    (avoids : ∀ l ∈ ls, Avoids mark l) : Placed mark (unlines ls) [] := by
  rw [nil_iff marked]
  exact .intercalate marked (by decide) (inked.outside (by decide)) avoids

theorem single (marked : mark ≠ "") (alone : places mark mark = [("", "")])
    (before : Avoids mark a) (behind : Avoids mark b) (left : Unjoined mark a (mark ++ b))
    (right : Unjoined mark mark b) : places mark (a ++ (mark ++ b)) = [(a, b)] := by
  have front := (places_eq_nil_iff marked).mpr before
  have back := (places_eq_nil_iff marked).mpr behind
  rw [places_append left, places_append right, alone, front, back]
  simp

end Placed

end AppScaffold.Text
