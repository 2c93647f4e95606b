import AppScaffold.Proofs.Text.Lines

namespace AppScaffold.Text

theorem inked_of_mem_words {s w : String} (member : w ∈ words s) :
    w ≠ "" ∧ ∀ c ∈ w.toList, isBlank c = false := by
  obtain ⟨piece, among, rfl⟩ := List.mem_map.mp member
  obtain ⟨inside, filled⟩ := List.mem_filter.mp among
  refine ⟨fun none => ?_, ?_⟩
  · rw [← String.toList_eq_nil_iff, String.toList_ofList] at none
    rw [none] at filled
    cases filled
  · rw [String.toList_ofList]
    exact eq_false_of_mem_splitWhere inside

theorem words_of_inked {s : String} (inked : ∀ c ∈ s.toList, isBlank c = false) :
    words s = if s = "" then [] else [s] := by
  rw [words, splitWhere_of_whole inked]
  by_cases none : s = ""
  · subst none
    rfl
  · have filled : s.toList.isEmpty = false := by simpa using none
    simp [none]

theorem words_eq_nil_iff {s : String} : words s = [] ↔ isBlankText s = true := by
  have pieces (cs : List Char) :
      (∀ piece ∈ splitWhere isBlank cs, piece = []) ↔ ∀ c ∈ cs, isBlank c = true := by
    induction cs with
    | nil => simp [splitWhere]
    | cons c cs ih =>
      rw [List.forall_mem_cons, ← ih, splitWhere]
      split
      · rename_i blank
        simp [blank]
      · rename_i ink
        split
        · simp [ink]
        · rename_i none
          exact absurd none (splitWhere_ne_nil _ _)
  rw [words, List.map_eq_nil_iff, List.filter_eq_nil_iff, isBlankText, List.all_eq_true, ← pieces]
  simp

theorem mem_intercalate {sep : String} {c : Char} {ls : List String}
    (member : c ∈ (sep.intercalate ls).toList) : c ∈ sep.toList ∨ ∃ l ∈ ls, c ∈ l.toList := by
  induction ls with
  | nil => simp at member
  | cons l ls ih =>
    by_cases last : ls = []
    · subst last
      exact .inr ⟨l, List.mem_cons_self, by simpa using member⟩
    · rw [String.intercalate_cons_of_ne_nil last, String.toList_append, String.toList_append,
        List.mem_append, List.mem_append] at member
      rcases member with (here | between) | later
      · exact .inr ⟨l, List.mem_cons_self, here⟩
      · exact .inl between
      · exact (ih later).imp_right fun ⟨k, among, inside⟩ =>
          ⟨k, List.mem_cons_of_mem l among, inside⟩

theorem intercalate_eq_empty_iff {sep : String} {ls : List String} (filled : ∀ l ∈ ls, l ≠ "") :
    sep.intercalate ls = "" ↔ ls = [] := by
  cases ls with
  | nil => simp
  | cons l ls =>
    refine iff_of_false (fun empty => ?_) (List.cons_ne_nil l ls)
    have some := filled l List.mem_cons_self
    by_cases last : ls = []
    · subst last
      exact some (by simpa using empty)
    · rw [String.intercalate_cons_of_ne_nil last, ← String.toList_eq_nil_iff] at empty
      simp [some] at empty

end AppScaffold.Text
