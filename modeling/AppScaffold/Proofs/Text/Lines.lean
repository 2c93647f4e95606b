import AppScaffold.Proofs.Text.Marks
import AppScaffold.Text.Lines

namespace AppScaffold.Text

theorem splitWhere_ne_nil (p : Char → Bool) (cs : List Char) : splitWhere p cs ≠ [] := by
  cases cs with
  | nil => simp [splitWhere]
  | cons c cs =>
    rw [splitWhere]
    split
    · simp
    · split <;> simp

theorem intercalate_splitWhere (x : Char) (cs : List Char) :
    [x].intercalate (splitWhere (· == x) cs) = cs := by
  induction cs with
  | nil => rfl
  | cons c cs ih =>
    have some := splitWhere_ne_nil (· == x) cs
    rw [splitWhere]
    split
    · rename_i same
      rw [List.intercalate_cons_of_ne_nil some, ih, eq_of_beq same]
      rfl
    · cases pieces : splitWhere (· == x) cs with
      | nil => exact absurd pieces some
      | cons piece rest =>
        rw [pieces] at ih
        rw [List.intercalate_cons_cons_left, ih]

theorem unlines_splitWhere (s : String) :
    unlines ((splitWhere (· == '\n') s.toList).map String.ofList) = s := by
  apply String.toList_injective
  rw [unlines, String.toList_intercalate, List.map_map]
  have same : String.toList ∘ String.ofList = id := by
    funext cs
    exact String.toList_ofList
  rw [same, List.map_id]
  exact intercalate_splitWhere '\n' s.toList

theorem infix_intercalate {sep piece : List Char} {pieces : List (List Char)}
    (member : piece ∈ pieces) : piece <:+: sep.intercalate pieces := by
  induction pieces with
  | nil => cases member
  | cons first pieces ih =>
    cases pieces with
    | nil =>
      rw [List.mem_singleton.mp member]
      simp [List.intercalate]
    | cons second pieces =>
      rw [List.intercalate_cons_cons]
      rcases List.mem_cons.mp member with rfl | later
      · rw [List.append_assoc]
        exact (List.prefix_append _ _).isInfix
      · exact (ih later).trans (List.suffix_append _ _).isInfix

theorem infix_of_mem_splitWhere {x : Char} {cs piece : List Char}
    (member : piece ∈ splitWhere (· == x) cs) : piece <:+: cs := by
  rw [← intercalate_splitWhere x cs]
  exact infix_intercalate member

theorem infix_of_mem_lines {s l : String} (member : l ∈ lines s) : l.toList <:+: s.toList := by
  obtain ⟨line, among, rfl⟩ := List.mem_map.mp member
  rw [String.toList_ofList]
  rw [lineChars] at among
  rcases List.mem_append.mp among with ended | last
  · obtain ⟨cs, inside, rfl⟩ := List.mem_map.mp ended
    have whole := infix_of_mem_splitWhere (List.dropLast_subset _ inside)
    rw [dropReturn]
    split
    · exact (List.dropLast_prefix cs).isInfix.trans whole
    · exact whole
  · split at last
    · cases last
    · rw [List.mem_singleton.mp last]
      cases pieces : (splitWhere (· == '\n') s.toList).getLast? with
      | none => exact List.nil_infix
      | some cs => exact infix_of_mem_splitWhere (List.mem_of_getLast? pieces)

theorem splitWhere_append_cons {p : Char → Bool} {x : Char} (cut : p x = true) (a b : List Char) :
    splitWhere p (a ++ x :: b) = splitWhere p a ++ splitWhere p b := by
  induction a with
  | nil => simp [splitWhere, cut]
  | cons c cs ih =>
    have some := splitWhere_ne_nil p cs
    rw [List.cons_append, splitWhere, splitWhere, ih]
    cases p c with
    | true => rfl
    | false =>
      cases pieces : splitWhere p cs with
      | nil => exact absurd pieces some
      | cons piece rest => rfl

theorem splitWhere_append (p : Char → Bool) (a b : List Char) :
    ∃ front last first rest, splitWhere p a = front ++ [last] ∧ splitWhere p b = first :: rest ∧
      splitWhere p (a ++ b) = front ++ (last ++ first) :: rest := by
  induction a with
  | nil =>
    obtain ⟨first, rest, split⟩ := List.exists_cons_of_ne_nil (splitWhere_ne_nil p b)
    exact ⟨[], [], first, rest, rfl, split, split⟩
  | cons c a ih =>
    obtain ⟨front, last, first, rest, left, right, whole⟩ := ih
    rw [List.cons_append, splitWhere, splitWhere, left, whole]
    cases p c with
    | true => exact ⟨[] :: front, last, first, rest, rfl, right, rfl⟩
    | false =>
      cases front with
      | nil => exact ⟨[], c :: last, first, rest, rfl, right, rfl⟩
      | cons piece front => exact ⟨(c :: piece) :: front, last, first, rest, rfl, right, rfl⟩

theorem eq_false_of_mem_splitWhere {p : Char → Bool} {cs piece : List Char}
    (member : piece ∈ splitWhere p cs) : ∀ c ∈ piece, p c = false := by
  induction cs generalizing piece with
  | nil => simp [List.mem_singleton.mp member]
  | cons c cs ih =>
    rw [splitWhere] at member
    split at member
    · rcases List.mem_cons.mp member with rfl | later
      · exact nofun
      · exact ih later
    · rename_i other
      rw [Bool.not_eq_true] at other
      split at member
      · rename_i first rest split
        rw [split] at ih
        rcases List.mem_cons.mp member with rfl | later
        · exact List.forall_mem_cons.mpr ⟨other, ih List.mem_cons_self⟩
        · exact ih (List.mem_cons_of_mem _ later)
      · rw [List.mem_singleton.mp member]
        exact List.forall_mem_singleton.mpr other

theorem splitWhere_of_whole {p : Char → Bool} {a : List Char} (whole : ∀ c ∈ a, p c = false) :
    splitWhere p a = [a] := by
  induction a with
  | nil => rfl
  | cons c cs ih =>
    rw [List.forall_mem_cons] at whole
    rw [splitWhere, whole.1, ih whole.2]
    rfl

theorem lineChars_append_cons (a b : List Char) :
    lineChars (a ++ '\n' :: b) = (splitWhere (· == '\n') a).map dropReturn ++ lineChars b := by
  have some := splitWhere_ne_nil (· == '\n') b
  have split := splitWhere_append_cons (p := (· == '\n')) (beq_self_eq_true '\n') a b
  rw [lineChars, lineChars, split]
  generalize splitWhere (· == '\n') b = pieces at some
  rcases List.eq_nil_or_concat pieces with rfl | ⟨front, last, rfl⟩
  · exact absurd rfl some
  · rw [List.concat_eq_append, ← List.append_assoc, List.dropLast_concat, List.dropLast_concat,
      List.getLast?_concat, List.getLast?_concat, List.map_append, List.append_assoc]

theorem getLast?_toList_append (a : String) {b : String} {c : Char}
    (last : b.toList.getLast? = some c) : (a ++ b).toList.getLast? = some c := by
  rw [String.toList_append, List.getLast?_append, last]
  rfl

/-- A line that is read back as it was written. -/
structure Whole (l : String) : Prop where
  single : '\n' ∉ l.toList
  plain : l.toList.getLast? ≠ some '\r'

instance (l : String) : Decidable (Whole l) :=
  decidable_of_iff ('\n' ∉ l.toList ∧ l.toList.getLast? ≠ some '\r')
    ⟨fun h => ⟨h.1, h.2⟩, fun h => ⟨h.1, h.2⟩⟩

theorem Whole.of_getLast? {l : String} {c : Char} (single : Avoids "\n" l)
    (last : l.toList.getLast? = some c) (plain : c ≠ '\r') : Whole l where
  single := fun member => single (singleton_infix_of_mem member)
  plain := by
    rw [last]
    simpa using plain

theorem Whole.cons {cs : List Char} {ls : List String}
    (first : '\n' ∉ cs ∧ cs.getLast? ≠ some '\r') (whole : ∀ l ∈ ls, Whole l) :
    ∀ l ∈ String.ofList cs :: ls, Whole l := by
  rw [List.forall_mem_cons]
  refine ⟨⟨?_, ?_⟩, whole⟩
  · rw [String.toList_ofList]
    exact first.1
  · rw [String.toList_ofList]
    exact first.2

theorem Whole.append {a b : String} (single : '\n' ∉ a.toList) (whole : Whole b) (some : b ≠ "") :
    Whole (a ++ b) where
  single := by
    rw [String.toList_append, List.mem_append, not_or]
    exact ⟨single, whole.single⟩
  plain := by
    have more : b.toList ≠ [] := fun none => some (String.toList_eq_nil_iff.mp none)
    have last := List.getLast?_eq_some_getLast more
    rw [getLast?_toList_append a last, ← last]
    exact whole.plain

theorem Whole.lineChars_append_cons {l : String} (whole : Whole l) (b : List Char) :
    lineChars (l.toList ++ '\n' :: b) = l.toList :: lineChars b := by
  have piece : splitWhere (· == '\n') l.toList = [l.toList] := by
    refine splitWhere_of_whole (p := (· == '\n')) fun c member => ?_
    rw [beq_eq_false_iff_ne]
    rintro rfl
    exact whole.single member
  rw [Text.lineChars_append_cons, piece, List.map_singleton, dropReturn, if_neg whole.plain]
  rfl

theorem unlines_cons (l : String) {ls : List String} (more : ls ≠ []) :
    unlines (l :: ls) = l ++ "\n" ++ unlines ls := by
  rw [unlines, String.intercalate_cons_of_ne_nil more]
  rfl

theorem unlines_append (ls ks : List String) (some : ls ≠ []) (more : ks ≠ []) :
    unlines (ls ++ ks) = unlines ls ++ "\n" ++ unlines ks :=
  String.intercalate_append_of_ne_nil some more

theorem unlines_concat_empty {ls : List String} (some : ls ≠ []) :
    unlines (ls ++ [""]) = unlines ls ++ "\n" := by
  rw [unlines_append ls [""] some (List.cons_ne_nil _ _)]
  exact String.append_empty

theorem lines_unlines_cons {l : String} (whole : Whole l) {ls : List String} (more : ls ≠ []) :
    lines (unlines (l :: ls)) = l :: lines (unlines ls) := by
  have split : (unlines (l :: ls)).toList = l.toList ++ '\n' :: (unlines ls).toList := by
    rw [unlines_cons l more, String.toList_append, String.toList_append, List.append_assoc]
    rfl
  rw [lines, split, whole.lineChars_append_cons, List.map_cons, String.ofList_toList]
  rfl

theorem lines_unlines {ls : List String} (whole : ∀ l ∈ ls, Whole l) :
    lines (unlines (ls ++ [""])) = ls := by
  induction ls with
  | nil => rfl
  | cons l ls ih =>
    rw [List.forall_mem_cons] at whole
    rw [List.cons_append, lines_unlines_cons whole.1 (by simp), ih whole.2]

theorem mem_lines_unlines {l : String} (whole : Whole l) (front : List String) {back : List String}
    (more : back ≠ []) : l ∈ lines (unlines (front ++ l :: back)) := by
  have here : l ∈ lines (unlines (l :: back)) := by
    rw [lines_unlines_cons whole more]
    exact List.mem_cons_self
  by_cases none : front = []
  · rw [none]
    exact here
  · have split : (unlines (front ++ l :: back)).toList =
        (unlines front).toList ++ '\n' :: (unlines (l :: back)).toList := by
      rw [unlines_append front _ none (List.cons_ne_nil _ _), String.toList_append,
        String.toList_append, List.append_assoc]
      rfl
    rw [lines, split, lineChars_append_cons, List.map_append]
    exact List.mem_append_right _ here

/-- The rows of a text are what stands between its line feeds, the empty ones included. -/
def rows (s : String) : List (List Char) := splitWhere (· == '\n') s.toList

theorem rows_ne_nil (s : String) : rows s ≠ [] := splitWhere_ne_nil _ _

theorem count_rows_eq_zero {mark text line : String} (held : mark.toList <:+: line.toList)
    (avoids : Avoids mark text) : (rows text).count line.toList = 0 :=
  List.count_eq_zero.mpr fun member => avoids (held.trans (infix_of_mem_splitWhere member))

/-- A line can have several rows of its own. -/
theorem rows_unlines {ls : List String} (some : ls ≠ []) : rows (unlines ls) = ls.flatMap rows := by
  induction ls with
  | nil => exact absurd rfl some
  | cons l ls ih =>
    by_cases none : ls = []
    · rw [none]
      exact (List.append_nil _).symm
    · have split : (unlines (l :: ls)).toList = l.toList ++ '\n' :: (unlines ls).toList := by
        rw [unlines_cons l none, String.toList_append, String.toList_append, List.append_assoc]
        rfl
      rw [rows, split, splitWhere_append_cons (p := (· == '\n')) (beq_self_eq_true '\n'),
        List.flatMap_cons, ← ih none]
      rfl

theorem splitWhere_unlines {ls : List String} (some : ls ≠ [])
    (single : ∀ l ∈ ls, '\n' ∉ l.toList) :
    splitWhere (· == '\n') (unlines ls).toList = ls.map String.toList := by
  have one : ∀ l ∈ ls, rows l = [l.toList] := by
    intro l member
    refine splitWhere_of_whole (p := (· == '\n')) fun c inside => ?_
    rw [beq_eq_false_iff_ne]
    rintro rfl
    exact single l member inside
  calc
    _ = ls.flatMap rows := rows_unlines some
    _ = (ls.map fun l => [l.toList]).flatten := by rw [List.flatMap_def, List.map_congr_left one]
    _ = ls.map String.toList := by rw [← List.flatMap_def, ← List.map_eq_flatMap]

theorem splitWhere_unlines_append {ls : List String} (some : ls ≠ [])
    (single : ∀ l ∈ ls, '\n' ∉ l.toList) (rest : String) :
    splitWhere (· == '\n') (unlines ls ++ "\n" ++ ("" ++ "\n" ++ rest)).toList =
      ls.map String.toList ++ [] :: splitWhere (· == '\n') rest.toList := by
  have chars : (unlines ls ++ "\n" ++ ("" ++ "\n" ++ rest)).toList =
      (unlines ls).toList ++ '\n' :: '\n' :: rest.toList := by
    simp
  rw [chars, splitWhere_append_cons (p := (· == '\n')) (beq_self_eq_true '\n'),
    splitWhere_unlines some single]
  rfl

end AppScaffold.Text
