import AppScaffold.Proofs.Text.Names

namespace AppScaffold.Text

def Clear (n : Nat) (row : List Char) : Prop :=
  row.all isBlank = false → List.replicate n ' ' <+: row

instance (n : Nat) (row : List Char) : Decidable (Clear n row) :=
  inferInstanceAs (Decidable (_ → _))

def Indented (n : Nat) (s : String) : Prop := ∀ row ∈ rows s, Clear n row

instance (n : Nat) (s : String) : Decidable (Indented n s) :=
  inferInstanceAs (Decidable (∀ row ∈ rows s, Clear n row))

def Hanging (n : Nat) (s : String) : Prop := ∀ row ∈ (rows s).tail, Clear n row

instance (n : Nat) (s : String) : Decidable (Hanging n s) :=
  inferInstanceAs (Decidable (∀ row ∈ (rows s).tail, Clear n row))

/-- The rows of a text behind its first one are indented, where a tag goes on behind the last. -/
def Hangs (n : Nat) (s : String) : Prop := Hanging n (s ++ "<")

instance (n : Nat) (s : String) : Decidable (Hangs n s) :=
  inferInstanceAs (Decidable (Hanging n (s ++ "<")))

theorem rows_of_single {s : String} (single : '\n' ∉ s.toList) : rows s = [s.toList] := by
  refine splitWhere_of_whole (p := (· == '\n')) fun c member => ?_
  rw [beq_eq_false_iff_ne]
  rintro rfl
  exact single member

theorem rows_append (a b : String) :
    ∃ front last first rest, rows a = front ++ [last] ∧ rows b = first :: rest ∧
      rows (a ++ b) = front ++ (last ++ first) :: rest := by
  rw [rows, rows, rows, String.toList_append]
  exact splitWhere_append _ _ _

theorem avoids_lineFeed_iff {s : String} : Avoids "\n" s ↔ '\n' ∉ s.toList := by
  constructor
  · exact fun avoids member => avoids (singleton_infix_of_mem member)
  · exact fun single occurs => single (occurs.subset List.mem_cons_self)

/-- What has no line feed goes on with the first row of what stands behind it. -/
theorem rows_append_left {a : String} (single : '\n' ∉ a.toList) (b : String) :
    ∃ first rest, rows b = first :: rest ∧ rows (a ++ b) = (a.toList ++ first) :: rest := by
  obtain ⟨front, last, first, rest, left, right, whole⟩ := rows_append a b
  rw [rows_of_single single] at left
  obtain ⟨rfl, same⟩ := List.append_inj' (left.symm.trans (List.nil_append _).symm) rfl
  obtain rfl := List.singleton_inj.mp same
  exact ⟨first, rest, right, whole⟩

theorem rows_of_head {s : String} {c : Char} (head : s.toList.head? = some c) (other : c ≠ '\n') :
    ∃ more rest, rows s = (c :: more) :: rest := by
  obtain ⟨cs, chars⟩ := List.head?_eq_some_iff.mp head
  obtain ⟨first, rest, split⟩ := List.exists_cons_of_ne_nil (splitWhere_ne_nil (· == '\n') cs)
  refine ⟨first, rest, ?_⟩
  rw [rows, chars, splitWhere, beq_false_of_ne other, if_neg Bool.false_ne_true, split]

section Hanging

variable {n : Nat}

theorem hanging_of_single {s : String} (single : '\n' ∉ s.toList) : Hanging n s := by
  rw [Hanging, rows_of_single single]
  exact nofun

theorem hanging_append_left {a : String} (single : '\n' ∉ a.toList) (b : String) :
    Hanging n (a ++ b) ↔ Hanging n b := by
  obtain ⟨first, rest, alone, whole⟩ := rows_append_left single b
  rw [Hanging, Hanging, alone, whole]
  rfl

theorem clear_append_cons {c : Char} (ink : isBlank c = false) (row rest : List Char) :
    Clear n (row ++ c :: rest) ↔ List.replicate n ' ' <+: row := by
  have apart : c ∉ List.replicate n ' ' := by
    intro member
    rw [List.eq_of_mem_replicate member] at ink
    exact absurd ink (by decide)
  have inked : (row ++ c :: rest).all isBlank = false := by simp [ink]
  rw [Clear, inked, ← prefix_append_cons_iff apart row rest]
  exact forall_prop_of_true rfl

theorem hanging_append (a : String) {b : String}
    (seen : b.toList.head?.any (!isBlank ·) = true) :
    Hanging n (a ++ b) ↔ Hangs n a ∧ Hanging n b := by
  obtain ⟨c, head, ink⟩ := (Option.any_eq_true _ _).mp seen
  rw [Bool.not_eq_true'] at ink
  obtain ⟨more, rest, begins⟩ := rows_of_head head (by rintro rfl; exact absurd ink (by decide))
  obtain ⟨front, last, first, rest', left, right, whole⟩ := rows_append a b
  obtain ⟨rfl, rfl⟩ := List.cons_eq_cons.mp (right.symm.trans begins)
  obtain ⟨others, final, single, none, same, alone, tagged⟩ := rows_append a "<"
  obtain ⟨rfl, ended⟩ := List.append_inj' (left.symm.trans same) rfl
  obtain rfl := List.singleton_inj.mp ended
  obtain ⟨rfl, rfl⟩ := List.cons_eq_cons.mp (alone.symm.trans (rows_of_single (by decide)))
  -- Whatever ink the last row of `a` goes on with, it is indented by what `a` has of it.
  have both : Clear n (last ++ c :: more) ↔ Clear n (last ++ "<".toList) := by
    rw [clear_append_cons ink]
    exact (clear_append_cons (by decide) last []).symm
  rw [Hangs, Hanging, Hanging, Hanging, whole, tagged, right]
  cases front with
  | nil => simp
  | cons row front => simp [both, or_imp, forall_and, and_assoc]

theorem hangs_of_single {s : String} (single : '\n' ∉ s.toList) : Hangs n s :=
  hanging_of_single (by simp [single])

end Hanging

/-- A property of what stands behind the first line feed of a text. -/
structure Trailing (P : String → Prop) : Prop where
  of_single {s : String} : '\n' ∉ s.toList → P s
  append_left {a : String} : '\n' ∉ a.toList → ∀ b, P (a ++ b) ↔ P b

theorem trailing_hangs (n : Nat) : Trailing (Hangs n) where
  of_single := hangs_of_single
  append_left single b := by
    rw [Hangs, Hangs, String.append_assoc]
    exact hanging_append_left single _

theorem trailing_single : Trailing fun s => '\n' ∉ s.toList where
  of_single := id
  append_left single b := by simp [single]

theorem lineFeed_not_mem_spaces (k : Nat) : '\n' ∉ (spaces k).toList := by
  rw [spaces, String.toList_ofList]
  intro member
  exact absurd (List.eq_of_mem_replicate member) (by decide)

theorem indented_empty (n : Nat) : Indented n "" := by
  simp [Indented, rows, splitWhere, Clear]

theorem indented_spaces_append_iff {n k : Nat} (fits : n ≤ k) (s : String) :
    Indented n (spaces k ++ s) ↔ Hanging n s := by
  obtain ⟨first, rest, alone, whole⟩ := rows_append_left (lineFeed_not_mem_spaces k) s
  have front : Clear n ((spaces k).toList ++ first) := by
    intro
    rw [spaces, String.toList_ofList]
    refine List.IsPrefix.trans ⟨List.replicate (k - n) ' ', ?_⟩ (List.prefix_append _ _)
    rw [List.replicate_append_replicate, Nat.add_sub_cancel' fits]
  rw [Indented, Hanging, alone, whole, List.forall_mem_cons, List.tail_cons]
  exact and_iff_right front

def LinesIndented (n : Nat) (ls : List String) : Prop := ∀ l ∈ ls, Indented n l

theorem indented_unlines_iff {n : Nat} {ls : List String} (some : ls ≠ []) :
    Indented n (unlines ls) ↔ LinesIndented n ls := by
  rw [Indented, rows_unlines some, List.forall_mem_flatMap]
  rfl

/-- A line that is read back as it is, and that is moved with its text. -/
structure Solid (l : String) : Prop where
  whole : Whole l
  inked : isBlankText l = false

instance (l : String) : Decidable (Solid l) :=
  decidable_of_iff (Whole l ∧ isBlankText l = false) ⟨fun h => ⟨h.1, h.2⟩, fun h => ⟨h.1, h.2⟩⟩

theorem Solid.ne_empty {l : String} (solid : Solid l) : l ≠ "" := by
  rintro rfl
  exact absurd solid.inked (by decide)

theorem Solid.of_getLast? {l : String} {c : Char} (single : '\n' ∉ l.toList)
    (last : l.toList.getLast? = some c) (ink : isBlank c = false) : Solid l where
  whole := by
    refine ⟨single, ?_⟩
    rw [last]
    rintro same
    rw [Option.some.inj same] at ink
    exact absurd ink (by decide)
  inked := by
    rw [isBlankText, List.all_eq_false]
    exact ⟨c, List.mem_of_getLast? last, by simp [ink]⟩

theorem Solid.spaces_append {l : String} (solid : Solid l) (k : Nat) : Solid (spaces k ++ l) where
  whole := .append (lineFeed_not_mem_spaces k) solid.whole solid.ne_empty
  inked := by
    rw [isBlankText, String.toList_append, List.all_append]
    exact Bool.and_eq_false_imp.mpr fun _ => solid.inked

theorem lineFeed_not_mem_of_mem_lines {s l : String} (member : l ∈ lines s) : '\n' ∉ l.toList := by
  have piece {cs : List Char} (among : cs ∈ splitWhere (· == '\n') s.toList) : '\n' ∉ cs := by
    intro feed
    exact absurd (eq_false_of_mem_splitWhere among _ feed) (by decide)
  obtain ⟨line, among, rfl⟩ := List.mem_map.mp member
  rw [String.toList_ofList]
  rw [lineChars] at among
  cases List.mem_append.mp among with
  | inl ended =>
    obtain ⟨cs, inside, rfl⟩ := List.mem_map.mp ended
    have single := piece (List.dropLast_subset _ inside)
    rw [dropReturn]
    split
    · exact fun feed => single (List.dropLast_subset _ feed)
    · exact single
  | inr last =>
    split at last
    · cases last
    · rw [List.mem_singleton.mp last, List.getLast?_eq_some_getLast (splitWhere_ne_nil _ _)]
      exact piece (List.getLast_mem _)

variable {ls : List String}

theorem lines_of_single {s : String} (single : '\n' ∉ s.toList) (some : s ≠ "") :
    lines s = [s] := by
  have pieces : splitWhere (· == '\n') s.toList = [s.toList] := rows_of_single single
  have filled : s.toList.isEmpty = false := by
    simpa using some
  simp [lines, lineChars, pieces, filled]

theorem lines_unlines_of_solid (solid : ∀ l ∈ ls, Solid l) : lines (unlines ls) = ls := by
  induction ls with
  | nil => rfl
  | cons l ls ih =>
    rw [List.forall_mem_cons] at solid
    by_cases none : ls = []
    · rw [none]
      exact lines_of_single solid.1.whole.single solid.1.ne_empty
    · rw [lines_unlines_cons solid.1.whole none, ih solid.2]

theorem indentLines_unlines (solid : ∀ l ∈ ls, Solid l) (n : Nat) :
    indentLines (unlines ls) n = unlines (ls.map (spaces n ++ ·)) := by
  rw [indentLines, lines_unlines_of_solid solid]
  congr 1
  refine List.map_congr_left fun l member => ?_
  rw [indentLine, (solid l member).inked, if_neg Bool.false_ne_true]

end AppScaffold.Text
