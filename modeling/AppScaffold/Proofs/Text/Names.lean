import AppScaffold.Proofs.Text.Lines

namespace AppScaffold.Text

def isNameChar (c : Char) : Bool := c.isAlphanum || c == '_' || c == '$' || '\x7f' < c

def isNameStart (c : Char) : Bool := isNameChar c && !c.isDigit

def nameAt? : List Char → Option String
  | [] => none
  | c :: cs => if isNameStart c then some (String.ofList (c :: cs.takeWhile isNameChar)) else none

def namesBehind (mark : List Char) : List Char → List String
  | [] => []
  | c :: cs =>
    (if mark.isPrefixOf (c :: cs) then (nameAt? ((c :: cs).drop mark.length)).toList else []) ++
      namesBehind mark cs

/-- The names that stand right behind the places of a mark in a text. -/
def namesAfter (mark text : String) : List String := namesBehind mark.toList text.toList

theorem takeWhile_append_cons {p : Char → Bool} {x : Char} (ends : p x = false) (a b : List Char) :
    (a ++ x :: b).takeWhile p = a.takeWhile p := by
  induction a with
  | nil => simp [ends]
  | cons c cs ih => rw [List.cons_append, List.takeWhile_cons, List.takeWhile_cons, ih]

theorem nameAt?_append_cons {x : Char} (ends : isNameChar x = false) (a b : List Char) :
    nameAt? (a ++ x :: b) = nameAt? a := by
  cases a with
  | nil => simp [nameAt?, isNameStart, ends]
  | cons c cs => rw [List.cons_append, nameAt?, nameAt?, takeWhile_append_cons ends]

section Behind

variable {mark : List Char}

theorem prefix_append_cons_iff {x : Char} (apart : x ∉ mark) (a b : List Char) :
    mark <+: a ++ x :: b ↔ mark <+: a := by
  constructor
  · intro begins
    rcases List.prefix_or_prefix_of_prefix begins (List.prefix_append a (x :: b)) with whole | part
    · exact whole
    · obtain ⟨rest, rfl⟩ := part
      cases rest with
      | nil => simp
      | cons y rest =>
        have same := (List.cons_prefix_cons.mp ((List.prefix_append_right_inj a).mp begins)).1
        simp [same] at apart
  · intro begins
    exact begins.trans (List.prefix_append a _)

theorem namesBehind_append_cons {x : Char} (ends : isNameChar x = false) (apart : x ∉ mark.tail)
    (a b : List Char) :
    namesBehind mark (a ++ x :: b) = namesBehind mark a ++ namesBehind mark (x :: b) := by
  induction a with
  | nil => rfl
  | cons c cs ih =>
    have begins : mark <+: c :: (cs ++ x :: b) ↔ mark <+: c :: cs := by
      cases mark with
      | nil => simp
      | cons y ys =>
        rw [List.tail_cons] at apart
        rw [List.cons_prefix_cons, List.cons_prefix_cons, prefix_append_cons_iff apart]
    rw [List.cons_append, namesBehind, namesBehind, ih, List.append_assoc]
    congr 1
    -- A mark that begins here ends before `x`, and the name behind it does so too.
    by_cases here : mark <+: c :: cs
    · have fits := here.length_le
      rw [if_pos (List.isPrefixOf_iff_prefix.mpr (begins.mpr here)),
        if_pos (List.isPrefixOf_iff_prefix.mpr here), ← List.cons_append,
        List.drop_append_of_le_length fits, nameAt?_append_cons ends]
    · have elsewhere : ¬ mark <+: c :: (cs ++ x :: b) := fun h => here (begins.mp h)
      rw [if_neg (by rwa [List.isPrefixOf_iff_prefix]),
        if_neg (by rwa [List.isPrefixOf_iff_prefix])]

theorem namesBehind_append_of_start {a : List Char} (start : ∀ c ∈ a, mark.head? ≠ some c)
    (marked : mark ≠ []) (b : List Char) : namesBehind mark (a ++ b) = namesBehind mark b := by
  induction a with
  | nil => rfl
  | cons c cs ih =>
    have elsewhere : mark.isPrefixOf (c :: (cs ++ b)) = false := by
      cases mark with
      | nil => exact absurd rfl marked
      | cons y ys =>
        have other := start c List.mem_cons_self
        simp at other
        simp [List.isPrefixOf, other]
    rw [List.cons_append, namesBehind, elsewhere, if_neg Bool.false_ne_true, List.nil_append]
    exact ih fun d member => start d (List.mem_cons_of_mem _ member)

theorem namesBehind_eq_nil {cs : List Char} (avoids : ¬ mark <:+: cs) :
    namesBehind mark cs = [] := by
  induction cs with
  | nil => rfl
  | cons c cs ih =>
    rw [List.infix_cons_iff, not_or] at avoids
    rw [namesBehind, ih avoids.2, if_neg (by rw [List.isPrefixOf_iff_prefix]; exact avoids.1)]
    rfl

end Behind

/-- A character that is in no name and, save as its first, not in the mark. -/
def Cuts (mark : String) (c : Char) : Prop := isNameChar c = false ∧ c ∉ mark.toList.tail

def Parts (mark : String) (c : Char) : Prop := isNameChar c = false ∧ c ∉ mark.toList

variable {mark : String}

theorem Parts.cuts {c : Char} (parts : Parts mark c) : Cuts mark c :=
  ⟨parts.1, fun later => parts.2 (List.mem_of_mem_tail later)⟩

theorem namesAfter_eq_nil {s : String} (avoids : Avoids mark s) : namesAfter mark s = [] :=
  namesBehind_eq_nil avoids

theorem namesAfter_append_of_head {c : Char} (cuts : Cuts mark c) (a : String) {b : String}
    (first : b.toList.head? = some c) :
    namesAfter mark (a ++ b) = namesAfter mark a ++ namesAfter mark b := by
  obtain ⟨rest, chars⟩ := List.head?_eq_some_iff.mp first
  rw [namesAfter, namesAfter, namesAfter, String.toList_append, chars]
  exact namesBehind_append_cons cuts.1 cuts.2 _ _

theorem namesAfter_append_of_start {a : String} (marked : mark ≠ "")
    (start : ∀ c ∈ a.toList, mark.toList.head? ≠ some c) (b : String) :
    namesAfter mark (a ++ b) = namesAfter mark b := by
  rw [namesAfter, namesAfter, String.toList_append]
  exact namesBehind_append_of_start start (fun none => marked (String.toList_eq_nil_iff.mp none)) _

theorem Parts.namesBehind_cons {c : Char} (parts : Parts mark c) (marked : mark ≠ "")
    (cs : List Char) : namesBehind mark.toList (c :: cs) = namesBehind mark.toList cs := by
  have start : ∀ d ∈ [c], mark.toList.head? ≠ some d := by
    intro d member first
    rw [List.mem_singleton.mp member] at first
    exact parts.2 (List.mem_of_head? first)
  exact namesBehind_append_of_start start (fun none => marked (String.toList_eq_nil_iff.mp none)) cs

theorem namesAfter_append_of_getLast {c : Char} (parts : Parts mark c) (marked : mark ≠ "")
    {a : String} (last : a.toList.getLast? = some c) (b : String) :
    namesAfter mark (a ++ b) = namesAfter mark a ++ namesAfter mark b := by
  obtain ⟨front, chars⟩ := List.getLast?_eq_some_iff.mp last
  have cut := namesBehind_append_cons parts.1 parts.cuts.2 front
  have whole := cut b.toList
  have alone := cut []
  rw [parts.namesBehind_cons marked] at whole alone
  rw [namesBehind, List.append_nil] at alone
  rw [namesAfter, namesAfter, namesAfter, String.toList_append, chars, List.append_assoc, alone]
  exact whole

def Inked (mark : String) : Prop := ∀ c ∈ mark.toList, isBlank c = false

instance (mark : String) : Decidable (Inked mark) :=
  decidable_of_iff (mark.toList.all fun c => !isBlank c) (by simp [Inked])

theorem Inked.parts {c : Char} (inked : Inked mark) (blank : isBlank c = true)
    (ends : isNameChar c = false) : Parts mark c := by
  refine ⟨ends, fun member => ?_⟩
  rw [inked c member] at blank
  cases blank

theorem Inked.outside {s : String} (inked : Inked mark) (blank : isBlankText s = true) :
    Outside mark s := by
  intro c member known
  have dark := inked c known
  rw [List.all_eq_true.mp blank c member] at dark
  cases dark

theorem namesAfter_blank_append (inked : Inked mark) (marked : mark ≠ "") {a : String}
    (blank : isBlankText a = true) (b : String) :
    namesAfter mark (a ++ b) = namesAfter mark b := by
  apply namesAfter_append_of_start marked
  intro c member first
  exact inked.outside blank c member (List.mem_of_head? first)

theorem namesAfter_blank (inked : Inked mark) (marked : mark ≠ "") {a : String}
    (blank : isBlankText a = true) : namesAfter mark a = [] := by
  have alone := namesAfter_blank_append inked marked blank ""
  rw [String.append_empty] at alone
  rw [alone]
  rfl

theorem isBlankText_spaces (n : Nat) : isBlankText (spaces n) = true := by
  rw [isBlankText, spaces, String.toList_ofList, List.all_eq_true]
  intro c member
  rw [List.eq_of_mem_replicate member]
  decide

theorem namesAfter_spaces_append (inked : Inked mark) (marked : mark ≠ "") (n : Nat) (s : String) :
    namesAfter mark (spaces n ++ s) = namesAfter mark s :=
  namesAfter_blank_append inked marked (isBlankText_spaces n) s

theorem namesAfter_unlines (inked : Inked mark) (marked : mark ≠ "") (ls : List String) :
    namesAfter mark (unlines ls) = ls.flatMap (namesAfter mark) := by
  have feed : Parts mark '\n' := inked.parts (by decide) (by decide)
  induction ls with
  | nil => rfl
  | cons l ls ih =>
    cases ls with
    | nil => simp [unlines]
    | cons k ls =>
      rw [unlines_cons l (List.cons_ne_nil k ls), String.append_assoc,
        namesAfter_append_of_head feed.cuts l (by simp),
        namesAfter_blank_append inked marked (by decide), ih]
      exact List.flatMap_cons.symm

theorem namesAfter_dropReturn (inked : Inked mark) (marked : mark ≠ "") (line : List Char) :
    namesAfter mark (String.ofList (dropReturn line)) = namesAfter mark (String.ofList line) := by
  rw [dropReturn]
  split
  · rename_i last
    obtain ⟨front, rfl⟩ := List.getLast?_eq_some_iff.mp last
    have cut : Parts mark '\r' := inked.parts (by decide) (by decide)
    have blank := namesAfter_blank inked marked (show isBlankText (String.ofList ['\r']) by decide)
    rw [List.dropLast_concat, String.ofList_append,
      namesAfter_append_of_head cut.cuts (String.ofList front) (by simp), blank, List.append_nil]
  · rfl

theorem namesAfter_lines (inked : Inked mark) (marked : mark ≠ "") (s : String) :
    (lines s).flatMap (namesAfter mark) = namesAfter mark s := by
  have whole := unlines_splitWhere s
  have some := splitWhere_ne_nil (· == '\n') s.toList
  rw [lines, lineChars]
  generalize splitWhere (· == '\n') s.toList = pieces at whole some
  rcases List.eq_nil_or_concat pieces with rfl | ⟨front, last, rfl⟩
  · exact absurd rfl some
  · have ending : ((if last.isEmpty then [] else [last]).map String.ofList).flatMap
        (namesAfter mark) = namesAfter mark (String.ofList last) := by
      cases last with
      | nil => rfl
      | cons c cs => simp
    have body : ((front.map dropReturn).map String.ofList).flatMap (namesAfter mark) =
        (front.map String.ofList).flatMap (namesAfter mark) := by
      simp only [List.flatMap_map, namesAfter_dropReturn inked marked]
    rw [← whole, namesAfter_unlines inked marked]
    simp only [List.concat_eq_append, List.dropLast_concat, List.getLast?_concat,
      Option.getD_some, List.map_append, List.flatMap_append, ending, body]
    simp

theorem Avoids.blank_append {a s : String} (inked : Inked mark) (blank : isBlankText a = true)
    (avoids : Avoids mark s) : Avoids mark (a ++ s) := by
  intro occurs
  rw [String.toList_append] at occurs
  refine avoids (infix_of_infix_append (fun c member first => ?_) occurs)
  exact inked.outside blank c member (List.mem_of_head? first)

theorem Avoids.indentLines {s : String} (inked : Inked mark) (marked : mark ≠ "")
    (avoids : Avoids mark s) (n : Nat) : Avoids mark (indentLines s n) := by
  refine .intercalate marked (by decide) (inked.outside (by decide)) fun l member => ?_
  obtain ⟨line, among, rfl⟩ := List.mem_map.mp member
  rw [indentLine]
  split
  · exact avoids_empty marked
  · have line : Avoids mark line := fun occurs => avoids (occurs.trans (infix_of_mem_lines among))
    exact line.blank_append inked (isBlankText_spaces n)

end AppScaffold.Text
