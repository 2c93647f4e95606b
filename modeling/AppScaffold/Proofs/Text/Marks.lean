/-! Texts in which a mark, a sequence of characters, stands nowhere. What is put around such texts,
and what stands in them for single characters, brings no mark with it as long as it neither begins a
mark nor goes on with one. -/

namespace AppScaffold.Text

def Avoids (mark s : String) : Prop := ¬ mark.toList <:+: s.toList

instance (mark s : String) : Decidable (Avoids mark s) :=
  inferInstanceAs (Decidable (¬ _))

def Outside (mark s : String) : Prop := ∀ c ∈ s.toList, c ∉ mark.toList

instance (mark s : String) : Decidable (Outside mark s) :=
  decidable_of_iff (s.toList.all fun c => !mark.toList.contains c) (by simp [Outside])

def Unstarted (mark s : String) : Prop := ∀ c ∈ s.toList, mark.toList.head? ≠ some c

instance (mark s : String) : Decidable (Unstarted mark s) :=
  decidable_of_iff (s.toList.all fun c => mark.toList.head? != some c) (by simp [Unstarted])

section Infix

variable {mark : List Char}

theorem infix_append_cons_iff {c : Char} (apart : c ∉ mark) (a b : List Char) :
    mark <:+: a ++ c :: b ↔ mark <:+: a ∨ mark <:+: b := by
  constructor
  · intro occurs
    -- Behind `a` or across its end, the mark would have to begin or to go on with `c`.
    rcases List.infix_append_iff.mp occurs with left | right | ⟨front, back, whole, ends, begins⟩
    · exact .inl left
    · rcases List.infix_cons_iff.mp right with begins | later
      · cases mark with
        | nil => exact .inl List.nil_infix
        | cons x xs =>
          have same := (List.cons_prefix_cons.mp begins).1
          exact absurd (same ▸ List.mem_cons_self) apart
      · exact .inr later
    · cases back with
      | nil =>
        rw [List.append_nil] at whole
        exact .inl (whole ▸ ends.isInfix)
      | cons x xs =>
        have same := (List.cons_prefix_cons.mp begins).1
        rw [whole, same] at apart
        exact absurd (List.mem_append_right _ List.mem_cons_self) apart
  · rintro (left | right)
    · exact left.trans (List.prefix_append a _).isInfix
    · exact right.trans ((List.suffix_cons c b).trans (List.suffix_append a _)).isInfix

theorem singleton_infix_of_mem {c : Char} {cs : List Char} (member : c ∈ cs) : [c] <:+: cs := by
  obtain ⟨front, back, split⟩ := List.append_of_mem member
  exact ⟨front, back, by simp [split]⟩

theorem infix_of_infix_append {a b : List Char} (start : ∀ c ∈ a, mark.head? ≠ some c)
    (occurs : mark <:+: a ++ b) : mark <:+: b := by
  induction a with
  | nil => exact occurs
  | cons c a ih =>
    have rest := ih fun d member => start d (List.mem_cons_of_mem _ member)
    rcases List.infix_cons_iff.mp occurs with begins | later
    · cases mark with
      | nil => exact List.nil_infix
      | cons x xs =>
        have same := (List.cons_prefix_cons.mp begins).1
        exact absurd (congrArg some same) (start c List.mem_cons_self)
    · exact rest later

/-- What stands for a character is the character itself, or begins outside the mark and never
begins the mark behind that. -/
def Escapes (mark : List Char) (f : Char → List Char) : Prop :=
  ∀ c, f c = [c] ∨ ∃ x rest, f c = x :: rest ∧ x ∉ mark ∧ ∀ d ∈ rest, mark.head? ≠ some d

/-- What stands for a character is the character itself, or begins outside the mark. Where it goes
on with the front of a mark, the character has begun one of the sources. -/
def Spells (mark : List Char) (sources : List (List Char)) (f : Char → List Char) : Prop :=
  ∀ c, f c = [c] ∨ ∃ x rest, f c = x :: rest ∧ x ∉ mark ∧ ¬ mark <:+: rest ∧
    ∀ t, t ≠ [] → t <:+ rest → t <+: mark → c :: mark.drop t.length ∈ sources

theorem Escapes.spells {f : Char → List Char} (escapes : Escapes mark f) (marked : mark ≠ []) :
    Spells mark [] f := by
  intro c
  rcases escapes c with same | ⟨x, rest, replaced, apart, start⟩
  · exact .inl same
  · refine .inr ⟨x, rest, replaced, apart, fun occurs => ?_, fun t some ends begins => ?_⟩
    · exact start _ (occurs.subset (List.head_mem marked)) (List.head?_eq_some_head marked)
    · obtain ⟨back, whole⟩ := begins
      have first : mark.head? = t.head? := by
        rw [← whole, List.head?_append, List.head?_eq_some_head some]
        rfl
      rw [List.head?_eq_some_head some] at first
      exact absurd first (start _ (ends.subset (List.head_mem some)))

theorem prefix_of_prefix_flatMap {sources : List (List Char)} {f : Char → List Char}
    (spells : Spells mark sources f) {front cs : List Char} (inside : ∀ c ∈ front, c ∈ mark)
    (begins : front <+: cs.flatMap f) : front <+: cs := by
  induction cs generalizing front with
  | nil => exact begins
  | cons c cs ih =>
    cases front with
    | nil => exact List.nil_prefix
    | cons y front =>
      rw [List.flatMap_cons] at begins
      rcases spells c with same | ⟨x, rest, replaced, apart, -⟩
      · rw [same, List.singleton_append, List.cons_prefix_cons] at begins
        rw [List.cons_prefix_cons]
        exact ⟨begins.1, ih (fun d member => inside d (List.mem_cons_of_mem _ member)) begins.2⟩
      · rw [replaced, List.cons_append, List.cons_prefix_cons] at begins
        exact absurd (begins.1 ▸ inside y List.mem_cons_self) apart

theorem infix_of_infix_flatMap {sources : List (List Char)} {f : Char → List Char}
    (spells : Spells mark sources f) {cs : List Char} (occurs : mark <:+: cs.flatMap f) :
    mark <:+: cs ∨ ∃ source ∈ sources, source <:+: cs := by
  induction cs with
  | nil => exact .inl occurs
  | cons c cs ih =>
    have below (later : mark <:+: cs.flatMap f) :
        mark <:+: c :: cs ∨ ∃ source ∈ sources, source <:+: c :: cs := by
      rcases ih later with plain | ⟨source, known, spelt⟩
      · exact .inl (List.infix_cons plain)
      · exact .inr ⟨source, known, List.infix_cons spelt⟩
    rcases spells c with same | ⟨x, rest, replaced, apart, alone, joined⟩
    · have split : (c :: cs).flatMap f = c :: cs.flatMap f := by
        rw [List.flatMap_cons, same, List.singleton_append]
      rw [split] at occurs
      rcases List.infix_cons_iff.mp occurs with begins | later
      · rw [← split] at begins
        exact .inl (prefix_of_prefix_flatMap spells (fun _ member => member) begins).isInfix
      · exact below later
    · rw [List.flatMap_cons, replaced, List.cons_append] at occurs
      -- The mark has no `x`: it is in the rest of the replacement, behind that or across its end.
      rcases (infix_append_cons_iff apart [] _).mp occurs with none | later
      · exact .inl (none.trans List.nil_infix)
      · rcases List.infix_append_iff.mp later with inner | behind | ⟨t, back, whole, ends, begins⟩
        · exact absurd inner alone
        · exact below behind
        · by_cases none : t = []
          · rw [none, List.nil_append] at whole
            exact below (whole ▸ begins.isInfix)
          · have known := joined t none ends (whole ▸ List.prefix_append t back)
            rw [whole, List.drop_left] at known
            have plain := prefix_of_prefix_flatMap spells
              (fun d member => whole ▸ List.mem_append_right t member) begins
            exact .inr ⟨c :: back, known, (List.cons_prefix_cons.mpr ⟨rfl, plain⟩).isInfix⟩

end Infix

variable {mark : String}

theorem Avoids.of_outside {s : String} (marked : mark ≠ "") (outside : Outside mark s) :
    Avoids mark s := by
  intro occurs
  cases chars : mark.toList with
  | nil => exact marked (String.toList_eq_nil_iff.mp chars)
  | cons x xs =>
    have first : x ∈ mark.toList := by
      rw [chars]
      exact List.mem_cons_self
    exact outside x (occurs.subset first) first

theorem avoids_append_iff {sep : String} (present : sep ≠ "") (outside : Outside mark sep)
    (a b : String) : Avoids mark (a ++ sep ++ b) ↔ Avoids mark a ∧ Avoids mark b := by
  cases chars : sep.toList with
  | nil => exact absurd (String.toList_eq_nil_iff.mp chars) present
  | cons c rest =>
    have apart : c ∉ mark.toList := outside c (by simp [chars])
    have start : ∀ d ∈ rest, mark.toList.head? ≠ some d := by
      intro d member first
      exact outside d (by simp [chars, member]) (List.mem_of_head? first)
    have skip : mark.toList <:+: rest ++ b.toList ↔ mark.toList <:+: b.toList := by
      constructor
      · exact infix_of_infix_append start
      · intro occurs
        exact occurs.trans (List.suffix_append rest _).isInfix
    rw [Avoids, Avoids, Avoids, ← not_or, String.toList_append, String.toList_append, chars,
      List.append_assoc, List.cons_append, infix_append_cons_iff apart, skip]

theorem avoids_empty (marked : mark ≠ "") : Avoids mark "" :=
  Avoids.of_outside marked (by simp [Outside])

theorem Avoids.enclosed {opening closing s : String} (marked : mark ≠ "")
    (before : opening ≠ "" ∧ Outside mark opening) (behind : closing ≠ "" ∧ Outside mark closing)
    (avoids : Avoids mark s) : Avoids mark (opening ++ s ++ closing) := by
  have front : Avoids mark (opening ++ s) := by
    have both := (avoids_append_iff before.1 before.2 "" s).mpr ⟨avoids_empty marked, avoids⟩
    rwa [String.empty_append] at both
  have both := (avoids_append_iff behind.1 behind.2 (opening ++ s) "").mpr
    ⟨front, avoids_empty marked⟩
  rwa [String.append_empty] at both

theorem Avoids.intercalate {sep : String} {parts : List String} (marked : mark ≠ "")
    (present : sep ≠ "") (outside : Outside mark sep) (avoids : ∀ s ∈ parts, Avoids mark s) :
    Avoids mark (sep.intercalate parts) := by
  induction parts with
  | nil => exact avoids_empty marked
  | cons s parts ih =>
    have first := avoids s List.mem_cons_self
    have rest := ih fun t member => avoids t (List.mem_cons_of_mem _ member)
    cases parts with
    | nil => exact first
    | cons t parts =>
      rw [String.intercalate_cons_cons]
      exact (avoids_append_iff present outside s _).mpr ⟨first, rest⟩

def endsOutside (mark s : String) : Bool := s.toList.getLast?.any (!mark.toList.contains ·)

def beginsOutside (mark s : String) : Bool := s.toList.head?.any (!mark.toList.contains ·)

theorem endsOutside_append (a : String) {b : String} (ends : endsOutside mark b = true) :
    endsOutside mark (a ++ b) = true := by
  obtain ⟨c, last, apart⟩ := (Option.any_eq_true _ _).mp ends
  rw [endsOutside, String.toList_append, List.getLast?_append, last]
  exact apart

theorem Avoids.append_of_ends {a b : String} (first : Avoids mark a) (second : Avoids mark b)
    (ends : endsOutside mark a = true) : Avoids mark (a ++ b) := by
  obtain ⟨c, last, outside⟩ := (Option.any_eq_true _ _).mp ends
  obtain ⟨front, chars⟩ := List.getLast?_eq_some_iff.mp last
  have apart : c ∉ mark.toList := by simpa using outside
  rw [Avoids, chars] at first
  rw [Avoids, String.toList_append, chars, List.append_assoc, List.singleton_append,
    infix_append_cons_iff apart, not_or]
  exact ⟨fun occurs => first (occurs.trans (List.prefix_append front [c]).isInfix), second⟩

theorem Avoids.append_of_begins {a b : String} (first : Avoids mark a) (second : Avoids mark b)
    (begins : beginsOutside mark b = true) : Avoids mark (a ++ b) := by
  obtain ⟨c, head, outside⟩ := (Option.any_eq_true _ _).mp begins
  obtain ⟨back, chars⟩ := List.head?_eq_some_iff.mp head
  have apart : c ∉ mark.toList := by simpa using outside
  rw [Avoids, chars] at second
  rw [Avoids, String.toList_append, chars, infix_append_cons_iff apart, not_or]
  exact ⟨first, fun occurs => second (occurs.trans (List.suffix_cons c back).isInfix)⟩

/-- A text that brings no mark with it wherever it stands between two others. -/
structure Glue (mark s : String) : Prop where
  avoids : Avoids mark s
  begins : beginsOutside mark s = true
  ends : endsOutside mark s = true

instance (mark s : String) : Decidable (Glue mark s) :=
  decidable_of_iff
    (Avoids mark s ∧ beginsOutside mark s = true ∧ endsOutside mark s = true)
    ⟨fun h => ⟨h.1, h.2.1, h.2.2⟩, fun h => ⟨h.avoids, h.begins, h.ends⟩⟩

theorem Glue.of_outside {s : String} (marked : mark ≠ "") (present : s ≠ "")
    (outside : Outside mark s) : Glue mark s where
  avoids := .of_outside marked outside
  begins := by
    have some : s.toList ≠ [] := fun none => present (String.toList_eq_nil_iff.mp none)
    rw [beginsOutside, List.head?_eq_some_head some]
    simpa using outside _ (List.head_mem some)
  ends := by
    have some : s.toList ≠ [] := fun none => present (String.toList_eq_nil_iff.mp none)
    rw [endsOutside, List.getLast?_eq_some_getLast some]
    simpa using outside _ (List.getLast_mem some)

theorem Glue.join {a b sep : String} (glue : Glue mark sep) (first : Avoids mark a)
    (second : Avoids mark b) : Avoids mark (a ++ sep ++ b) :=
  (first.append_of_begins glue.avoids glue.begins).append_of_ends second
    (endsOutside_append a glue.ends)

theorem Glue.enclose {opening closing s : String} (before : Glue mark opening)
    (behind : Glue mark closing) (avoids : Avoids mark s) : Avoids mark (opening ++ s ++ closing) :=
  (before.avoids.append_of_ends avoids before.ends).append_of_begins behind.avoids behind.begins

theorem Avoids.flatMap_of_spells {sources : List (List Char)} {f : Char → List Char} {s : String}
    (spells : Spells mark.toList sources f) (avoids : Avoids mark s)
    (free : ∀ source ∈ sources, ¬ source <:+: s.toList) :
    Avoids mark (String.ofList (s.toList.flatMap f)) := by
  intro occurs
  rw [String.toList_ofList] at occurs
  rcases infix_of_infix_flatMap spells occurs with plain | ⟨source, known, spelt⟩
  · exact avoids plain
  · exact free source known spelt

theorem Avoids.flatMap {f : Char → List Char} {s : String} (escapes : Escapes mark.toList f)
    (avoids : Avoids mark s) : Avoids mark (String.ofList (s.toList.flatMap f)) := by
  have marked : mark.toList ≠ [] := fun none => avoids (none ▸ List.nil_infix)
  exact avoids.flatMap_of_spells (escapes.spells marked) (List.forall_mem_nil _)

end AppScaffold.Text
