import AppScaffold.Proofs.Markup.Literal

/-! How texts of markup are read: string literals, the text between tags, and quoted attributes. A
literal is read as the string it was made of. Between tags and in attributes a text survives unless
it holds a character reference, since nothing escapes the `&` of one. -/

namespace AppScaffold.Markup

open Text

theorem readLiteral_escape (s rest : List Char) :
    readLiteral (s.flatMap escape ++ '\'' :: rest) = some (s, rest) := by
  induction s with
  | nil => rfl
  | cons c cs ih =>
    rw [List.flatMap_cons, List.append_assoc]
    by_cases escaped : c ∈ ['\\', '\'', '\n', '\r', '\t']
    · simp only [List.mem_cons, List.not_mem_nil, or_false] at escaped
      rcases escaped with rfl | rfl | rfl | rfl | rfl
      all_goals simp [escape, readLiteral, unescape?, ih]
    · simp only [List.mem_cons, List.not_mem_nil, or_false, not_or] at escaped
      have plain : escape c = [c] := by
        simp_all [escape]
      rw [plain, List.singleton_append]
      simp [readLiteral, escaped.1, escaped.2.1, ih]

theorem toList_literal (s : String) :
    (literal s).toList = '\'' :: (s.toList.flatMap escape ++ ['\'']) := by
  simp [literal]

/-- The character references and what they stand for. -/
def references : List (String × Char) :=
  [("&quot;", '"'), ("&amp;", '&'), ("&lt;", '<'), ("&gt;", '>'), ("&apos;", '\'')]

def resolve : List Char → List Char
  | '&' :: 'q' :: 'u' :: 'o' :: 't' :: ';' :: cs => '"' :: resolve cs
  | '&' :: 'a' :: 'm' :: 'p' :: ';' :: cs => '&' :: resolve cs
  | '&' :: 'l' :: 't' :: ';' :: cs => '<' :: resolve cs
  | '&' :: 'g' :: 't' :: ';' :: cs => '>' :: resolve cs
  | '&' :: 'a' :: 'p' :: 'o' :: 's' :: ';' :: cs => '\'' :: resolve cs
  | c :: cs => c :: resolve cs
  | [] => []

/-- No reference stands in the text. -/
def Unreferenced (s : String) : Prop := ∀ r ∈ references, Avoids r.1 s

instance (s : String) : Decidable (Unreferenced s) :=
  inferInstanceAs (Decidable (∀ r ∈ references, Avoids r.1 s))

/-- No reference begins the text. -/
def Unopened (cs : List Char) : Prop := ∀ r ∈ references, ¬ r.1.toList <+: cs

theorem length_reference : ∀ r ∈ references, 1 < r.1.toList.length := by
  decide

theorem resolve_reference {r : String × Char} (known : r ∈ references) (cs : List Char) :
    resolve (r.1.toList ++ cs) = r.2 :: resolve cs := by
  simp only [references, List.mem_cons, List.not_mem_nil, or_false] at known
  rcases known with rfl | rfl | rfl | rfl | rfl
  all_goals rfl

theorem resolve_cons {c : Char} {cs : List Char} (unopened : Unopened (c :: cs)) :
    resolve (c :: cs) = c :: resolve cs := by
  simp only [Unopened, references, List.forall_mem_cons] at unopened
  rw [resolve.eq_def]
  split
  all_goals simp_all

theorem resolve_induction {motive : List Char → Prop} (nil : motive [])
    (reference : ∀ r ∈ references, ∀ cs, motive cs → motive (r.1.toList ++ cs))
    (plain : ∀ c cs, Unopened (c :: cs) → motive cs → motive (c :: cs)) (cs : List Char) :
    motive cs := by
  induction size : cs.length using Nat.strongRecOn generalizing cs with
  | ind n ih =>
    subst size
    by_cases opened : ∃ r ∈ references, r.1.toList <+: cs
    · obtain ⟨r, known, rest, rfl⟩ := opened
      have shorter : rest.length < (r.1.toList ++ rest).length := by
        rw [List.length_append]
        have filled := length_reference r known
        omega
      exact reference r known rest (ih _ shorter rest rfl)
    · cases cs with
      | nil => exact nil
      | cons c cs =>
        apply plain c cs _ (ih _ (Nat.lt_succ_self _) cs rfl)
        intro r known begins
        exact opened ⟨r, known, begins⟩

theorem length_resolve_le (cs : List Char) : (resolve cs).length ≤ cs.length := by
  induction cs using resolve_induction with
  | nil => exact Nat.le_refl 0
  | reference r known cs ih =>
    have filled := length_reference r known
    rw [resolve_reference known, List.length_cons, List.length_append]
    omega
  | plain c cs unopened ih =>
    rw [resolve_cons unopened, List.length_cons, List.length_cons]
    omega

theorem resolve_eq_self_iff {cs : List Char} :
    resolve cs = cs ↔ ∀ r ∈ references, ¬ r.1.toList <:+: cs := by
  induction cs using resolve_induction with
  | nil =>
    constructor
    · intro _ r known within
      have filled := length_reference r known
      simp [List.infix_nil.mp within] at filled
    · exact fun _ => rfl
  | reference r known cs ih =>
    constructor
    · intro same
      have shorter := length_resolve_le cs
      have long := length_reference r known
      have lengths := congrArg List.length same
      rw [resolve_reference known, List.length_cons, List.length_append] at lengths
      omega
    · intro none
      exact absurd (List.prefix_append _ _).isInfix (none r known)
  | plain c cs unopened ih =>
    rw [resolve_cons unopened, List.cons_inj_right, ih]
    constructor
    · intro none r known within
      rcases List.infix_cons_iff.mp within with begins | later
      · exact unopened r known begins
      · exact none r known later
    · exact fun none r known within => none r known (List.infix_cons within)

theorem references_opened {r : String × Char} (known : r ∈ references) :
    r.1.toList = '&' :: r.1.toList.tail ∧ ∀ d ∈ r.1.toList.tail, d ∈ "ampltgquos;".toList := by
  have checked : references.all (fun r => r.1.toList == '&' :: r.1.toList.tail &&
      r.1.toList.tail.all ("ampltgquos;".toList.contains ·)) = true := by
    decide
  have opened := List.all_eq_true.mp checked r known
  simpa only [Bool.and_eq_true, beq_iff_eq, List.all_eq_true, List.contains_iff_mem] using opened

theorem resolve_flatMap_attributeChar (cs : List Char) :
    resolve (cs.flatMap attributeChar) = resolve cs := by
  induction cs using resolve_induction with
  | nil => rfl
  | reference r known cs ih =>
    have kept : ∀ r ∈ references, r.1.toList.flatMap attributeChar = r.1.toList := by
      decide
    rw [List.flatMap_append, kept r known, resolve_reference known, resolve_reference known, ih]
  | plain c cs unopened ih =>
    rw [resolve_cons unopened, List.flatMap_cons]
    by_cases quote : c = '"'
    · subst quote
      have known : ("&quot;", '"') ∈ references := List.mem_cons_self
      have read := resolve_reference known (cs.flatMap attributeChar)
      rw [ih] at read
      exact read
    · have same : attributeChar c = [c] := by
        simp [attributeChar]
      rw [same, List.singleton_append, ← ih]
      apply resolve_cons
      intro r known begins
      -- A reference that begins here goes on with letters, and these stand in the text itself.
      obtain ⟨split, letters⟩ := references_opened known
      rw [split, List.cons_prefix_cons] at begins
      obtain ⟨rfl, begins⟩ := begins
      have escapes : Escapes "ampltgquos;".toList attributeChar :=
        escapes_attribute (by decide) (by decide)
      apply unopened r known
      rw [split, List.cons_prefix_cons]
      exact ⟨rfl, prefix_of_prefix_flatMap (escapes.spells (by decide)) letters begins⟩

def readBody : List Char → Option (List Char)
  | '{' :: '\'' :: cs =>
    match readLiteral cs with
    | some (s, ['}']) => some s
    | _ => none
  | cs => if cs.any isSpecial then none else some (resolve cs)

def readQuoted (cs : List Char) : Option (List Char × List Char) :=
  match cs.dropWhile (· != '"') with
  | _ :: rest => some (resolve (cs.takeWhile (· != '"')), rest)
  | [] => none

theorem readBody_bodyText (s : String) : readBody (bodyText s).toList =
    some (if s.toList.any isSpecial then s.toList else resolve s.toList) := by
  rw [bodyText]
  split
  · rename_i special
    have text : ("\x7b" ++ literal s ++ "\x7d").toList =
        '{' :: '\'' :: (s.toList.flatMap escape ++ '\'' :: ['}']) := by
      simp [toList_literal]
    rw [text, readBody, readLiteral_escape]
    rfl
  · rename_i plain
    have raw : readBody s.toList =
        if s.toList.any isSpecial then none else some (resolve s.toList) := by
      unfold readBody
      split
      · rename_i cs chars
        rw [chars] at plain
        exact absurd rfl plain
      · rfl
    rw [raw, if_neg plain]

theorem quote_not_mem_attributeText (s : String) : '"' ∉ (attributeText s).toList := by
  rw [attributeText, String.toList_ofList, List.mem_flatMap]
  rintro ⟨c, -, member⟩
  unfold attributeChar at member
  split at member
  · exact absurd member (by decide)
  · rename_i other
    exact other (List.mem_singleton.mp member).symm

theorem readQuoted_attributeText (s : String) (rest : List Char) :
    readQuoted ((attributeText s).toList ++ '"' :: rest) = some (resolve s.toList, rest) := by
  have before : ∀ c ∈ (attributeText s).toList, (c != '"') = true := by
    intro c member
    exact bne_iff_ne.mpr (ne_of_mem_of_not_mem member (quote_not_mem_attributeText s))
  rw [readQuoted, List.dropWhile_append_of_pos before, List.takeWhile_append_of_pos before]
  simp [attributeText, resolve_flatMap_attributeChar]

theorem resolve_toList_eq_iff {s : String} : resolve s.toList = s.toList ↔ Unreferenced s :=
  resolve_eq_self_iff

/-- A text between tags survives unless it stands there as it is and holds a reference; the value
of an attribute survives unless it holds one, and then no two values are written alike. -/
theorem survives_iff (s : String) :
    (readBody (bodyText s).toList = some s.toList ↔
      s.toList.any isSpecial = true ∨ Unreferenced s) ∧
    (∀ rest, readQuoted ((attributeText s).toList ++ '"' :: rest) = some (s.toList, rest) ↔
      Unreferenced s) ∧
    ∀ t, Unreferenced s → Unreferenced t → attributeText s = attributeText t → s = t := by
  refine ⟨?_, fun rest => ?_, fun t plain other same => ?_⟩
  · rw [readBody_bodyText, Option.some_inj]
    cases special : s.toList.any isSpecial with
    | true => simp
    | false => simp [resolve_toList_eq_iff]
  · rw [readQuoted_attributeText, Option.some_inj, Prod.mk.injEq, resolve_toList_eq_iff]
    exact and_iff_left rfl
  · have first := readQuoted_attributeText s []
    have second := readQuoted_attributeText t []
    rw [same, second, resolve_toList_eq_iff.mpr plain, resolve_toList_eq_iff.mpr other] at first
    exact (String.toList_injective (Prod.mk.inj (Option.some.inj first)).1).symm

theorem survives_offer :
    (readBody (bodyText "Tea & \x7bjam\x7d &lt; 5").toList =
        some "Tea & \x7bjam\x7d &lt; 5".toList ∧
      ¬ Unreferenced "Tea & \x7bjam\x7d &lt; 5") ∧
    (readBody (bodyText "R&D").toList = some "R&D".toList ∧
      readQuoted ((attributeText "R&D").toList ++ ['"']) = some ("R&D".toList, [])) ∧
    Unreferenced "R&D" ∧ Unreferenced "\"R&D\"" ∧
      attributeText "R&D" ≠ attributeText "\"R&D\"" := by
  have braces := survives_iff "Tea & \x7bjam\x7d &lt; 5"
  have plain := survives_iff "R&D"
  have free : Unreferenced "R&D" := by
    decide +kernel
  have quoted : Unreferenced "\"R&D\"" := by
    decide +kernel
  refine ⟨⟨braces.1.mpr (.inl (by decide +kernel)), by decide +kernel⟩,
    ⟨plain.1.mpr (.inr free), (plain.2.1 []).mpr free⟩, free, quoted, fun same => ?_⟩
  exact absurd (plain.2.2 _ free quoted same) (by decide +kernel)

/-- A reference in a text is resolved, and a quote is written like its reference. -/
theorem reference_lost :
    (readBody (bodyText "Tom &amp; Jerry").toList = some "Tom & Jerry".toList ∧
      readBody (bodyText "Tom &amp; Jerry").toList ≠ some "Tom &amp; Jerry".toList) ∧
    readQuoted ((attributeText "&quot;").toList ++ ['"']) ≠ some ("&quot;".toList, []) ∧
    attributeText "&quot;" = attributeText "\"" := by
  decide +kernel

end AppScaffold.Markup
