import AppScaffold.Proofs.Spec.Validity
import AppScaffold.Proofs.Text.Lines
import AppScaffold.Screen.Module
import Mathlib.Data.List.Nodup
import Mathlib.Data.List.Perm.Basic

/-! The names that the declarations of a screen bind. Validation keeps the state bindings apart, but
not what sets them, nor the way to other screens: a name may be bound twice, and the main statement
says exactly when. -/

namespace AppScaffold

open Text

/-- The names in a pattern: its longest runs of characters that identifiers are made of. -/
def patternNames (pattern : List Char) : List String :=
  ((splitWhere (!isIdentifierPart ·) pattern).filter (!·.isEmpty)).map String.ofList

/-- The names that a line declares with `const`: those of the pattern before its `=`. -/
def constNames (line : String) : List String :=
  let ink := line.toList.dropWhile isBlank
  if "const ".toList.isPrefixOf ink then patternNames ((ink.drop 6).takeWhile (· != '=')) else []

def Screen.constNames (s : Screen) : List String := s.declarations.flatMap AppScaffold.constNames

theorem constNames_navigation :
    constNames "  const navigation = useNavigation();" = ["navigation"] := by
  decide +kernel

theorem constNames_of_pattern {line : String} {pattern rest : List Char} (free : '=' ∉ pattern)
    (chars : line.toList = "  const ".toList ++ (pattern ++ '=' :: rest)) :
    constNames line = patternNames pattern := by
  have ink : line.toList.dropWhile isBlank = "const ".toList ++ (pattern ++ '=' :: rest) := by
    rw [chars]
    rfl
  have start : "const ".toList.isPrefixOf ("const ".toList ++ (pattern ++ '=' :: rest)) = true :=
    List.isPrefixOf_iff_prefix.mpr (List.prefix_append _ _)
  have before : (pattern ++ '=' :: rest).takeWhile (· != '=') = pattern := by
    rw [List.takeWhile_append_of_pos]
    · simp
    · intro c member
      simpa using ne_of_mem_of_not_mem member free
  simp only [constNames, ink, start, if_true]
  rw [List.drop_left' (by decide), before]

theorem patternNames_pair {a b : List Char} (a_some : a ≠ []) (b_some : b ≠ [])
    (a_parts : ∀ c ∈ a, isIdentifierPart c = true) (b_parts : ∀ c ∈ b, isIdentifierPart c = true) :
    patternNames ('[' :: a ++ [',', ' '] ++ b ++ [']', ' ']) =
      [String.ofList a, String.ofList b] := by
  have a_whole : splitWhere (!isIdentifierPart ·) a = [a] :=
    splitWhere_of_whole (by simpa using a_parts)
  have b_whole : splitWhere (!isIdentifierPart ·) b = [b] :=
    splitWhere_of_whole (by simpa using b_parts)
  have shape : '[' :: a ++ [',', ' '] ++ b ++ [']', ' '] =
      [] ++ '[' :: (a ++ ',' :: ([] ++ ' ' :: (b ++ ']' :: [' ']))) := by
    simp
  have pieces : splitWhere (!isIdentifierPart ·) ('[' :: a ++ [',', ' '] ++ b ++ [']', ' ']) =
      [[], a, [], b, [], []] := by
    rw [shape, splitWhere_append_cons (by decide), splitWhere_append_cons (by decide),
      splitWhere_append_cons (by decide), splitWhere_append_cons (by decide), a_whole, b_whole]
    rfl
  rw [patternNames, pieces]
  simp [a_some, b_some]

theorem toNat_lt_of_isIdentifierPart {c : Char} (part : isIdentifierPart c = true) :
    c.toNat < 128 := by
  simp only [isIdentifierPart, Char.isAlphanum, Bool.or_eq_true, beq_iff_eq] at part
  delta Char.isAlpha Char.isUpper Char.isLower Char.isDigit at part
  simp only [Bool.or_eq_true, Bool.and_eq_true, decide_eq_true_eq, ge_iff_le,
    UInt32.le_iff_toNat_le] at part
  rcases part with (((upper | lower) | digit) | rfl) | rfl
  · exact Nat.lt_of_le_of_lt upper.2 (by decide)
  · exact Nat.lt_of_le_of_lt lower.2 (by decide)
  · exact Nat.lt_of_le_of_lt digit.2 (by decide)
  · decide
  · decide

theorem isIdentifierPart_of_mem_upperChar {c d : Char} (part : isIdentifierPart c = true)
    (member : d ∈ upperChar c) : isIdentifierPart d = true := by
  have ascii : ((List.range 128).map Char.ofNat).all (fun c =>
      !isIdentifierPart c || (upperChar c).all isIdentifierPart) = true := by
    decide +kernel
  have known : c ∈ (List.range 128).map Char.ofNat :=
    List.mem_map.mpr
      ⟨c.toNat, List.mem_range.mpr (toNat_lt_of_isIdentifierPart part), Char.ofNat_toNat c⟩
  have upper := List.all_eq_true.mp ascii c known
  rw [part, Bool.not_true, Bool.false_or] at upper
  exact List.all_eq_true.mp upper d member

theorem toList_setterName (name : String) :
    (setterName name).toList = "set".toList ++ (upperFirst name).toList :=
  String.toList_append

theorem isIdentifierPart_of_mem_setterName {name : String} (identifier : isIdentifier name = true)
    {d : Char} (member : d ∈ (setterName name).toList) : isIdentifierPart d = true := by
  obtain ⟨c, cs, chars, start, parts⟩ := isIdentifier_iff.mp identifier
  have upper : (upperFirst name).toList = upperChar c ++ cs := by
    rw [upperFirst, chars, String.toList_ofList]
  rw [toList_setterName, upper, List.mem_append, List.mem_append] at member
  have letters : "set".toList.all isIdentifierPart = true := by decide
  rcases member with set | capital | later
  · exact List.all_eq_true.mp letters d set
  · exact isIdentifierPart_of_mem_upperChar (isIdentifierPart_of_start start) capital
  · exact parts d later

theorem setterName_ne_navigation (name : String) : setterName name ≠ "navigation" := by
  intro same
  have heads := congrArg (·.toList.head?) same
  simp only [toList_setterName] at heads
  cases heads

theorem setterName_inj {a b : String} : setterName a = setterName b ↔ upperFirst a = upperFirst b :=
  String.append_right_inj "set"

theorem StateBinding.constNames_declaration {b : StateBinding}
    (identifier : isIdentifier b.name = true) :
    constNames b.declaration = [b.name, setterName b.name] := by
  have parts : ∀ c ∈ b.name.toList, isIdentifierPart c = true := fun _ =>
    isIdentifierPart_of_mem identifier
  have setterParts : ∀ c ∈ (setterName b.name).toList, isIdentifierPart c = true := fun _ =>
    isIdentifierPart_of_mem_setterName identifier
  have setter : (setterName b.name).toList ≠ [] := by
    rw [toList_setterName]
    exact List.cons_ne_nil _ _
  have names := patternNames_pair (toList_ne_nil_of_isIdentifier identifier) setter parts
    setterParts
  rw [String.ofList_toList, String.ofList_toList] at names
  have absent : ∀ cs : List Char, (∀ c ∈ cs, isIdentifierPart c = true) → '=' ∉ cs := by
    intro cs parts member
    have part : isIdentifierPart '=' = true := parts _ member
    revert part
    decide
  have free : '=' ∉ '[' :: b.name.toList ++ [',', ' '] ++ (setterName b.name).toList ++
      [']', ' '] := by
    simp only [List.mem_append, List.mem_cons, not_or]
    exact ⟨⟨⟨⟨by decide, absent _ parts⟩, by decide⟩, absent _ setterParts⟩, by decide⟩
  have chars : b.declaration.toList = "  const ".toList ++ ('[' :: b.name.toList ++ [',', ' '] ++
      (setterName b.name).toList ++ [']', ' '] ++
      '=' :: (" useState(" ++ b.initialValue.compact ++ ");").toList) := by
    simp [declaration]
  rw [constNames_of_pattern free chars, names]

theorem Screen.constNames_eq {s : Screen} (wellFormed : s.WellFormed) :
    s.constNames = (if s.usesNavigation then ["navigation"] else []) ++
      s.state.flatMap fun b => [b.name, setterName b.name] := by
  have bindings : (s.state.map StateBinding.declaration).flatMap AppScaffold.constNames =
      s.state.flatMap fun b => [b.name, setterName b.name] := by
    rw [List.flatMap_map]
    apply List.flatMap_congr
    intro b member
    exact StateBinding.constNames_declaration (wellFormed.state_identifiers b member)
  rw [constNames, declarations, List.flatMap_append, bindings]
  cases s.usesNavigation with
  | false => rfl
  | true =>
    have line : (["  const navigation = useNavigation();"]).flatMap AppScaffold.constNames =
        ["navigation"] := by
      simp [constNames_navigation]
    rw [if_pos rfl, if_pos rfl, line]

/-- A name is declared twice at the head of the screen's function. -/
inductive Screen.Redeclares (s : Screen) : Prop
  | accessor (b : StateBinding) (navigates : s.usesNavigation = true) (member : b ∈ s.state)
      (same : b.name = "navigation")
  | setter (b d : StateBinding) (first : b ∈ s.state) (second : d ∈ s.state)
      (same : d.name = setterName b.name)
  | initial (b d : StateBinding) (first : b ∈ s.state) (second : d ∈ s.state)
      (apart : b.name ≠ d.name) (same : upperFirst b.name = upperFirst d.name)

theorem nodup_setters_iff {bs : List StateBinding} (nodup : (bs.map StateBinding.name).Nodup) :
    (bs.map fun b => setterName b.name).Nodup ↔
      ∀ b ∈ bs, ∀ d ∈ bs, upperFirst b.name = upperFirst d.name → b.name = d.name := by
  rw [List.nodup_map_iff_inj_on nodup.of_map]
  simp only [setterName_inj]
  constructor
  · intro apart b first d second same
    rw [apart b first d second same]
  · intro apart b first d second same
    exact List.inj_on_of_nodup_map nodup first second (apart b first d second same)

theorem nodup_bindings_iff {bs : List StateBinding} (nodup : (bs.map StateBinding.name).Nodup) :
    (bs.flatMap fun b => [b.name, setterName b.name]).Nodup ↔
      (∀ b ∈ bs, ∀ d ∈ bs, upperFirst b.name = upperFirst d.name → b.name = d.name) ∧
        ∀ b ∈ bs, ∀ d ∈ bs, d.name ≠ setterName b.name := by
  have groups : (bs.flatMap fun b => [b.name, setterName b.name]).Perm
      (bs.map StateBinding.name ++ bs.map fun b => setterName b.name) := by
    rw [List.map_eq_flatMap, List.map_eq_flatMap]
    exact (List.flatMap_append_perm bs (fun b => [b.name]) fun b => [setterName b.name]).symm
  rw [groups.nodup_iff, List.nodup_append, nodup_setters_iff nodup]
  simp only [nodup, true_and, List.forall_mem_map]
  exact and_congr_right fun _ => forall₂_comm

theorem forall_ne_navigation_iff {bs : List StateBinding} :
    (∀ n ∈ bs.flatMap fun b => [b.name, setterName b.name], "navigation" ≠ n) ↔
      ∀ b ∈ bs, b.name ≠ "navigation" := by
  simp only [List.forall_mem_flatMap, List.forall_mem_cons]
  constructor
  · exact fun apart b member => (apart b member).1.symm
  · intro apart b member
    exact ⟨(apart b member).symm, (setterName_ne_navigation b.name).symm, nofun⟩

theorem Screen.WellFormed.nodup_iff {s : Screen} (wellFormed : s.WellFormed) :
    s.constNames.Nodup ↔ ¬ s.Redeclares := by
  have accessor : (∀ a ∈ (if s.usesNavigation then ["navigation"] else []),
      ∀ n ∈ s.state.flatMap fun b => [b.name, setterName b.name], a ≠ n) ↔
      (s.usesNavigation = true → ∀ b ∈ s.state, b.name ≠ "navigation") := by
    rw [← forall_ne_navigation_iff]
    cases s.usesNavigation <;> simp
  have single : (if s.usesNavigation then ["navigation"] else []).Nodup := by
    split <;> simp
  rw [constNames_eq wellFormed, List.nodup_append, nodup_bindings_iff wellFormed.state_nodup,
    accessor]
  constructor
  · rintro ⟨-, ⟨initials, setters⟩, accessors⟩ redeclares
    cases redeclares with
    | accessor b navigates member same => exact accessors navigates b member same
    | setter b d first second same => exact setters b first d second same
    | initial b d first second apart same => exact apart (initials b first d second same)
  · intro once
    refine ⟨single, ⟨fun b first d second same => ?_, fun b first d second same => ?_⟩,
      fun navigates b member same => ?_⟩
    · by_contra apart
      exact once (.initial b d first second apart same)
    · exact once (.setter b d first second same)
    · exact once (.accessor b navigates member same)

theorem blocks_cons {part : List String} (some : part ≠ []) (parts : List (List String)) :
    blocks (part :: parts) = part ++ [""] ++ blocks parts := by
  simp [blocks, some]

theorem Screen.declarations_infix (s : Screen) : s.declarations <:+: s.functionLines := by
  by_cases some : s.declarations = []
  · rw [some]
    exact List.nil_infix
  · refine ⟨["export default function " ++ s.componentName ++ "() \x7b"],
      [""] ++ blocks (s.effects.map Effect.block) ++ ["  return ("] ++ s.markupLines ++
        ["  );", "\x7d"], ?_⟩
    rw [functionLines, blocks_cons some]
    simp only [List.append_assoc]

/-- In a specification without errors, a screen declares a name twice exactly where a binding meets
the way to other screens or a setter, or two setters meet. -/
theorem AppSpecification.nodup_constNames_iff {spec : AppSpecification}
    (valid : spec.validate.isValid = true) {s : Screen} (member : s ∈ spec.screens) :
    s.declarations <:+: s.functionLines ∧ (s.constNames.Nodup ↔ ¬ s.Redeclares) :=
  ⟨s.declarations_infix, ((isValid_iff.mp valid).screens s member).nodup_iff⟩

def clashingCounter : AppSpecification where
  appName := "Counter"
  screens :=
    [{ name := "Home", path := "index",
       state := [{ name := "count", initialValue := .number (.natural 0), type := "number" },
         { name := "setCount", initialValue := .number (.natural 0), type := "number" }] }]

theorem AppSpecification.clashingCounter_redeclares :
    clashingCounter.validate.issues = [] ∧ clashingCounter.validate.isValid = true ∧
      ∃ s ∈ clashingCounter.screens,
        s.constNames = ["count", "setCount", "setCount", "setSetCount"] ∧
          ¬ s.constNames.Nodup := by
  decide +kernel

def navigatingCounter : Screen where
  name := "Home"
  path := "index"
  components := [{ kind := .button, navigateTo := some "Home" }]
  state := [{ name := "count" }, { name := "step" }]

theorem AppSpecification.nodup_constNames_navigatingCounter :
    ({ appName := "Counter", screens := [navigatingCounter] } :
        AppSpecification).validate.isValid = true ∧
      navigatingCounter.constNames = ["navigation", "count", "setCount", "step", "setStep"] ∧
      ¬ navigatingCounter.Redeclares := by
  have valid : ({ appName := "Counter", screens := [navigatingCounter] } :
      AppSpecification).validate.isValid = true := by
    decide +kernel
  have names : navigatingCounter.constNames =
      ["navigation", "count", "setCount", "step", "setStep"] := by
    decide +kernel
  have nodup : navigatingCounter.constNames.Nodup := by
    rw [names]
    decide
  exact ⟨valid, names, (nodup_constNames_iff valid List.mem_cons_self).2.mp nodup⟩

end AppScaffold
