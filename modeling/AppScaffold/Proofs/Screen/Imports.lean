import AppScaffold.Proofs.Screen.Names

namespace AppScaffold

open Markup Text

theorem mentions_tag (o : Opening) : Opening.mentions .tag o = [o.1.name] := by
  have primitive : ∀ p : NativePrimitive, Mark.tag.names ("<" ++ p.name) = [p.name] := by
    intro p
    cases p <;> decide +kernel
  have quiet : ∀ rule : StyleRule, Mark.tag.names rule.reference = [] := by
    intro rule
    exact names_eq_nil .tag (by cases rule <;> decide +kernel)
  rw [Opening.mentions, primitive]
  cases o.2 with
  | none => rfl
  | some rule => simp [quiet]

theorem mem_mentions_style {o : Opening} {name : String}
    (member : name ∈ Opening.mentions .style o) : ∃ rule : StyleRule, rule.name = name := by
  have quiet : ∀ p : NativePrimitive, Mark.style.names ("<" ++ p.name) = [] := by
    intro p
    exact names_eq_nil .style (by cases p <;> decide +kernel)
  have reference : ∀ rule : StyleRule, Mark.style.names rule.reference = [rule.name] := by
    intro rule
    cases rule <;> decide +kernel
  rw [Opening.mentions, quiet, List.nil_append] at member
  obtain ⟨rule, -, among⟩ := List.mem_flatMap.mp member
  rw [reference, List.mem_singleton] at among
  exact ⟨rule, among.symm⟩

/-- The name of a rule whose properties begin behind this line of a style sheet. -/
def sheetKey? (line : String) : Option String :=
  match line.toList with
  | ' ' :: ' ' :: rest =>
    let name := rest.takeWhile isNameChar
    if name ≠ [] ∧ rest.drop name.length = [':', ' ', '\x7b'] then some (String.ofList name)
    else none
  | _ => none

def sheetKeys (lines : List String) : List String := lines.filterMap sheetKey?

theorem sheetKeys_stylesheetLines :
    sheetKeys (stylesheetLines StyleRule.all) = StyleRule.all.map StyleRule.name := by
  decide +kernel

namespace Screen

theorem names_tag {s : Screen} (avoids : s.Avoids "<") :
    namesAfter "<" s.moduleText = s.openings.map (·.1.name) := by
  calc namesAfter "<" s.moduleText
    _ = s.openings.flatMap (Opening.mentions .tag) := names_moduleText .tag avoids
    _ = s.openings.flatMap fun o => [o.1.name] := by
      congr 1
      funext o
      exact mentions_tag o
    _ = s.openings.map (·.1.name) := List.map_eq_flatMap.symm

theorem names_style {s : Screen} (avoids : s.Avoids "styles.") {name : String}
    (member : name ∈ namesAfter "styles." s.moduleText) : ∃ rule : StyleRule, rule.name = name := by
  have names : namesAfter "styles." s.moduleText = s.openings.flatMap (Opening.mentions .style) :=
    names_moduleText .style avoids
  rw [names] at member
  obtain ⟨o, -, among⟩ := List.mem_flatMap.mp member
  exact mem_mentions_style among

theorem map_fst_openings (s : Screen) : s.openings.map Prod.fst =
    [.safeAreaView, .scrollView] ++ s.walkRendered.flatMap Component.primitives := by
  rw [openings, List.map_append, List.map_flatMap]
  simp only [Component.map_fst_openings]
  rfl

theorem mem_imports {s : Screen} {p : NativePrimitive} :
    p ∈ s.imports ↔ p = .styleSheet ∨ p ∈ s.openings.map Prod.fst := by
  have known : p ∈ NativePrimitive.all := by
    cases p <;> decide
  rw [imports, List.mem_filter, List.contains_iff_mem, map_fst_openings]
  simp only [known, true_and, NativePrimitive.ofWrapper, List.cons_append, List.nil_append,
    List.mem_cons]
  grind

theorem mem_names_imports {s : Screen} {name : String} :
    name ∈ s.imports.map NativePrimitive.name ↔
      name = "StyleSheet" ∨ name ∈ s.openings.map (·.1.name) := by
  constructor
  · intro member
    obtain ⟨p, imported, rfl⟩ := List.mem_map.mp member
    rcases mem_imports.mp imported with rfl | opened
    · exact .inl rfl
    · obtain ⟨o, among, rfl⟩ := List.mem_map.mp opened
      exact .inr (List.mem_map_of_mem among)
  · rintro (rfl | member)
    · exact List.mem_map_of_mem (mem_imports.mpr (.inl rfl))
    · obtain ⟨o, among, rfl⟩ := List.mem_map.mp member
      exact List.mem_map_of_mem (mem_imports.mpr (.inr (List.mem_map_of_mem among)))

theorem avoids_lineFeed_nativeLine (s : Screen) :
    Text.Avoids "\n" (nativeLine (s.imports.map NativePrimitive.name)) := by
  refine .enclosed (by decide) ⟨by decide, by decide +kernel⟩ ⟨by decide, by decide +kernel⟩ ?_
  refine .intercalate (by decide) (by decide) (by decide) fun u member => ?_
  obtain ⟨p, -, rfl⟩ := List.mem_map.mp member
  cases p <;> decide +kernel

theorem whole_reactLine (s : Screen) : Whole s.reactLine := by
  have single : Text.Avoids "\n" s.reactLine := s.avoids_reactLine (by decide +kernel)
  have last : s.reactLine.toList.getLast? = some ';' :=
    getLast?_toList_append _ (by decide +kernel)
  exact .of_getLast? single last (by decide)

theorem second_line (s : Screen) :
    (Text.lines s.moduleText)[1]? = some (nativeLine (s.imports.map NativePrimitive.name)) := by
  have native := s.avoids_lineFeed_nativeLine
  have split : s.lines = s.reactLine :: nativeLine (s.imports.map NativePrimitive.name) ::
      ((if s.usesNavigation then
          ["import \x7b useNavigation \x7d from '@react-navigation/native';"]
        else []) ++ [""] ++ s.functionLines ++ [""] ++ stylesheetLines StyleRule.all ++ [""]) := rfl
  have nativeEnd : (nativeLine (s.imports.map NativePrimitive.name)).toList.getLast? = some ';' :=
    getLast?_toList_append _ (by decide +kernel)
  -- Neither line has a line feed, so each is cut off where it was put in front.
  rw [moduleText, split, lines_unlines_cons s.whole_reactLine (by simp),
    lines_unlines_cons (.of_getLast? native nativeEnd (by decide)) (by simp)]
  rfl

theorem moduleText_eq (s : Screen) : ∃ front,
    s.moduleText = front ++ "\n" ++ unlines (stylesheetLines StyleRule.all) ++ "\n" := by
  have split : s.lines = (s.importLines ++ [""] ++ s.functionLines ++ [""] ++
      stylesheetLines StyleRule.all) ++ [""] := rfl
  refine ⟨unlines (s.importLines ++ [""] ++ s.functionLines ++ [""]), ?_⟩
  rw [moduleText, split, unlines_concat_empty (by simp),
    unlines_append _ (stylesheetLines StyleRule.all) (by simp) (List.cons_ne_nil _ _)]

end Screen

/-- The second line of a module imports the given primitives, each once and in their order. They
are those whose tags are in its text, and the one that declares its style sheet; the sheet is its
end and has every rule that the text refers to. -/
structure ImportsMatch (text : String) (names : List String) : Prop where
  line : (lines text)[1]? = some (Screen.nativeLine names)
  once : names.Nodup
  ordered : names.Sublist (NativePrimitive.all.map NativePrimitive.name)
  used : ∀ name, name ∈ names ↔ name = "StyleSheet" ∨ name ∈ namesAfter "<" text
  sheet : ∃ front, text = front ++ "\n" ++ unlines (stylesheetLines StyleRule.all) ++ "\n"
  rules : ∀ name ∈ namesAfter "styles." text, name ∈ sheetKeys (stylesheetLines StyleRule.all)

theorem Screen.importsMatch_moduleText (s : Screen) (tags : s.Avoids "<")
    (styles : s.Avoids "styles.") :
    ImportsMatch s.moduleText (s.imports.map NativePrimitive.name) where
  line := s.second_line
  once := by
    have distinct : (NativePrimitive.all.map NativePrimitive.name).Nodup := by
      decide
    exact distinct.sublist (List.filter_sublist.map _)
  ordered := List.filter_sublist.map _
  used := by
    intro name
    rw [Screen.names_tag tags]
    exact Screen.mem_names_imports
  sheet := s.moduleText_eq
  rules := by
    intro name member
    obtain ⟨rule, rfl⟩ := Screen.names_style styles member
    rw [sheetKeys_stylesheetLines]
    apply List.mem_map_of_mem
    cases rule <;> decide

def sampleScreen : Screen where
  name := "Shop"
  path := "/shop"
  components :=
    [{ kind := .card,
        children :=
          [{ kind := .title, content := some (.text "Offers \x7bnew\x7d") },
            { kind := .list, content := some (.items ["Tea", "Bob's jam"]) }] },
      { kind := .touchableOpacity, onPress := some "refresh()",
        children := [{ kind := .flatList, data := some [.string "a"], renderItem := some "" }] },
      { kind := .button, navigateTo := some "Cart", children := [{ kind := .image }],
        style := some (.object [("margin", .number (.natural 4))]) },
      { kind := .unknown "Map" }]
  state := [{ name := "count", initialValue := .array [.string "none"] }]
  effects := [{ dependencies := ["count"], code := "log(count);\nsave();" }]

theorem Screen.importsMatch_sampleScreen :
    sampleScreen.Avoids "<" ∧ sampleScreen.Avoids "styles." ∧
      ImportsMatch sampleScreen.moduleText
        ["SafeAreaView", "ScrollView", "View", "Text", "TouchableOpacity", "FlatList",
          "StyleSheet"] := by
  have tags : sampleScreen.Avoids "<" := by
    decide +kernel
  have styles : sampleScreen.Avoids "styles." := by
    decide +kernel
  have names : sampleScreen.imports.map NativePrimitive.name =
      ["SafeAreaView", "ScrollView", "View", "Text", "TouchableOpacity", "FlatList",
        "StyleSheet"] := by
    decide +kernel
  have sample := sampleScreen.importsMatch_moduleText tags styles
  rw [names] at sample
  exact ⟨tags, styles, sample⟩

end AppScaffold
