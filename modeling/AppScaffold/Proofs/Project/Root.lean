import AppScaffold.Project.AppRoot
import AppScaffold.Proofs.Markup.Literal
import AppScaffold.Proofs.Spec.Validity
import AppScaffold.Proofs.Text.Lines
import Mathlib.Data.List.Basic

/-! What the root of an app says, read off the lines of its text: the screens that it imports, the
names under which it registers them, and the one at which it starts. -/

namespace AppScaffold

open Markup Text

def ink (line : String) : String := String.ofList (line.toList.dropWhile isBlank)

/-- What stands between the two in a line that has nothing else. -/
def between? (opening closing line : String) : Option String :=
  let size := line.toList.length - opening.toList.length - closing.toList.length
  let inner := String.ofList ((line.toList.drop opening.toList.length).take size)
  if opening ++ inner ++ closing = line then some inner else none

def importOf (name : String) : String := "import " ++ name ++ " from './screens/" ++ name ++ "';"

def imported? (line : String) : Option String :=
  let size := (line.toList.length - (importOf "").toList.length) / 2
  let name := String.ofList ((line.toList.drop "import ".toList.length).take size)
  if importOf name = line then some name else none

def initialRoute? (line : String) : Option String :=
  between? "initialRouteName=\"" "\"" (ink line)

/-- The names and the components that the lines register: those of every block that `Stack.Screen`
opens, up to where the block ends. -/
def registrations : List String → List (List String × List String)
  | [] => []
  | l :: ls =>
    if ink l = "<Stack.Screen" then
      let block := (ls.takeWhile (ink · ≠ "/>")).map ink
      (block.filterMap (between? "name=\"" "\""),
        block.filterMap (between? "component=\x7b" "\x7d")) :: registrations ls
    else registrations ls

theorem between?_eq_some_iff {opening closing line inner : String} :
    between? opening closing line = some inner ↔ line = opening ++ inner ++ closing := by
  rw [between?]
  constructor
  · intro found
    split at found
    · rename_i same
      rw [← same, Option.some.inj found]
    · cases found
  · rintro rfl
    have size : (opening ++ inner ++ closing).toList.length - opening.toList.length -
        closing.toList.length = inner.toList.length := by
      simp only [String.toList_append, List.length_append]
      omega
    have cut : ((opening ++ inner ++ closing).toList.drop opening.toList.length).take
        inner.toList.length = inner.toList := by
      rw [String.toList_append, String.toList_append, List.append_assoc, List.drop_left,
        List.take_left]
    simp only [size, cut, String.ofList_toList, if_true]

theorem imported?_eq_some_iff {line name : String} :
    imported? line = some name ↔ line = importOf name := by
  rw [imported?]
  constructor
  · intro found
    split at found
    · rename_i same
      rw [← same, Option.some.inj found]
    · cases found
  · rintro rfl
    have size : ((importOf name).toList.length - (importOf "").toList.length) / 2 =
        name.toList.length := by
      simp only [importOf, String.toList_append, List.length_append, String.toList_empty,
        List.length_nil]
      omega
    have cut : ((importOf name).toList.drop "import ".toList.length).take name.toList.length =
        name.toList := by
      simp only [importOf, String.toList_append, List.append_assoc, List.drop_left, List.take_left]
    simp only [size, cut, String.ofList_toList, if_true]

def Apart (a b : List Char) : Prop := ¬ a <+: b ∧ ¬ b <+: a

instance (a b : List Char) : Decidable (Apart a b) := inferInstanceAs (Decidable (_ ∧ _))

-- The beginning of a line is given by its characters, which a literal unifies with, so that what
-- is asked of it can be decided without decoding the literal.
section Begin

variable {a word : List Char}

theorem Apart.append_ne (apart : Apart a word) (x y : String) :
    String.ofList a ++ x ≠ String.ofList word ++ y := by
  intro same
  have chars := congrArg String.toList same
  rw [String.toList_append, String.toList_append, String.toList_ofList,
    String.toList_ofList] at chars
  have first : a <+: word ++ y.toList := by
    rw [← chars]
    exact List.prefix_append _ _
  rcases List.prefix_or_prefix_of_prefix first (List.prefix_append _ _) with before | behind
  · exact apart.1 before
  · exact apart.2 behind

theorem Apart.ne_nil (apart : Apart a word) : a ≠ [] := by
  rintro rfl
  exact apart.1 List.nil_prefix

theorem ink_ofList (a : List Char) : ink (String.ofList a) = String.ofList (a.dropWhile isBlank) := by
  rw [ink, String.toList_ofList]

theorem ink_append (inked : a.dropWhile isBlank ≠ []) (b : String) :
    ink (String.ofList a ++ b) = String.ofList (a.dropWhile isBlank) ++ b := by
  rw [ink, String.toList_append, String.toList_ofList, List.dropWhile_append,
    if_neg (by simpa using inked), String.ofList_append, String.ofList_toList]

theorem ink_append_ne (apart : Apart (a.dropWhile isBlank) word) (b : String) :
    ink (String.ofList a ++ b) ≠ String.ofList word := by
  have other := apart.append_ne b ""
  rw [String.append_empty] at other
  rwa [ink_append apart.ne_nil]

theorem between?_ink_append (apart : Apart (a.dropWhile isBlank) word) (b closing : String) :
    between? (String.ofList word) closing (ink (String.ofList a ++ b)) = none := by
  rw [Option.eq_none_iff_forall_ne_some]
  intro inner found
  rw [between?_eq_some_iff, ink_append apart.ne_nil, String.append_assoc] at found
  exact apart.append_ne _ _ found

theorem between?_ink (begins : a.dropWhile isBlank = word) (inked : word ≠ [])
    (inner closing : String) :
    between? (String.ofList word) closing (ink (String.ofList a ++ (inner ++ closing))) =
      some inner := by
  rw [between?_eq_some_iff, ink_append (by rwa [begins]), begins, String.append_assoc]

theorem imported?_append (indented : a.head? = some ' ') (b : String) :
    imported? (String.ofList a ++ b) = none := by
  rw [Option.eq_none_iff_forall_ne_some]
  intro name found
  rw [imported?_eq_some_iff] at found
  have first := congrArg (·.toList.head?) found
  simp [importOf, indented] at first

end Begin

theorem registrations_append {front : List String} (quiet : ∀ l ∈ front, ink l ≠ "<Stack.Screen")
    (ls : List String) : registrations (front ++ ls) = registrations ls := by
  induction front with
  | nil => rfl
  | cons l front ih =>
    rw [List.forall_mem_cons] at quiet
    rw [List.cons_append, registrations, if_neg quiet.1, ih quiet.2]

/-- The line says nothing about screens. -/
structure Quiet (l : String) : Prop where
  opening : ink l ≠ "<Stack.Screen"
  route : initialRoute? l = none
  imported : imported? l = none

/-- A line is quiet if it begins unlike what opens a registration or names the first route, and has
no dot, as the paths of imports have, or an indentation. -/
theorem Quiet.cons {cs : List Char} {ls : List String}
    (opening : ¬ ['<', 'S', 't', 'a', 'c', 'k', '.', 'S'] <+: cs.dropWhile isBlank)
    (route : ¬ ['i', 'n'] <+: cs.dropWhile isBlank) (imports : '.' ∉ cs ∨ cs.head? = some ' ')
    (quiet : ∀ l ∈ ls, Quiet l) : ∀ l ∈ String.ofList cs :: ls, Quiet l := by
  rw [List.forall_mem_cons]
  refine ⟨⟨?_, ?_, ?_⟩, quiet⟩
  · intro same
    rw [ink_ofList, ← String.toList_inj, String.toList_ofList] at same
    rw [same] at opening
    exact opening ⟨"creen".toList, by simp⟩
  · rw [initialRoute?, Option.eq_none_iff_forall_ne_some]
    intro inner found
    rw [between?_eq_some_iff, ink_ofList, ← String.toList_inj, String.toList_ofList] at found
    rw [found] at route
    exact route ⟨("itialRouteName=\"" ++ inner ++ "\"").toList, by simp⟩
  · rcases imports with undotted | indented
    · rw [Option.eq_none_iff_forall_ne_some]
      intro name found
      rw [imported?_eq_some_iff, ← String.toList_inj, String.toList_ofList] at found
      simp [found, importOf] at undotted
    · have none := imported?_append indented ""
      rwa [String.append_empty] at none

theorem Quiet.filterMap_route {ls : List String} (quiet : ∀ l ∈ ls, Quiet l) :
    ls.filterMap initialRoute? = [] :=
  List.filterMap_eq_nil_iff.mpr fun l member => (quiet l member).route

theorem Quiet.filterMap_imported {ls : List String} (quiet : ∀ l ∈ ls, Quiet l) :
    ls.filterMap imported? = [] :=
  List.filterMap_eq_nil_iff.mpr fun l member => (quiet l member).imported

namespace Screen

def attributes (s : Screen) : List String :=
  ["          name=\"" ++ (s.name ++ "\""),
    "          component=\x7b" ++ (s.componentName ++ "\x7d"),
    "          options=\x7b\x7b title: " ++ (literal (Title.title s.name) ++ " \x7d\x7d")]

theorem registration_eq (s : Screen) :
    s.registration = "        <Stack.Screen" :: (s.attributes ++ ["        />"]) := by
  simp only [registration, attributes, String.append_assoc, List.cons_append, List.nil_append]

theorem quiet_attributes (s : Screen) : ∀ l ∈ s.attributes, Quiet l := by
  intro l member
  simp only [attributes, List.mem_cons, List.not_mem_nil, or_false] at member
  rcases member with rfl | rfl | rfl
  all_goals
    exact ⟨ink_append_ne (by decide) _, between?_ink_append (by decide) _ _,
      imported?_append (by decide) _⟩

theorem ink_attributes_ne {s : Screen} {l : String} (member : l ∈ s.attributes) :
    ink l ≠ "/>" := by
  simp only [attributes, List.mem_cons, List.not_mem_nil, or_false] at member
  rcases member with rfl | rfl | rfl
  all_goals exact ink_append_ne (by decide) _

theorem names_attributes (s : Screen) :
    (s.attributes.map ink).filterMap (between? "name=\"" "\"") = [s.name] := by
  have read : between? "name=\"" "\"" (ink ("          name=\"" ++ (s.name ++ "\""))) =
      some s.name :=
    between?_ink (by decide) (by decide) s.name "\""
  rw [attributes, List.map_cons, List.filterMap_cons_some read, List.map_cons,
    List.filterMap_cons_none (between?_ink_append (by decide) _ _), List.map_singleton,
    List.filterMap_cons_none (between?_ink_append (by decide) _ _), List.filterMap_nil]

theorem components_attributes (s : Screen) :
    (s.attributes.map ink).filterMap (between? "component=\x7b" "\x7d") = [s.componentName] := by
  have read : between? "component=\x7b" "\x7d"
      (ink ("          component=\x7b" ++ (s.componentName ++ "\x7d"))) = some s.componentName :=
    between?_ink (by decide) (by decide) s.componentName "\x7d"
  rw [attributes, List.map_cons,
    List.filterMap_cons_none (between?_ink_append (by decide) _ _), List.map_cons,
    List.filterMap_cons_some read, List.map_singleton,
    List.filterMap_cons_none (between?_ink_append (by decide) _ _), List.filterMap_nil]

theorem registrations_registration (s : Screen) (ls : List String) :
    registrations (s.registration ++ ls) =
      ([s.name], [s.componentName]) :: registrations ls := by
  have opens : ink "        <Stack.Screen" = "<Stack.Screen" := ink_ofList _
  have ends : ink "        />" = "/>" := ink_ofList _
  have block : (s.attributes ++ ["        />"] ++ ls).takeWhile (ink · ≠ "/>") = s.attributes := by
    rw [List.append_assoc, List.takeWhile_append_of_pos]
    · simp [ends]
    · intro l member
      simpa using ink_attributes_ne member
  have later : registrations (s.attributes ++ ["        />"] ++ ls) = registrations ls := by
    apply registrations_append
    rw [List.forall_mem_append, List.forall_mem_singleton, ends]
    exact ⟨fun l member => (s.quiet_attributes l member).opening, by decide⟩
  rw [registration_eq, List.cons_append, registrations, if_pos opens, block, later]
  simp only [s.names_attributes, s.components_attributes]

theorem registrations_screens (screens : List Screen) (ls : List String) :
    registrations (screens.flatMap Screen.registration ++ ls) =
      screens.map (fun s => ([s.name], [s.componentName])) ++ registrations ls := by
  induction screens with
  | nil => rfl
  | cons s screens ih =>
    rw [List.flatMap_cons, List.append_assoc, s.registrations_registration, ih]
    rfl

end Screen

section Whole

variable {s : Screen} (name : isIdentifier s.name = true)
include name

theorem Screen.lineFeed_not_mem_name : '\n' ∉ s.name.toList :=
  not_mem_of_isIdentifier name (by decide)

theorem Screen.whole_importStatement : Whole s.importStatement :=
  .append (by simp [componentName, lineFeed_not_mem_name name]) (by decide)
    (by decide)

theorem Screen.whole_registration : ∀ l ∈ s.registration, Whole l := by
  have absent := lineFeed_not_mem_name name
  have title := lineFeed_not_mem_literal (Title.title s.name)
  simp only [registration, List.forall_mem_cons]
  exact ⟨by decide, .append (by simp [absent]) (by decide) (by decide),
    .append (by simp [componentName, absent]) (by decide) (by decide),
    .append (by simp [title]) (by decide) (by decide), by decide, nofun⟩

end Whole

namespace AppSpecification

def rootLibraries : List String :=
  ["import React from 'react';",
    "import \x7b NavigationContainer \x7d from '@react-navigation/native';",
    "import \x7b createStackNavigator \x7d from '@react-navigation/stack';"]

def rootOpening : List String :=
  ["", "const Stack = createStackNavigator();", "", "export default function App() \x7b",
    "  return (", "    <NavigationContainer>", "      <Stack.Navigator"]

def rootOptions : List String := screenOptions ++ ["      >"]

def rootClosing : List String :=
  ["      </Stack.Navigator>", "    </NavigationContainer>", "  );", "\x7d"]

theorem whole_frame : ∀ l ∈ rootLibraries ++ rootOpening ++ rootOptions ++ rootClosing,
    Whole l := by
  repeat' refine Whole.cons (by decide) ?_
  exact nofun

theorem quiet_frame : ∀ l ∈ rootLibraries ++ rootOpening ++ rootOptions ++ rootClosing,
    Quiet l := by
  repeat' refine Quiet.cons (by decide) (by decide) (by decide) ?_
  exact nofun

variable {spec : AppSpecification}

theorem whole_initialRoute (wellFormed : spec.WellFormed) : ∀ l ∈ spec.initialRoute, Whole l := by
  intro l member
  obtain ⟨s, first, rfl⟩ := List.mem_map.mp member
  have among : s ∈ spec.screens := List.mem_of_head? (Option.mem_toList.mp first)
  have absent := Screen.lineFeed_not_mem_name (wellFormed.screens s among).name_identifier
  exact .append (by simp [absent]) (by decide) (by decide)

theorem lines_rootText (wellFormed : spec.WellFormed) :
    lines spec.rootText = rootLibraries ++ spec.screens.map Screen.importStatement ++ rootOpening ++
      spec.initialRoute ++ rootOptions ++ spec.screens.flatMap Screen.registration ++
      rootClosing := by
  have name : ∀ s ∈ spec.screens, isIdentifier s.name = true := fun s member =>
    (wellFormed.screens s member).name_identifier
  have split : spec.rootLines = rootLibraries ++ spec.screens.map Screen.importStatement ++
      rootOpening ++ spec.initialRoute ++ rootOptions ++
      spec.screens.flatMap Screen.registration ++ rootClosing ++ [""] := by
    simp only [rootLines, rootImports, rootLibraries, rootOpening, rootOptions, rootClosing,
      List.append_assoc, List.cons_append, List.nil_append]
  have frame := whole_frame
  simp only [List.forall_mem_append] at frame
  obtain ⟨⟨⟨libraries, opening⟩, options⟩, closing⟩ := frame
  rw [rootText, split]
  apply lines_unlines
  simp only [List.forall_mem_append, List.forall_mem_flatMap, List.forall_mem_map]
  exact ⟨⟨⟨⟨⟨⟨libraries, fun s member => Screen.whole_importStatement (name s member)⟩, opening⟩,
    whole_initialRoute wellFormed⟩, options⟩,
    fun s member => Screen.whole_registration (name s member)⟩, closing⟩

theorem imported_rootText (wellFormed : spec.WellFormed) :
    (lines spec.rootText).filterMap imported? = spec.screens.map Screen.componentName := by
  have imports : (spec.screens.map Screen.importStatement).filterMap imported? =
      spec.screens.map Screen.componentName := by
    rw [List.filterMap_map, ← List.filterMap_eq_map]
    exact List.filterMap_congr fun s _ => imported?_eq_some_iff.mpr rfl
  have routes : spec.initialRoute.filterMap imported? = [] := by
    rw [List.filterMap_eq_nil_iff, initialRoute, List.forall_mem_map]
    intro s _
    rw [String.append_assoc]
    exact imported?_append (by decide) _
  have registrations : (spec.screens.flatMap Screen.registration).filterMap imported? = [] := by
    rw [List.filterMap_eq_nil_iff, List.forall_mem_flatMap]
    intro s _
    rw [s.registration_eq, List.forall_mem_cons, List.forall_mem_append]
    exact ⟨by decide, fun l member => (s.quiet_attributes l member).imported,
      by decide⟩
  have frame := Quiet.filterMap_imported quiet_frame
  simp only [List.filterMap_append, List.append_eq_nil_iff] at frame
  simp only [lines_rootText wellFormed, List.filterMap_append, imports, routes, registrations,
    frame, List.nil_append, List.append_nil]

theorem initialRoute_rootText (wellFormed : spec.WellFormed) :
    (lines spec.rootText).filterMap initialRoute? =
      spec.initialScreen?.toList.map Screen.name := by
  have imports : (spec.screens.map Screen.importStatement).filterMap initialRoute? = [] := by
    rw [List.filterMap_eq_nil_iff, List.forall_mem_map]
    intro s _
    rw [Screen.importStatement, String.append_assoc, String.append_assoc, String.append_assoc]
    exact between?_ink_append (by decide) _ _
  have routes : spec.initialRoute.filterMap initialRoute? =
      spec.initialScreen?.toList.map Screen.name := by
    rw [initialRoute, List.filterMap_map, ← List.filterMap_eq_map]
    refine List.filterMap_congr fun s _ => ?_
    rw [Function.comp_apply, String.append_assoc]
    exact between?_ink (by decide) (by decide) s.name "\""
  have registrations : (spec.screens.flatMap Screen.registration).filterMap initialRoute? = [] := by
    rw [List.filterMap_eq_nil_iff, List.forall_mem_flatMap]
    intro s _
    rw [s.registration_eq, List.forall_mem_cons, List.forall_mem_append]
    exact ⟨by decide, fun l member => (s.quiet_attributes l member).route,
      by decide⟩
  have frame := Quiet.filterMap_route quiet_frame
  simp only [List.filterMap_append, List.append_eq_nil_iff] at frame
  simp only [lines_rootText wellFormed, List.filterMap_append, imports, routes, registrations,
    frame, List.nil_append, List.append_nil]

theorem registrations_rootText (wellFormed : spec.WellFormed) :
    registrations (lines spec.rootText) =
      spec.screens.map fun s => ([s.name], [s.componentName]) := by
  have frame := quiet_frame
  simp only [List.forall_mem_append] at frame
  obtain ⟨⟨⟨libraries, opening⟩, options⟩, closing⟩ := frame
  have imports : ∀ l ∈ spec.screens.map Screen.importStatement, ink l ≠ "<Stack.Screen" := by
    rw [List.forall_mem_map]
    intro s _
    rw [Screen.importStatement, String.append_assoc, String.append_assoc, String.append_assoc]
    exact ink_append_ne (by decide) _
  have routes : ∀ l ∈ spec.initialRoute, ink l ≠ "<Stack.Screen" := by
    rw [initialRoute, List.forall_mem_map]
    intro s _
    rw [String.append_assoc]
    exact ink_append_ne (by decide) _
  have behind : registrations rootClosing = [] := by
    have none := registrations_append (fun l member => (closing l member).opening) []
    rwa [List.append_nil] at none
  rw [lines_rootText wellFormed, List.append_assoc, registrations_append,
    Screen.registrations_screens, behind, List.append_nil]
  simp only [List.forall_mem_append]
  exact ⟨⟨⟨⟨fun l member => (libraries l member).opening, imports⟩,
    fun l member => (opening l member).opening⟩, routes⟩,
    fun l member => (options l member).opening⟩

end AppSpecification

end AppScaffold
