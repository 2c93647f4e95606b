import AppScaffold.Proofs.Screen.Calls
import AppScaffold.Proofs.Screen.Imports

/-! The hooks of a screen's module. What it imports and declares is decided by a walk over the
screen, and what it calls by rendering it; the two agree as long as no string of the screen holds
anything that is reserved. Every call is accounted for, with what stands around it. -/

namespace AppScaffold

open Markup Text

def reactImport (names : List String) : String :=
  "import React" ++
    (if names.isEmpty then "" else ", \x7b " ++ ", ".intercalate names ++ " \x7d") ++
    " from 'react';"

def accessorImport : String := "import \x7b useNavigation \x7d from '@react-navigation/native';"

def accessorDeclaration : String := "  const navigation = useNavigation();"

/-- What stands around the call of a state binding. -/
def StateBinding.around (b : StateBinding) : String × String :=
  ("  const [" ++ b.name ++ ", " ++ setterName b.name ++ "] = ", b.initialValue.compact ++ ");")

def Effect.around (e : Effect) : String × String :=
  ("  ", "() => \x7b\n" ++ indentLines e.code 4 ++ "\n  \x7d, [" ++
    ", ".intercalate e.dependencies ++ "]);")

def StateBinding.calls (m : Call) (b : StateBinding) : List (String × String) :=
  if m = .state then [b.around] else []

def Effect.calls (m : Call) (e : Effect) : List (String × String) :=
  if m = .effect then [e.around] else []

def frameTexts : List String :=
  ["import \x7b ", " \x7d from 'react-native';", "export default function ", "Screen() \x7b",
    "  const [", "set", "] = ", ");", "  ", "() => \x7b\n", "]);", "  return (", "style",
    "contentContainerStyle"] ++ NativePrimitive.all.map NativePrimitive.name ++ Screen.linesBelow

theorem unreserved_frameTexts : ∀ t ∈ frameTexts, Unreserved t := by
  have plain : ∀ t ∈ frameTexts, Text.Avoids "use" t ∧ Text.Avoids "navigat" t := by
    decide +kernel
  exact fun t known => unreserved_of_stems (plain t known)

namespace Call

variable (m : Call)

theorem placed_nil {s : String} (avoids : Text.Avoids m.text s) : Placed m.text s [] :=
  m.verbal.placed_nil avoids

theorem placed_lines {ls : List String} (avoids : ∀ l ∈ ls, Text.Avoids m.text l) :
    Placed m.text (unlines ls) [] :=
  .unlines_of_avoids m.inked m.marked avoids

theorem avoids_frameTexts : ∀ t ∈ frameTexts, Text.Avoids m.text t :=
  fun t known => m.avoids_of_unreserved (unreserved_frameTexts t known)

theorem avoids_linesBelow : ∀ l ∈ Screen.linesBelow, Text.Avoids m.text l :=
  fun l member => m.avoids_frameTexts l (List.mem_append_right _ member)

end Call

section Bindings

variable (m : Call)

theorem avoids_setter {binding : String} (free : Unreserved binding) :
    Text.Avoids m.text (setterName binding) := by
  have front : Text.Avoids m.text "set" := m.avoids_frameTexts _ (by simp [frameTexts])
  have small : ∀ d, m.text.toList.head? = some d → 0x61 ≤ d.toNat ∧ d.toNat ≤ 0x7a := by
    cases m <;> simp [Call.text]
  have upper : Text.Avoids m.text (upperFirst binding) :=
    avoids_upperFirst m.marked
      (fun c => .inr fun d member first => not_mem_upperChar (small d first) c member)
      (m.avoids_of_unreserved free)
  have apart : Unjoined m.text "set" (upperFirst binding) :=
    .of_inits _ (by cases m <;> decide)
  rw [setterName, ← Placed.nil_iff m.marked]
  exact (m.placed_nil front).append (m.placed_nil upper) apart

theorem StateBinding.declaration_eq (b : StateBinding) :
    b.declaration = b.around.1 ++ (Call.state.text ++ b.around.2) := by
  apply String.toList_injective
  simp [declaration, around, Call.text]

theorem Effect.unlines_block (e : Effect) :
    unlines e.block = e.around.1 ++ (Call.effect.text ++ e.around.2) := by
  apply String.toList_injective
  simp [block, around, Call.text, unlines, String.intercalate_cons_cons]

theorem fronts_outside : ∀ t ∈ ["  const [", "  ", "() => \x7b\n"],
    Text.Avoids m.text t ∧ endsOutside m.text t = true := by
  intro t known
  exact ⟨m.avoids_frameTexts t (by revert t; simp [frameTexts]), by cases m <;> revert t <;> decide⟩

theorem backs_outside : ∀ t ∈ ["] = ", ");", "]);"],
    Text.Avoids m.text t ∧ beginsOutside m.text t = true := by
  cases m <;> decide

theorem places_declaration {b : StateBinding}
    (free : ∀ u ∈ b.name :: b.initialValue.strings, Unreserved u) :
    places m.text b.declaration = b.calls m := by
  rw [List.forall_mem_cons] at free
  have opening := fronts_outside m "  const [" (by simp)
  have comma : Glue m.text ", " := m.barred.glue (by decide) (by decide)
  have assigned := backs_outside m "] = " (by simp)
  have closing := backs_outside m ");" (by simp)
  have name := opening.1.append_of_ends (m.avoids_of_unreserved free.1) opening.2
  have pair := comma.join name (avoids_setter m free.1)
  have before := pair.append_of_begins assigned.1 assigned.2
  have behind := (m.barred.inCompact free.2).append_of_begins closing.1 closing.2
  rw [b.declaration_eq]
  exact m.places_call (by decide) before (m.barred.spaced (getLast?_toList_append _ rfl)) behind

theorem places_block {e : Effect} (free : ∀ u ∈ e.code :: e.dependencies, Unreserved u) :
    places m.text (unlines e.block) = e.calls m := by
  rw [List.forall_mem_cons] at free
  have blank := fronts_outside m "  " (by simp)
  have opening := fronts_outside m "() => \x7b\n" (by simp)
  have middle : Glue m.text "\n  \x7d, [" := by
    exact .of_outside m.marked (by decide) (by cases m <;> decide)
  have closing := backs_outside m "]);" (by simp)
  have code := (m.avoids_of_unreserved free.1).indentLines m.inked m.marked 4
  have dependencies : Text.Avoids m.text (", ".intercalate e.dependencies) :=
    m.barred.separated fun u member => m.avoids_of_unreserved (free.2 u member)
  have front := opening.1.append_of_ends code opening.2
  have behind := (middle.join front dependencies).append_of_begins closing.1 closing.2
  rw [e.unlines_block]
  exact m.places_call (by decide) blank.1 blank.2 behind

end Bindings

theorem flatMap_nil_right {α β : Type} (xs : List α) : (xs.flatMap fun _ => ([] : List β)) = [] :=
  List.flatMap_eq_nil_iff.mpr fun _ _ => rfl

namespace Screen

def openingLines (s : Screen) : List String :=
  [s.reactLine, nativeLine (s.imports.map NativePrimitive.name)]

def headLines (s : Screen) : List String :=
  ["", "export default function " ++ s.componentName ++ "() \x7b"]

def topLines (s : Screen) : List String :=
  s.openingLines ++ (if s.usesNavigation then [accessorImport] else []) ++
    s.headLines ++ if s.usesNavigation then [accessorDeclaration] else []

def bodyLines (s : Screen) : List String :=
  s.state.map StateBinding.declaration ++ (if s.declarations.isEmpty then [] else [""]) ++
    s.effects.flatMap (fun e => e.block ++ [""]) ++ ["  return ("] ++ s.markupLines ++ linesBelow

theorem blocks_eq (s : Screen) : blocks (s.declarations :: s.effects.map Effect.block) =
    s.declarations ++ (if s.declarations.isEmpty then [] else [""]) ++
      s.effects.flatMap fun e => e.block ++ [""] := by
  have filled : (s.effects.map Effect.block).filter (!·.isEmpty) = s.effects.map Effect.block := by
    rw [List.filter_eq_self, List.forall_mem_map]
    exact fun e _ => rfl
  rw [blocks, List.filter_cons, filled]
  cases none : s.declarations.isEmpty with
  | true =>
    rw [List.isEmpty_iff.mp none]
    simp [List.flatMap_map]
  | false => simp [List.flatMap_map]

theorem lines_eq_append (s : Screen) : s.lines = s.topLines ++ s.bodyLines := by
  have declared : s.declarations =
      (if s.usesNavigation then [accessorDeclaration] else []) ++
        s.state.map StateBinding.declaration := rfl
  rw [s.lines_eq, linesAbove, s.blocks_eq, bodyLines, s.importLines_eq, topLines, openingLines,
    headLines]
  generalize (if s.declarations.isEmpty then [] else [""]) = gap
  rw [declared]
  simp only [List.append_assoc, List.cons_append, List.nil_append, accessorImport]

/-- What stands around the calls in the module of a screen. -/
def calls (m : Call) (s : Screen) : List (String × String) :=
  s.state.flatMap (fun b => b.calls m) ++ s.effects.flatMap (fun e => e.calls m) ++
    s.walkRendered.flatMap fun c => c.calls m

theorem calls_state (s : Screen) : s.calls .state = s.state.map StateBinding.around := by
  simp [calls, StateBinding.calls, Effect.calls, Component.calls, flatMap_nil_right,
    List.map_eq_flatMap]

theorem calls_effect (s : Screen) : s.calls .effect = s.effects.map Effect.around := by
  simp [calls, StateBinding.calls, Effect.calls, Component.calls, flatMap_nil_right,
    List.map_eq_flatMap]

theorem calls_navigate (s : Screen) : s.calls .navigate = s.targets.map aroundRoute := by
  simp [calls, StateBinding.calls, Effect.calls, Component.calls, targets, flatMap_nil_right,
    List.filterMap_eq_flatMap_toList, List.map_flatMap]

theorem calls_accessor (s : Screen) : s.calls .accessor = [] := by
  simp [calls, StateBinding.calls, Effect.calls, Component.calls, flatMap_nil_right]

end Screen

section Modules

variable (m : Call) {s : Screen} (free : ∀ r ∈ reserved, s.Avoids r)
include free

theorem placed_markupLines :
    Placed m.text (unlines s.markupLines) (s.walkRendered.flatMap fun c => c.calls m) := by
  have known : ∀ l ∈ ["SafeAreaView", "style"] ++ ["ScrollView", "contentContainerStyle"],
      l ∈ frameTexts := by
    simp [frameTexts, NativePrimitive.all, NativePrimitive.name]
  have labels := List.forall_mem_append.mp fun l member => m.avoids_frameTexts l (known l member)
  have quiet (rule : StyleRule) : places m.text rule.reference = [] :=
    (places_eq_nil_iff m.marked).mpr (m.avoids_reference rule)
  have inner : Placed m.text (unlines (forestLines 4 (forestElements s.components)))
      (s.walkRendered.flatMap fun c => c.calls m) := by
    rw [s.walkRendered_eq]
    exact placed_forestElements m 4 fun d member u among r known =>
      (free r known).rendered member u among
  have content : Placed m.text
      (unlines (enclosed 3 "ScrollView" [.code "contentContainerStyle" StyleRule.content.reference]
        (forestLines 4 (forestElements s.components)))) _ :=
    placed_enclosed m.verbal labels.2 3 inner
  have container : Placed m.text (unlines s.markupLines) _ :=
    placed_enclosed m.verbal labels.1 2 content
  simpa [styleAttribute, quiet] using container

theorem placed_bindings : Placed m.text (unlines (s.state.map StateBinding.declaration))
    (s.state.flatMap fun b => b.calls m) := by
  rw [List.map_eq_flatMap]
  refine .unlines_flatMap m.inked m.marked fun b member => ?_
  rw [← places_declaration m fun u among r known => (free r known).state member u among]
  exact .self m.text b.declaration

theorem placed_effects : Placed m.text (unlines (s.effects.flatMap fun e => e.block ++ [""]))
    (s.effects.flatMap fun e => e.calls m) := by
  have empty : Placed m.text (unlines [""]) [] := m.placed_nil (avoids_empty m.marked)
  refine .unlines_flatMap m.inked m.marked fun e member => ?_
  have block := Placed.self m.text (unlines e.block)
  rw [places_block m fun u among r known => (free r known).effect member u among] at block
  simpa using block.unlines_append m.inked m.marked empty

theorem placed_bodyLines : Placed m.text (unlines s.bodyLines) (s.calls m) := by
  have gap : Placed m.text (unlines (if s.declarations.isEmpty then [] else [""])) [] := by
    split <;> exact m.placed_nil (avoids_empty m.marked)
  have opening := m.placed_lines
    (List.forall_mem_singleton.mpr (m.avoids_frameTexts "  return (" (by simp [frameTexts])))
  have below := m.placed_lines m.avoids_linesBelow
  have state := (placed_bindings m free).unlines_append m.inked m.marked gap
  have effects := state.unlines_append m.inked m.marked (placed_effects m free)
  have front := effects.unlines_append m.inked m.marked opening
  have markup := front.unlines_append m.inked m.marked (placed_markupLines m free)
  have whole := markup.unlines_append m.inked m.marked below
  rw [Screen.bodyLines, Screen.calls]
  simpa only [List.append_nil] using whole

omit free in
theorem avoids_nativeLine_call (s : Screen) :
    Text.Avoids m.text (Screen.nativeLine (s.imports.map NativePrimitive.name)) := by
  have opening : Text.Avoids m.text "import \x7b " := m.avoids_frameTexts _ (by simp [frameTexts])
  have closing : Text.Avoids m.text " \x7d from 'react-native';" :=
    m.avoids_frameTexts _ (by simp [frameTexts])
  have names : Text.Avoids m.text (", ".intercalate (s.imports.map NativePrimitive.name)) := by
    refine m.barred.separated fun u member => ?_
    obtain ⟨p, -, rfl⟩ := List.mem_map.mp member
    exact m.avoids_frameTexts _ (by cases p <;> simp [frameTexts, NativePrimitive.all])
  have front := opening.append_of_ends names (m.barred.spaced (by decide))
  exact front.append_of_begins closing (by cases m <;> decide)

theorem avoids_functionHead_call :
    Text.Avoids m.text ("export default function " ++ s.componentName ++ "() \x7b") := by
  have front : Text.Avoids m.text "export default function " :=
    m.avoids_frameTexts _ (by simp [frameTexts])
  have name : Text.Avoids m.text s.name :=
    m.avoids_of_unreserved fun r known => (free r known).name
  have suffix : Text.Avoids m.text "Screen() \x7b" := m.avoids_frameTexts _ (by simp [frameTexts])
  have apart : Unjoined m.text ("export default function " ++ s.name) "Screen() \x7b" :=
    .of_tails _ (by cases m <;> decide)
  have split : "export default function " ++ s.componentName ++ "() \x7b" =
      "export default function " ++ s.name ++ "Screen() \x7b" := by
    apply String.toList_injective
    simp [Screen.componentName]
  have named := front.append_of_ends name (m.barred.spaced (by decide))
  rw [split, ← Placed.nil_iff m.marked]
  exact (m.placed_nil named).append (m.placed_nil suffix) apart

omit free in
theorem avoids_openingLines (s : Screen) : ∀ l ∈ s.openingLines, Text.Avoids m.text l := by
  have react : Text.Avoids m.text s.reactLine :=
    s.avoids_reactLine (by cases m <;> decide +kernel)
  rw [Screen.openingLines, List.forall_mem_cons, List.forall_mem_singleton]
  exact ⟨react, avoids_nativeLine_call m s⟩

theorem avoids_headLines : ∀ l ∈ s.headLines, Text.Avoids m.text l := by
  rw [Screen.headLines, List.forall_mem_cons, List.forall_mem_singleton]
  exact ⟨avoids_empty m.marked, avoids_functionHead_call m free⟩

variable {m}

theorem avoids_topLines (called : m ≠ .accessor) : ∀ l ∈ s.topLines, Text.Avoids m.text l := by
  have other : Text.Avoids m.text accessorImport ∧ Text.Avoids m.text accessorDeclaration := by
    cases m with
    | accessor => exact absurd rfl called
    | _ => decide +kernel
  intro l member
  simp only [Screen.topLines, List.mem_append] at member
  rcases member with ((opening | imported) | head) | declared
  · exact avoids_openingLines m s l opening
  · split at imported
    · rw [List.mem_singleton.mp imported]
      exact other.1
    · cases imported
  · exact avoids_headLines m free l head
  · split at declared
    · rw [List.mem_singleton.mp declared]
      exact other.2
    · cases declared

theorem placed_moduleText (called : m ≠ .accessor) :
    Placed m.text s.moduleText (s.calls m) := by
  have top := m.placed_lines (avoids_topLines free called)
  rw [Screen.moduleText, s.lines_eq_append]
  exact top.unlines_append m.inked m.marked (placed_bodyLines m free)

theorem avoids_moduleText_iff (called : m ≠ .accessor) :
    Text.Avoids m.text s.moduleText ↔ s.calls m = [] :=
  (placed_moduleText free called).avoids_iff m.marked

end Modules

theorem Screen.rows_moduleText (s : Screen) : rows s.moduleText =
    rows (unlines s.openingLines) ++ (if s.usesNavigation then [accessorImport.toList] else []) ++
      rows (unlines s.headLines) ++
      (if s.usesNavigation then [accessorDeclaration.toList] else []) ++
      rows (unlines s.bodyLines) := by
  have imported : rows accessorImport = [accessorImport.toList] := rows_of_single (by decide)
  have declared : rows accessorDeclaration = [accessorDeclaration.toList] :=
    rows_of_single (by decide)
  have opening : s.openingLines ≠ [] := List.cons_ne_nil _ _
  have head : s.headLines ≠ [] := List.cons_ne_nil _ _
  have body : s.bodyLines ≠ [] := by simp [Screen.bodyLines]
  rw [rows_unlines opening, rows_unlines head, rows_unlines body, Screen.moduleText,
    rows_unlines (by simp [s.lines_eq_append, body]), s.lines_eq_append, Screen.topLines]
  cases s.usesNavigation <;> simp [imported, declared]

section Accessor

variable {s : Screen} (free : ∀ r ∈ reserved, s.Avoids r)
include free

theorem usesNavigation_iff :
    s.usesNavigation = true ↔ ¬ Text.Avoids "navigation.navigate(" s.moduleText := by
  have avoids : Text.Avoids "navigation.navigate(" s.moduleText ↔ s.calls .navigate = [] :=
    avoids_moduleText_iff (m := .navigate) free nofun
  rw [avoids, s.calls_navigate, List.map_eq_nil_iff, Screen.usesNavigation, Bool.not_eq_true',
    List.isEmpty_eq_false_iff]

theorem count_rows_moduleText {line : String}
    (held : Call.accessor.text.toList <:+: line.toList)
    (once : [accessorImport.toList, accessorDeclaration.toList].count line.toList = 1) :
    (rows s.moduleText).count line.toList =
      if Text.Avoids "navigation.navigate(" s.moduleText then 0 else 1 := by
  have quiet {ls : List String} (placed : Placed Call.accessor.text (unlines ls) []) :
      (rows (unlines ls)).count line.toList = 0 :=
    count_rows_eq_zero held ((Placed.nil_iff Call.accessor.marked).mp placed)
  have opening := quiet (Call.accessor.placed_lines (avoids_openingLines .accessor s))
  have head := quiet (Call.accessor.placed_lines (avoids_headLines .accessor free))
  have body := quiet (s.calls_accessor ▸ placed_bodyLines .accessor free)
  have both : [accessorImport.toList].count line.toList +
      [accessorDeclaration.toList].count line.toList = 1 := by
    rw [← List.count_append]
    exact once
  rw [s.rows_moduleText]
  simp only [List.count_append, opening, head, body]
  by_cases navigates : s.usesNavigation = true
  · have occurs := (usesNavigation_iff free).mp navigates
    rw [if_pos navigates, if_pos navigates, if_neg occurs]
    omega
  · have avoids := not_not.mp (fun h => navigates ((usesNavigation_iff free).mpr h))
    rw [if_neg navigates, if_neg navigates, if_pos avoids]
    rfl

theorem declared_before {p : String × String}
    (member : p ∈ places "navigation.navigate(" s.moduleText) :
    accessorDeclaration.toList ∈ rows p.1 := by
  have marked : "navigation.navigate(" ≠ "" := Call.navigate.marked
  have navigates : s.usesNavigation = true := by
    rw [usesNavigation_iff free, ← places_eq_nil_iff marked]
    exact List.ne_nil_of_mem member
  have top : s.topLines ≠ [] := List.cons_ne_nil _ _
  have body : s.bodyLines ≠ [] := by simp [Screen.bodyLines]
  have split : s.moduleText = unlines s.topLines ++ "\n" ++ unlines s.bodyLines := by
    rw [Screen.moduleText, s.lines_eq_append, unlines_append _ _ top body]
  have feed : Glue "navigation.navigate(" "\n" := by decide
  have above : places "navigation.navigate(" (unlines s.topLines ++ "\n") = [] := by
    rw [places_eq_nil_iff marked, ← Placed.nil_iff marked]
    exact (Call.navigate.placed_lines (avoids_topLines free (by decide))).append_glue marked feed
  -- All calls stand below, so what is in front of one begins with everything above.
  rw [split, places_append (.of_ends (endsOutside_append _ feed.ends) _), above] at member
  obtain ⟨q, -, rfl⟩ := List.mem_map.mp
    (List.mem_append.mp member |>.resolve_left List.not_mem_nil)
  have chars : (unlines s.topLines ++ "\n" ++ q.1).toList =
      (unlines s.topLines).toList ++ '\n' :: q.1.toList := by
    simp
  have inside : accessorDeclaration.toList ∈ rows (unlines s.topLines) := by
    rw [rows_unlines top, List.mem_flatMap]
    refine ⟨accessorDeclaration, by simp [Screen.topLines, navigates], ?_⟩
    rw [rows_of_single (by decide)]
    exact List.mem_singleton_self _
  rw [rows, chars, splitWhere_append_cons (by decide)]
  exact List.mem_append_left _ inside

end Accessor

/-- The hooks of a module are imported where they are called: once for every binding and every
effect of the screen, in their order. What gives a way to other screens is imported and declared
where it is used, in a row each, and above every use; the uses are those of the screen's buttons. -/
structure Screen.HooksMatch (s : Screen) (names : List String) : Prop where
  line : (Text.lines s.moduleText)[0]? = some (reactImport names)
  known : names.Sublist ["useState", "useEffect"]
  state : "useState" ∈ names ↔ ¬ Text.Avoids "useState(" s.moduleText
  effect : "useEffect" ∈ names ↔ ¬ Text.Avoids "useEffect(" s.moduleText
  bindings : Placed "useState(" s.moduleText (s.state.map StateBinding.around)
  effects : Placed "useEffect(" s.moduleText (s.effects.map Effect.around)
  imported : (rows s.moduleText).count accessorImport.toList =
    if Text.Avoids "navigation.navigate(" s.moduleText then 0 else 1
  declared : (rows s.moduleText).count accessorDeclaration.toList =
    if Text.Avoids "navigation.navigate(" s.moduleText then 0 else 1
  routes : Placed "navigation.navigate(" s.moduleText (s.targets.map aroundRoute)
  before : ∀ p ∈ places "navigation.navigate(" s.moduleText,
    accessorDeclaration.toList ∈ rows p.1

theorem Screen.first_line (s : Screen) :
    (Text.lines s.moduleText)[0]? = some (reactImport s.hooks) := by
  have split : s.lines = s.reactLine :: (nativeLine (s.imports.map NativePrimitive.name) ::
      (s.lines.drop 2)) := rfl
  rw [moduleText, split, lines_unlines_cons s.whole_reactLine (List.cons_ne_nil _ _)]
  rfl

theorem Screen.mem_hooks_iff (s : Screen) :
    ("useState" ∈ s.hooks ↔ s.state ≠ []) ∧ ("useEffect" ∈ s.hooks ↔ s.effects ≠ []) := by
  rw [hooks, hasState, hasEffects]
  cases s.state <;> cases s.effects <;> simp

theorem Screen.hooksMatch_moduleText (s : Screen) (free : ∀ r ∈ reserved, s.Avoids r) :
    s.HooksMatch s.hooks where
  line := s.first_line
  known := by
    rw [hooks]
    cases s.hasState <;> cases s.hasEffects <;> decide
  state := by
    have avoids : Text.Avoids "useState(" s.moduleText ↔ s.calls .state = [] :=
      avoids_moduleText_iff (m := .state) free nofun
    rw [avoids, s.calls_state, List.map_eq_nil_iff]
    exact s.mem_hooks_iff.1
  effect := by
    have avoids : Text.Avoids "useEffect(" s.moduleText ↔ s.calls .effect = [] :=
      avoids_moduleText_iff (m := .effect) free nofun
    rw [avoids, s.calls_effect, List.map_eq_nil_iff]
    exact s.mem_hooks_iff.2
  bindings := s.calls_state ▸ placed_moduleText free nofun
  effects := s.calls_effect ▸ placed_moduleText free nofun
  imported := count_rows_moduleText free (by decide) (by decide)
  declared := count_rows_moduleText free (by decide) (by decide)
  routes := s.calls_navigate ▸ placed_moduleText free nofun
  before _ member := declared_before free member

def wayfindingScreen : Screen where
  name := "Navigation"
  path := "/"
  components :=
    [{ kind := .card,
        children :=
          [{ kind := .button, content := some (.text "Navigate"), navigateTo := some "User's\nHome",
              onPress := some "never()" },
            { kind := .touchableOpacity, navigateTo := some "Elsewhere" },
            { kind := .title, children := [{ kind := .button, navigateTo := some "Hidden" }] }] },
      { kind := .button, navigateTo := some "Shop", style := some (.array [.string "\t"]) }]
  state := [{ name := "use", initialValue := .string "State(" }, { name := "navigation" }]
  effects := [{ dependencies := ["use"], code := "log(use);\n\nsave();" }]

theorem Screen.hooksMatch_wayfindingScreen :
    (∀ r ∈ reserved, wayfindingScreen.Avoids r) ∧
      wayfindingScreen.targets = ["User's\nHome", "Shop"] ∧
      wayfindingScreen.HooksMatch ["useState", "useEffect"] := by
  have free : ∀ r ∈ reserved, wayfindingScreen.Avoids r := by
    decide +kernel
  have targets : wayfindingScreen.targets = ["User's\nHome", "Shop"] := by
    decide
  have hooks : wayfindingScreen.hooks = ["useState", "useEffect"] := by
    decide
  exact ⟨free, targets, hooks ▸ wayfindingScreen.hooksMatch_moduleText free⟩

/-- A screen with a style that holds the end of a call behind a line feed. -/
def strayScreen : Screen where
  name := "Home"
  path := "/"
  components := [{ kind := .view, style := some (.object [("note", .string escapedCall)]) }]

/-- The names of hooks and the front of a call are not all that strings can bring with them: written
as an escape, a line feed completes a call that nothing is imported or declared for. -/
theorem Screen.undeclared_strayScreen :
    (∀ r ∈ ["useState", "useEffect", "useNavigation", "navigation."], strayScreen.Avoids r) ∧
      ¬ Text.Avoids "navigation.navigate(" strayScreen.moduleText ∧
      (rows strayScreen.moduleText).count accessorImport.toList = 0 ∧
      (rows strayScreen.moduleText).count accessorDeclaration.toList = 0 := by
  have free : ∀ r ∈ ["useState", "useEffect", "useNavigation", "navigation."],
      strayScreen.Avoids r := by
    decide +kernel
  have markup : "navigation.navigate(".toList <:+:
      (unlines (forestLines 4 (forestElements strayScreen.components))).toList := by
    decide +kernel
  have occurs := markup.trans (infix_unlines strayScreen.componentLines_infix)
  have above : ∀ l ∈ strayScreen.linesAbove ++ strayScreen.markupLines,
      Text.Avoids "useNavigation" l := by
    decide +kernel
  have absent : Text.Avoids "useNavigation" strayScreen.moduleText := by
    have placed := Call.accessor.placed_lines
      (List.forall_mem_append.mpr ⟨above, Call.accessor.avoids_linesBelow⟩)
    rw [← strayScreen.lines_eq] at placed
    exact (Placed.nil_iff Call.accessor.marked).mp placed
  exact ⟨free, fun avoids => avoids occurs, count_rows_eq_zero (by decide) absent,
    count_rows_eq_zero (by decide) absent⟩

end AppScaffold
