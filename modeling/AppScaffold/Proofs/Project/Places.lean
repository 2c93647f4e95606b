import AppScaffold.Proofs.Project.Paths
import AppScaffold.Proofs.Project.Shape
import AppScaffold.Proofs.Screen.Imports

/-! The places of a project's files. A path is a text, but the place that it leads to depends on its
names only; two screens with different names may so share one place, but never the same text. -/

namespace AppScaffold

theorem eq_of_append_cons {α : Type} {x : α} {as bs cs ds : List α} (first : x ∉ as)
    (second : x ∉ cs) (same : as ++ x :: bs = cs ++ x :: ds) : bs = ds := by
  rcases List.append_eq_append_iff.mp same with ⟨more, rfl, rest⟩ | ⟨more, rfl, rest⟩
  · cases more with
    | nil => exact (List.cons.inj rest).2
    | cons y more =>
      rw [(List.cons.inj rest).1] at second
      simp at second
  · cases more with
    | nil => exact (List.cons.inj rest).2.symm
    | cons y more =>
      rw [(List.cons.inj rest).1] at first
      simp at first

open AppScaffold.Path

theorem names_screenPath (name : String) :
    names (screenPath name) = "screens" :: names (name ++ "Screen.js") := by
  have split : screenPath name = "screens" ++ "/" ++ (name ++ "Screen.js") := by
    rw [screenPath, String.append_assoc, String.append_assoc, ← String.append_assoc]
    rfl
  rw [split, names_append_slash]
  rfl

theorem isIdle_eq_false_of_mem {piece : String} (letter : 'S' ∈ piece.toList) :
    isIdle piece = false := by
  rw [isIdle_eq_false_iff]
  constructor
  · rintro rfl
    exact absurd letter (by decide)
  · rintro rfl
    exact absurd letter (by decide)

theorem isIdle_append_ending (s : String) : isIdle (s ++ "Screen.js") = false :=
  isIdle_eq_false_of_mem (by simp)

theorem names_screenPath_of_whole {name : String} (whole : '/' ∉ name.toList) :
    names (screenPath name) = ["screens", name ++ "Screen.js"] := by
  rw [names_screenPath, names_of_whole (by simp [whole]) (isIdle_append_ending name)]

/-- Only names with a slash can share a place. -/
theorem apart_of_whole {spec : AppSpecification}
    (whole : ∀ s ∈ spec.screens, '/' ∉ s.name.toList) :
    ∀ a ∈ spec.screens, ∀ b ∈ spec.screens,
      names a.filePath = names b.filePath → a.name = b.name := by
  intro a screenA b screenB same
  have places : names (screenPath a.name) = names (screenPath b.name) := same
  rw [names_screenPath_of_whole (whole a screenA), names_screenPath_of_whole (whole b screenB)]
    at places
  simpa using places

theorem mem_first_piece {path first : String} {rest : List String} {c : Char}
    (start : path.toList.head? = some c) (inner : c ≠ '/') (split : pieces path = first :: rest) :
    c ∈ first.toList := by
  obtain ⟨cs, chars⟩ := List.head?_eq_some_iff.mp start
  rw [pieces, chars, Text.splitWhere, if_neg (by simpa using inner)] at split
  split at split
  all_goals
    rw [← (List.cons.inj split).1]
    simp

theorem names_ne_of_append {a x : String} (start : x.toList.head? = some 'S') :
    names (a ++ (x ++ "Screen.js")) ≠ names (a ++ "Screen.js") := by
  intro same
  have one : pieces "Screen.js" = ["Screen.js"] := by decide
  obtain ⟨front, last, first, rest, ofA, ofMore, whole⟩ := pieces_append_text a (x ++ "Screen.js")
  obtain ⟨front', last', first', rest', ofA', single, short⟩ := pieces_append_text a "Screen.js"
  obtain ⟨frontX, lastX, first'', rest'', ofX, single', more⟩ := pieces_append_text x "Screen.js"
  obtain ⟨rfl, rfl⟩ := List.cons.inj (one.symm.trans single)
  obtain ⟨rfl, rfl⟩ := List.cons.inj (one.symm.trans single')
  obtain ⟨rfl, lasts⟩ := List.append_inj' (ofA.symm.trans ofA') rfl
  obtain rfl := List.singleton_inj.mp lasts
  rw [names, names, whole, short, List.filter_append, List.filter_append,
    List.append_cancel_left_eq] at same
  rw [ofMore] at more
  cases frontX with
  | nil =>
    obtain ⟨rfl, rfl⟩ := List.cons.inj more
    have text : x = lastX := by
      rw [← intercalate_pieces x, ofX]
      rfl
    have texts : last ++ (x ++ "Screen.js") = last ++ "Screen.js" := by
      simpa [← text, ← String.append_assoc, isIdle_append_ending] using same
    rw [String.append_right_inj, String.append_eq_right_iff] at texts
    rw [texts] at start
    cases start
  | cons f fs =>
    obtain ⟨rfl, rfl⟩ := List.cons.inj more
    have letter : 'S' ∈ first.toList := mem_first_piece start (by decide) ofX
    have kept : isIdle (last ++ first) = false := isIdle_eq_false_of_mem (by simp [letter])
    simp [kept, isIdle_append_ending] at same

namespace Screen

open Text

theorem lineFeed_not_mem_importLines (s : Screen) : ∀ l ∈ s.importLines, '\n' ∉ l.toList := by
  have react : Text.Avoids "\n" s.reactLine := s.avoids_reactLine (by decide +kernel)
  have navigation :
      '\n' ∉ "import \x7b useNavigation \x7d from '@react-navigation/native';".toList := by
    decide +kernel
  rw [importLines_eq, List.forall_mem_cons, List.forall_mem_cons]
  refine ⟨fun member => react (singleton_infix_of_mem member),
    fun member => s.avoids_lineFeed_nativeLine (singleton_infix_of_mem member), fun l member => ?_⟩
  split at member
  · rw [List.mem_singleton.mp member]
    exact navigation
  · cases member

theorem exists_lines_eq (s : Screen) : ∃ more, more ≠ [] ∧ s.lines = s.importLines ++
    "" :: ("export default function " ++ s.componentName ++ "() \x7b") :: more := by
  refine ⟨blocks (s.declarations :: s.effects.map Effect.block) ++ ["  return ("] ++
    s.markupLines ++ ["  );", "\x7d"] ++ [""] ++ stylesheetLines StyleRule.all ++ [""],
    List.append_ne_nil_of_right_ne_nil _ (List.cons_ne_nil _ _), ?_⟩
  simp only [lines, functionLines, List.append_assoc, List.cons_append, List.nil_append]

theorem splitWhere_moduleText (s : Screen) : ∃ rest,
    splitWhere (· == '\n') s.moduleText.toList =
      s.importLines.map String.toList ++ [] :: splitWhere (· == '\n')
        ("export default function " ++ (s.name ++ ("Screen" ++ rest))).toList := by
  obtain ⟨more, some, split⟩ := s.exists_lines_eq
  have imports : s.importLines ≠ [] := by simp [importLines_eq]
  refine ⟨"() \x7b" ++ ("\n" ++ unlines more), ?_⟩
  rw [← splitWhere_unlines_append imports s.lineFeed_not_mem_importLines, moduleText, split,
    unlines_append _ _ imports (List.cons_ne_nil _ _), unlines_cons "" (List.cons_ne_nil _ _),
    unlines_cons _ some]
  simp only [componentName, String.append_assoc]

theorem nil_not_mem_importLines (s : Screen) : [] ∉ s.importLines.map String.toList := by
  intro member
  obtain ⟨l, among, empty⟩ := List.mem_map.mp member
  have some : ∀ l ∈ s.importLines, l.toList ≠ [] := by
    rw [importLines_eq, List.forall_mem_cons, List.forall_mem_cons]
    refine ⟨by simp [reactLine], by simp [nativeLine], fun l member => ?_⟩
    split at member
    · simp [List.mem_singleton.mp member]
    · cases member
  exact some l among empty

theorem names_of_moduleText {a b : Screen} (same : a.moduleText = b.moduleText) :
    ∃ restA restB, a.name ++ ("Screen" ++ restA) = b.name ++ ("Screen" ++ restB) := by
  obtain ⟨restA, splitA⟩ := a.splitWhere_moduleText
  obtain ⟨restB, splitB⟩ := b.splitWhere_moduleText
  have functions := eq_of_append_cons a.nil_not_mem_importLines b.nil_not_mem_importLines
    (splitA.symm.trans (same ▸ splitB))
  refine ⟨restA, restB, ?_⟩
  have texts := congrArg (fun pieces => unlines (pieces.map String.ofList)) functions
  simp only [unlines_splitWhere] at texts
  exact (String.append_right_inj _).mp texts

theorem eq_of_append {a b more rest : List Char}
    (longer : b = a ++ more) (begins : more <+: "Screen".toList ++ rest)
    (place : names (String.ofList a ++ "Screen.js") = names (String.ofList b ++ "Screen.js")) :
    a = b := by
  cases more with
  | nil => rw [longer, List.append_nil]
  | cons c more =>
    have letter : c = 'S' := (List.cons_prefix_cons.mp begins).1
    have start : (String.ofList (c :: more)).toList.head? = some 'S' := by simp [letter]
    rw [longer, String.ofList_append, String.append_assoc] at place
    exact absurd place.symm (names_ne_of_append start)

theorem name_eq_of_moduleText {a b : Screen} (same : a.moduleText = b.moduleText)
    (place : names a.filePath = names b.filePath) : a.name = b.name := by
  obtain ⟨restA, restB, texts⟩ := names_of_moduleText same
  have inside : names (a.name ++ "Screen.js") = names (b.name ++ "Screen.js") := by
    have both : names (screenPath a.name) = names (screenPath b.name) := place
    rw [names_screenPath, names_screenPath] at both
    exact (List.cons.inj both).2
  rw [← String.ofList_toList (s := a.name), ← String.ofList_toList (s := b.name)] at inside
  rw [← String.toList_inj, String.toList_append, String.toList_append, String.toList_append,
    String.toList_append] at texts
  rw [← String.toList_inj]
  rcases List.append_eq_append_iff.mp texts with ⟨more, longer, rest⟩ | ⟨more, longer, rest⟩
  · exact eq_of_append longer ⟨_, rest.symm⟩ inside
  · exact (eq_of_append longer ⟨_, rest.symm⟩ inside.symm).symm

end Screen

theorem Project.mem_files_iff {p : Project} {path content : String} :
    (path, content) ∈ p.files ↔ p.get? path = some content := by
  rw [get?, List.lookup_eq_some_iff]
  constructor
  · intro member
    obtain ⟨front, back, split⟩ := List.append_of_mem member
    refine ⟨front, back, split, fun file earlier => ?_⟩
    have nodup := p.nodup
    rw [split, List.map_append, List.nodup_append] at nodup
    have other : file.1 ≠ path := nodup.2.2 _ (List.mem_map_of_mem earlier) _ List.mem_cons_self
    simpa using other.symm
  · rintro ⟨front, back, split, -⟩
    simp [split]

namespace GeneratorOptions

variable {options : GeneratorOptions} {spec : AppSpecification}

theorem fixedPaths_apart : ∀ path ∈ "README.md" :: fixedPaths,
    names path = pieces path ∧ (names path).head? ∉ [none, some "screens"] ∧
      ∀ other ∈ "README.md" :: fixedPaths, names path <+: names other → path = other := by
  decide +kernel

theorem mem_paths_cases {path : String} (member : path ∈ (options.generate spec).paths) :
    (∃ s ∈ spec.screens, path = screenPath s.name) ∨ path ∈ fixedPaths :=
  mem_paths_generate member

theorem eq_of_names {path other : String} (member : path ∈ (options.generate spec).paths)
    (among : other ∈ (options.generate spec).paths) (same : names path = names other)
    (apart : ∀ a ∈ spec.screens, ∀ b ∈ spec.screens,
      names a.filePath = names b.filePath → a.name = b.name) : path = other := by
  rcases mem_paths_cases member with ⟨a, screenA, rfl⟩ | fixed
  · rcases mem_paths_cases among with ⟨b, screenB, rfl⟩ | fixed
    · rw [apart a screenA b screenB same]
    · obtain ⟨-, outside, -⟩ := fixedPaths_apart other (List.mem_cons_of_mem _ fixed)
      simp [← same, names_screenPath] at outside
  · obtain ⟨-, outside, alone⟩ := fixedPaths_apart path (List.mem_cons_of_mem _ fixed)
    rcases mem_paths_cases among with ⟨b, screenB, rfl⟩ | fixed'
    · simp [same, names_screenPath] at outside
    · exact alone other (List.mem_cons_of_mem _ fixed') (same ▸ List.prefix_refl _)

theorem exists_text_of_mem_screens (options : GeneratorOptions) {a : Screen}
    (screen : a ∈ spec.screens) :
    ∃ b ∈ spec.screens, b.name = a.name ∧
      (screenPath a.name, b.moduleText) ∈ (options.generate spec).files := by
  have some : (spec.lastScreen? a.name).isSome := by
    rw [AppSpecification.lastScreen?, List.find?_isSome]
    exact ⟨a, List.mem_reverse.mpr screen, beq_self_eq_true _⟩
  obtain ⟨b, last⟩ := Option.isSome_iff_exists.mp some
  have found : spec.screens.reverse.find? (·.name == a.name) = .some b := last
  have named := List.find?_some found
  refine ⟨b, List.mem_reverse.mp (List.mem_of_find?_eq_some found), eq_of_beq named, ?_⟩
  rw [Project.mem_files_iff, get?_screenPath, last]
  rfl

/-- What stands at each place of a project is the same for all its files there if no two screens
with different names share a place, and only then. -/
theorem contents_agree_iff (options : GeneratorOptions) (spec : AppSpecification) :
    (∀ f ∈ (options.generate spec).files, ∀ g ∈ (options.generate spec).files,
        names f.1 = names g.1 → f.2 = g.2) ↔
      ∀ a ∈ spec.screens, ∀ b ∈ spec.screens,
        names a.filePath = names b.filePath → a.name = b.name := by
  constructor
  · intro agree a screenA b screenB place
    obtain ⟨a', -, nameA, fileA⟩ := exists_text_of_mem_screens options screenA
    obtain ⟨b', -, nameB, fileB⟩ := exists_text_of_mem_screens options screenB
    have texts : a'.moduleText = b'.moduleText := agree _ fileA _ fileB place
    rw [← nameA, ← nameB]
    apply Screen.name_eq_of_moduleText texts
    rw [Screen.filePath, Screen.filePath, Screen.componentName, Screen.componentName, nameA, nameB]
    exact place
  · rintro apart ⟨path, content⟩ member ⟨other, content'⟩ among same
    have one : path = other :=
      eq_of_names (List.mem_map_of_mem member) (List.mem_map_of_mem among) same apart
    rw [Project.mem_files_iff] at member among
    rw [one, among] at member
    exact (Option.some.inj member).symm

def outputFiles (options : GeneratorOptions) (spec : AppSpecification) : List (String × String) :=
  (options.generate spec).files ++ [("README.md", spec.readmeText)]

theorem mem_outputFiles_cases {file : String × String}
    (member : file ∈ options.outputFiles spec) :
    (∃ s ∈ spec.screens, file.1 = screenPath s.name) ∨ file.1 ∈ "README.md" :: fixedPaths := by
  rcases List.mem_append.mp member with inside | last
  · exact (mem_paths_cases (List.mem_map_of_mem inside)).imp_right (List.mem_cons_of_mem _)
  · rw [List.mem_singleton.mp last]
    exact .inr List.mem_cons_self

theorem exists_outputFiles_eq (options : GeneratorOptions) (spec : AppSpecification) :
    ∃ content rest, options.outputFiles spec = ("App.js", content) :: rest := by
  have paths : (options.generate spec).files.map Prod.fst = _ := options.paths_generate spec
  obtain ⟨⟨path, content⟩, rest, files, rfl, -⟩ := List.map_eq_cons_iff.mp paths
  exact ⟨content, _, by rw [outputFiles, files, List.cons_append]⟩

section WellFormed

variable (wellFormed : spec.WellFormed)

include wellFormed

theorem names_screenPath_of_mem {s : Screen} (screen : s ∈ spec.screens) :
    names (screenPath s.name) = ["screens", s.name ++ "Screen.js"] :=
  names_screenPath_of_whole
    (not_mem_of_isIdentifier (wellFormed.screens s screen).name_identifier (by decide))

/-- The paths of a well-formed specification are names and nothing else. -/
theorem names_eq_pieces {file : String × String} (member : file ∈ options.outputFiles spec) :
    names file.1 = pieces file.1 := by
  rcases mem_outputFiles_cases member with ⟨s, screen, same⟩ | fixed
  · have split : pieces (screenPath s.name) = ["screens", s.name ++ "Screen" ++ ".js"] :=
      Screen.pieces_filePath (wellFormed.screens s screen).name_identifier
    rw [same, names_screenPath_of_mem wellFormed screen, split, String.append_assoc]
    rfl
  · exact (fixedPaths_apart file.1 fixed).1

theorem leaves_of_mem_outputFiles {file : String × String}
    (member : file ∈ options.outputFiles spec) : leaves file.1 = false := by
  rcases List.mem_append.mp member with inside | last
  · exact leaves_of_mem_paths wellFormed (List.mem_map_of_mem inside)
  · have readme : leaves "README.md" = false := by decide +kernel
    rw [List.mem_singleton.mp last]
    exact readme

theorem eq_of_names_prefix {file other : String × String}
    (member : file ∈ options.outputFiles spec) (among : other ∈ options.outputFiles spec)
    (within : names file.1 <+: names other.1) : file.1 = other.1 := by
  rcases mem_outputFiles_cases member with ⟨a, screenA, same⟩ | fixed
  · rw [same, names_screenPath_of_mem wellFormed screenA] at within
    rcases mem_outputFiles_cases among with ⟨b, screenB, same'⟩ | fixed'
    · rw [same', names_screenPath_of_mem wellFormed screenB] at within
      rw [same, same']
      simpa [screenPath] using within
    · obtain ⟨-, outside, -⟩ := fixedPaths_apart other.1 fixed'
      obtain ⟨rest, whole⟩ := within
      simp [← whole] at outside
  · obtain ⟨-, outside, alone⟩ := fixedPaths_apart file.1 fixed
    rcases mem_outputFiles_cases among with ⟨b, screenB, same'⟩ | fixed'
    · rw [same', names_screenPath_of_mem wellFormed screenB] at within
      cases first : names file.1 with
      | nil => simp [first] at outside
      | cons n ns =>
        rw [first, List.cons_prefix_cons] at within
        simp [first, within.1] at outside
    · exact alone other.1 fixed' within

end WellFormed

theorem nodup_outputFiles (options : GeneratorOptions) (spec : AppSpecification) :
    ((options.outputFiles spec).map Prod.fst).Nodup := by
  have apart : "README.md" ∉ (options.generate spec).paths := by
    intro member
    rcases mem_paths_cases member with ⟨s, -, same⟩ | fixed
    · obtain ⟨-, outside, -⟩ := fixedPaths_apart "README.md" List.mem_cons_self
      rw [same, names_screenPath] at outside
      simp at outside
    · exact absurd fixed (by decide)
  rw [outputFiles, List.map_append, List.map_singleton, List.nodup_append]
  refine ⟨(options.generate spec).nodup, List.nodup_singleton _, ?_⟩
  rintro path member other last rfl
  rw [List.mem_singleton.mp last] at member
  exact apart member

end GeneratorOptions

end AppScaffold
