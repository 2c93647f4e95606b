import AppScaffold.Proofs.Command.Generation

/-! What a generation leaves on the disk. Whatever the specification, it changes files only below
the directory that it writes to, and where it is refused the disk stays as it was. -/

namespace AppScaffold.Session

open Disk

/-- The specification cannot be read, validation keeps it out, or a path of its project has a part
that is no name. -/
inductive Refused (s : Session) (source : String) (options : GeneratorOptions) (force : Bool) : Prop
  | unread {e : CommandError} (fails : s.load source = .error e)
  | invalid {spec : AppSpecification} (loaded : s.load source = .ok spec)
      (invalid : spec.validate.isValid = false) (unforced : force = false)
  | outside {spec : AppSpecification} {path : String} {part : Path.Part}
      (loaded : s.load source = .ok spec) (member : path ∈ (options.generate spec).paths)
      (among : part ∈ Path.parts path) (unnamed : part.isName = false)

theorem exec_gate_cases (s : Session) (report : Report) (force : Bool) :
    (∃ t, exec (machine.gate report force) s = (.ok (), t) ∧ t.disk = s.disk) ∨
      (report.isValid = false ∧ force = false) := by
  cases valid : report.isValid with
  | true => exact .inl ⟨_, exec_gate_of_isValid s valid force, rfl⟩
  | false =>
    cases force with
    | true => exact .inl (exec_gate_forced s)
    | false => exact .inr ⟨rfl, rfl⟩

theorem exec_output_of_leaves {spec : AppSpecification} {options : GeneratorOptions} {path : String}
    (leaves : (options.generate spec).paths.find? Path.leaves = some path) (out : String)
    (s : Session) :
    exec (output out options spec) s =
      (.error (.outside path), { s with log := s.log ++ options.log spec }) := by
  rw [output, exec_bind_of_ok (exec_log _ s), Machine.writeProject, leaves]
  exact exec_bind_of_error (exec_throw _ _) _

section Generation

variable {s : Session} {source : String} {options : GeneratorOptions} {force : Bool}

theorem run_generate_of_refused (refused : Refused s source options force) (out : String) :
    ∃ e t, s.run (.generate source out options force) = (.error e, t) ∧ t.disk = s.disk := by
  cases refused with
  | unread fails => exact ⟨_, s, run_generate_of_error fails out options force, rfl⟩
  | invalid loaded invalid unforced =>
    subst unforced
    exact ⟨_, _, run_generate_of_invalid loaded invalid out options, rfl⟩
  | outside loaded member among unnamed =>
    rename_i spec path part
    rcases exec_gate_cases s spec.validate force with ⟨t, through, same⟩ | ⟨invalid, rfl⟩
    · have leaves : Path.leaves path = true := Path.leaves_iff.mpr ⟨part, among, unnamed⟩
      obtain ⟨first, found⟩ := Option.isSome_iff_exists.mp
        (List.find?_isSome.mpr ⟨path, member, leaves⟩)
      rw [run_generate_of_load loaded, exec_bind_of_ok through, exec_output_of_leaves found]
      exact ⟨_, _, rfl, same⟩
    · exact ⟨_, _, run_generate_of_invalid loaded invalid out options, rfl⟩

theorem run_generate_of_not_refused (accepted : ¬ Refused s source options force) (out : String) :
    ∃ (t : Session) (part : Run (StateM Session) Unit), t.disk = s.disk ∧ WritesBelow out part ∧
      s.run (.generate source out options force) = exec part t := by
  cases loaded : s.load source with
  | error e => exact absurd (.unread loaded) accepted
  | ok spec =>
    have stay : ∀ path ∈ (options.generate spec).paths, Path.leaves path = false := by
      intro path member
      rw [← Bool.not_eq_true, Path.leaves_iff]
      rintro ⟨part, among, unnamed⟩
      exact accepted (.outside loaded member among unnamed)
    rcases exec_gate_cases s spec.validate force with ⟨t, through, same⟩ | ⟨invalid, unforced⟩
    · refine ⟨t, output out options spec, same, writesBelow_output stay, ?_⟩
      rw [run_generate_of_load loaded, exec_bind_of_ok through]
    · exact absurd (.invalid loaded invalid unforced) accepted

end Generation

/-- A generation changes files only below its directory. One that is refused fails and leaves the
disk as it was; any other fails at most for the disk. -/
theorem generate_contained (s : Session) (source out : String) (options : GeneratorOptions)
    (force : Bool) :
    ChangesOnly (Below (s.disk.destination out)) s.disk
        (s.run (.generate source out options force)).2.disk ∧
      (Refused s source options force →
        (∃ e, (s.run (.generate source out options force)).1 = .error e) ∧
          (s.run (.generate source out options force)).2.disk = s.disk) ∧
      (¬ Refused s source options force →
        ∀ e, (s.run (.generate source out options force)).1 = .error e → e.IsWriting) := by
  by_cases refused : Refused s source options force
  · obtain ⟨e, t, result, same⟩ := run_generate_of_refused refused out
    rw [result]
    refine ⟨?_, fun _ => ⟨⟨e, rfl⟩, same⟩, fun accepted => absurd refused accepted⟩
    rw [same]
    exact .refl _ _
  · obtain ⟨t, part, same, writes, result⟩ := run_generate_of_not_refused refused out
    rw [result]
    refine ⟨?_, fun other => absurd other refused, fun _ => writes.failure t⟩
    rw [← same]
    exact writes.files t

def screenText (name : String) : String :=
  "\x7b\"appName\":\"Tasks\",\"dependencies\":[],\"screens\":[\x7b\"name\":\"" ++ name ++
    "\",\"path\":\"/\",\"components\":[]\x7d]\x7d"

def climbingSession : Session where
  disk := ⟨.directory [("app.json", .file (screenText "Home")),
    ("climbing.json", .file (screenText "../../Home"))], []⟩

theorem generate_contained_climbingSession :
    Refused climbingSession "climbing.json" {} true ∧
      (∃ e, (climbingSession.run (.generate "climbing.json" "out" {} true)).1 = .error e) ∧
      (climbingSession.run (.generate "climbing.json" "out" {} true)).2.disk =
        climbingSession.disk ∧
      ((climbingSession.run (.generate "app.json" "out" {} true)).2.disk.object?
        ["out", "App.js"]).isSome = true ∧
      ChangesOnly (Below ["out"]) climbingSession.disk
        (climbingSession.run (.generate "app.json" "out" {} true)).2.disk := by
  have paths : (climbingSession.load "climbing.json").toOption.map
      (fun spec => (GeneratorOptions.generate {} spec).paths) =
        some ["App.js", "screens/../../HomeScreen.js", "app.json", "babel.config.js",
          "package.json"] := by
    decide +kernel
  obtain ⟨spec, loaded, same⟩ := Option.map_eq_some_iff.mp paths
  have member : "screens/../../HomeScreen.js" ∈ (GeneratorOptions.generate {} spec).paths := by
    simp [same]
  have parent : Path.Part.parent ∈ Path.parts "screens/../../HomeScreen.js" := by
    decide +kernel
  have refused : Refused climbingSession "climbing.json" {} true :=
    .outside (toOption_eq_some_iff.mp loaded) member parent rfl
  obtain ⟨-, stops, -⟩ := generate_contained climbingSession "climbing.json" "out" {} true
  obtain ⟨below, -, -⟩ := generate_contained climbingSession "app.json" "out" {} true
  have out : climbingSession.disk.destination "out" = ["out"] := by
    decide +kernel
  rw [out] at below
  exact ⟨refused, (stops refused).1, (stops refused).2, by decide +kernel, below⟩

end AppScaffold.Session
