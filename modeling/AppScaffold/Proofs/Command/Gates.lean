import AppScaffold.Proofs.Command.Generation
import AppScaffold.Proofs.Spec.Report

namespace AppScaffold

/-- The gates let a specification through if validation accepts it, and otherwise they all stop it
with the errors of its report. -/
structure GatesAgree (text : String) (spec : AppSpecification) : Prop where
  report : spec.validate.check =
    if spec.validate.isValid then .ok () else .error (.invalid spec.validate.errors)
  generation : generateText text =
    if spec.validate.isValid then .ok (GeneratorOptions.generate {} spec)
    else .error (.spec (.invalid spec.validate.errors))
  checking : ∀ (s : Session) source, s.text source = .ok text →
    (s.run (.check source)).1 =
      if spec.validate.isValid then .ok () else .error (.issues spec.validate.errors.length)
  accepting : spec.validate.isValid = true → ∀ (s : Session) source out options,
    s.text source = .ok text →
    s.run (.generate source out options false) = s.run (.generate source out options true) ∧
      ∀ e, (s.run (.generate source out options false)).1 = .error e → e.IsWriting
  refusing : spec.validate.isValid = false → ∀ (s : Session) source out options,
    s.text source = .ok text →
    (s.run (.generate source out options false)).1 = .error (.invalid spec.validate.errors)

namespace AppSpecification

variable {text : String} {spec : AppSpecification}

theorem generateText_of_parse (parsed : parse text = .ok spec) :
    generateText text =
      if spec.validate.isValid then .ok (GeneratorOptions.generate {} spec)
      else .error (.spec (.invalid spec.validate.errors)) := by
  rw [generateText, parseValid, parsed]
  change ((spec.validate.check >>= fun _ => pure spec).mapError GenerateError.spec >>= _) = _
  rw [Report.check_eq]
  cases spec.validate.isValid <;> rfl

end AppSpecification

namespace Session

variable {s : Session} {source text : String} {spec : AppSpecification}

theorem load_eq_ok (read : s.text source = .ok text)
    (parsed : AppSpecification.parse text = .ok spec) : s.load source = .ok spec := by
  rw [load, read]
  change (AppSpecification.parse text).mapError _ = _
  rw [parsed]
  rfl

theorem run_check_of_load (loaded : s.load source = .ok spec) :
    (s.run (.check source)).1 =
      if spec.validate.isValid then .ok () else .error (.issues spec.validate.errors.length) := by
  rw [run_eq_exec, Machine.run, Machine.check, exec_bind_of_ok (by rw [exec_loadSpec, loaded]),
    exec_bind_of_ok (exec_say _ _), exec_bind_of_ok (exec_say _ _), Report.isEmpty_errors]
  split <;> rfl

end Session

theorem gatesAgree_of_parse {text : String} {spec : AppSpecification}
    (parsed : AppSpecification.parse text = .ok spec) : GatesAgree text spec where
  report := spec.validate.check_eq
  generation := AppSpecification.generateText_of_parse parsed
  checking := fun s source read => s.run_check_of_load (s.load_eq_ok read parsed)
  accepting := by
    intro valid s source out options read
    have loaded := s.load_eq_ok read parsed
    have wellFormed := AppSpecification.isValid_iff.mp valid
    rw [Session.run_generate_of_isValid loaded valid, Session.run_generate_of_isValid loaded valid]
    refine ⟨rfl, ?_⟩
    have stay : ∀ path ∈ (options.generate spec).paths, Path.leaves path = false :=
      fun path member => GeneratorOptions.leaves_of_mem_paths wellFormed member
    exact (Session.writesBelow_output stay).failure _
  refusing := by
    intro invalid s source out options read
    rw [Session.run_generate_of_invalid (s.load_eq_ok read parsed) invalid]

/-- Validation accepts the well-formed specifications. Its report tells the errors before the
warnings, and a repeated name once for each screen behind the first that has it. -/
theorem AppSpecification.gates_accept_wellFormed (spec : AppSpecification) :
    (spec.validate.isValid = true ↔ spec.WellFormed) ∧
      (∀ name, isIdentifier name = true ↔ Identifier name) ∧
      spec.validate.issues = spec.validate.errors ++ spec.validate.warnings ∧
      (∀ name, name ≠ "" → spec.validate.issues.count (.duplicateScreenName name) =
        (spec.screens.map Screen.name).count name - 1) ∧
      ∀ text, AppSpecification.parse text = .ok spec → GatesAgree text spec := by
  refine ⟨isValid_iff, isIdentifier_iff_identifier, spec.issues_eq_errors_append_warnings, ?_, ?_⟩
  · intro name some
    exact spec.count_duplicateScreenName some
  · intro text parsed
    exact gatesAgree_of_parse parsed

def repeatedText : String :=
  "\x7b\"appName\":\"Tasks\",\"dependencies\":[],\"screens\":[" ++
    "\x7b\"name\":\"Home\",\"path\":\"/\",\"components\":[]\x7d," ++
    "\x7b\"name\":\"Home\",\"path\":\"/again\",\"components\":[]\x7d]\x7d"

def repeatedSession : Session where
  disk := ⟨.directory [("app.json", .file repeatedText)], []⟩

theorem AppSpecification.gates_refuse_repeatedText :
    ∃ spec, parse repeatedText = .ok spec ∧
      spec.screens.map Screen.name = ["Home", "Home"] ∧
      spec.validate.issues.count (.duplicateScreenName "Home") = 1 ∧
      ¬ spec.WellFormed ∧
      (repeatedSession.run (.check "app.json")).1 = .error (.issues 1) ∧
      (repeatedSession.run (.generate "app.json" "out" {} false)).1 =
        .error (.invalid [.duplicateScreenName "Home"]) := by
  have parts : (parse repeatedText).toOption.map
      (fun spec => (spec.screens.map Screen.name, spec.validate.errors)) =
        some (["Home", "Home"], [.duplicateScreenName "Home"]) := by
    decide +kernel
  have read : repeatedSession.text "app.json" = .ok repeatedText := by
    rw [← toOption_eq_some_iff]
    decide +kernel
  obtain ⟨spec, parsed, same⟩ := Option.map_eq_some_iff.mp parts
  rw [toOption_eq_some_iff] at parsed
  obtain ⟨names, errors⟩ := Prod.mk.inj same
  have invalid : spec.validate.isValid = false := by
    rw [← Report.isEmpty_errors, errors]
    rfl
  obtain ⟨accepts, -, -, repeats, gates⟩ := spec.gates_accept_wellFormed
  have agree := gates repeatedText parsed
  refine ⟨spec, parsed, names, ?_, ?_, ?_, ?_⟩
  · rw [repeats "Home" (by decide), names]
    decide
  · rw [← accepts, invalid]
    decide
  · rw [agree.checking repeatedSession "app.json" read, invalid, errors]
    rfl
  · rw [agree.refusing invalid repeatedSession "app.json" "out" {} read, errors]

end AppScaffold
