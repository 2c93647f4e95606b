import AppScaffold.Proofs.Command.Writing

namespace AppScaffold

open Log

namespace Session

def warned (s : Session) (report : Report) : Session :=
  { s with log := s.log ++ report.warnings.map fun i => .event ⟨.command, .warn, i.message, []⟩ }

section Gate

variable {report : Report} (s : Session)

theorem exec_gate (force : Bool) :
    exec (machine.gate report force) s =
      exec (if !report.isValid then
          if force then
            machine.logEvent
              ⟨.command, .warn,
                "generating despite validation errors: " ++ Issue.summary report.errors, []⟩
          else throw (.invalid report.errors)
        else pure ()) (s.warned report) :=
  exec_bind_of_ok (exec_log _ s) _

theorem exec_gate_of_isValid (valid : report.isValid = true) (force : Bool) :
    exec (machine.gate report force) s = (.ok (), s.warned report) := by
  rw [exec_gate, valid]
  rfl

theorem exec_gate_of_invalid (invalid : report.isValid = false) :
    exec (machine.gate report false) s = (.error (.invalid report.errors), s.warned report) := by
  rw [exec_gate, invalid]
  rfl

theorem exec_gate_forced :
    ∃ t, exec (machine.gate report true) s = (.ok (), t) ∧ t.disk = s.disk := by
  cases valid : report.isValid with
  | true => exact ⟨_, exec_gate_of_isValid s valid true, rfl⟩
  | false =>
    rw [exec_gate, valid]
    exact ⟨_, exec_log _ _, rfl⟩

end Gate

def output (out : String) (options : GeneratorOptions) (spec : AppSpecification) :
    Run (StateM Session) Unit := do
  machine.log (options.log spec)
  let written ← machine.writeProject out (options.generate spec)
  let readme ← machine.writeBelow out "README.md" spec.readmeText
  let targets := written ++ [readme]
  machine.say (String.join (targets.map (· ++ "\n")))
  machine.logEvent
    ⟨.command, .info, "project written", [.count "files" targets.length, ⟨"out", out⟩]⟩

variable {s : Session} {source : String} {spec : AppSpecification}

theorem run_generate_of_error {e : CommandError} (unread : s.load source = .error e) (out : String)
    (options : GeneratorOptions) (force : Bool) :
    s.run (.generate source out options force) = (.error e, s) :=
  exec_bind_of_error (by rw [exec_loadSpec, unread]) _

theorem run_generate_of_load (loaded : s.load source = .ok spec) (out : String)
    (options : GeneratorOptions) (force : Bool) :
    s.run (.generate source out options force) =
      exec (machine.gate spec.validate force >>= fun _ => output out options spec) s :=
  exec_bind_of_ok (by rw [exec_loadSpec, loaded]) _

theorem run_generate_of_isValid (loaded : s.load source = .ok spec)
    (valid : spec.validate.isValid = true) (out : String) (options : GeneratorOptions)
    (force : Bool) :
    s.run (.generate source out options force) =
      exec (output out options spec) (s.warned spec.validate) := by
  rw [run_generate_of_load loaded]
  exact exec_bind_of_ok (exec_gate_of_isValid s valid force) _

theorem run_generate_of_invalid (loaded : s.load source = .ok spec)
    (invalid : spec.validate.isValid = false) (out : String) (options : GeneratorOptions) :
    s.run (.generate source out options false) =
      (.error (.invalid spec.validate.errors), s.warned spec.validate) := by
  rw [run_generate_of_load loaded]
  exact exec_bind_of_error (exec_gate_of_invalid s invalid) _

theorem writeProject_of_stay {p : Project} (stay : ∀ path ∈ p.paths, Path.leaves path = false)
    (out : String) : machine.writeProject out p = machine.writeAll out p.files := by
  have none : p.paths.find? Path.leaves = none := by
    rw [List.find?_eq_none]
    intro path member leaves
    rw [stay path member] at leaves
    cases leaves
  rw [Machine.writeProject, none]

theorem writesBelow_output {options : GeneratorOptions} {out : String}
    (stay : ∀ path ∈ (options.generate spec).paths, Path.leaves path = false) :
    WritesBelow out (output out options spec) := by
  have inner : ∀ file ∈ (options.generate spec).files, Inner file.1 := by
    intro file member
    have path : file.1 ∈ (options.generate spec).paths := List.mem_map_of_mem member
    exact ⟨stay file.1 path, GeneratorOptions.ne_empty_of_mem_paths path⟩
  have readme : Inner "README.md" := by
    constructor <;> decide +kernel
  refine (WritesBelow.log _).bind fun _ => ?_
  rw [writeProject_of_stay stay]
  refine (writesBelow_writeAll inner).bind fun written => ?_
  refine (writesBelow_writeBelow readme _).bind fun target => ?_
  exact (WritesBelow.say _).bind fun _ => .log _

end Session

end AppScaffold
