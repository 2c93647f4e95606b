import AppScaffold.Command.Session

/-! What the parts of a command do to a session. A part either ends with a value, and the next one
goes on from the session that it leaves, or fails, and nothing comes behind it. -/

namespace AppScaffold

open Log

namespace Session

variable {α β : Type}

/-- The result of a part of a command, and the session behind it. -/
def exec (part : Run (StateM Session) α) (s : Session) : Except CommandError α × Session :=
  (part.run.run s : Id _)

theorem run_eq_exec (s : Session) (c : Command) : s.run c = exec (machine.run c) s := rfl

theorem exec_bind (part : Run (StateM Session) α) (next : α → Run (StateM Session) β)
    (s : Session) : exec (part >>= next) s =
      match exec part s with
      | (.ok a, t) => exec (next a) t
      | (.error e, t) => (.error e, t) := by
  simp only [exec, bind, ExceptT.run, ExceptT.bind, ExceptT.mk, ExceptT.bindCont, StateT.run,
    StateT.bind]
  cases part s with
  | mk result t => cases result <;> rfl

theorem exec_bind_of_ok {part : Run (StateM Session) α} {s t : Session} {a : α}
    (ends : exec part s = (.ok a, t)) (next : α → Run (StateM Session) β) :
    exec (part >>= next) s = exec (next a) t := by
  rw [exec_bind, ends]

theorem exec_bind_of_error {part : Run (StateM Session) α} {s t : Session} {e : CommandError}
    (fails : exec part s = (.error e, t)) (next : α → Run (StateM Session) β) :
    exec (part >>= next) s = (.error e, t) := by
  rw [exec_bind, fails]

@[simp] theorem exec_throw (e : CommandError) (s : Session) :
    exec (throw e : Run (StateM Session) α) s = (.error e, s) := rfl

theorem exec_lift (action : StateM Session α) (s : Session) :
    exec (ExceptT.lift action) s = (.ok (action.run s).1, (action.run s).2) := rfl

theorem exec_perform (action : StateM Session (Except DiskError α))
    (failure : DiskError → CommandError) (s : Session) :
    exec (Machine.perform action failure) s =
      ((action.run s).1.mapError failure, (action.run s).2) := by
  simp only [exec, Machine.perform, bind, ExceptT.run, ExceptT.mk, StateT.run, StateT.bind]
  cases action s with
  | mk result t => cases result <;> rfl

@[simp] theorem exec_say (text : String) (s : Session) :
    exec (machine.say text) s = (.ok (), { s with printed := s.printed ++ text }) := rfl

@[simp] theorem exec_log (entries : List Entry) (s : Session) :
    exec (machine.log entries) s = (.ok (), { s with log := s.log ++ entries }) := by
  have noted (entries : List Entry) (s : Session) :
      (entries.forM machine.note).run s = ((), { s with log := s.log ++ entries }) := by
    induction entries generalizing s with
    | nil => simp [List.forM]; rfl
    | cons entry entries ih =>
      have step : ((entry :: entries).forM machine.note).run s =
          (entries.forM machine.note).run { s with log := s.log ++ [entry] } := rfl
      rw [step, ih, List.append_assoc]
      rfl
  rw [Machine.log, exec_lift, noted]

def text (s : Session) (source : String) : Except CommandError String :=
  if Path.parts source = [.name "-"] then (s.disk.read Disk.inputPath).mapError .readInput
  else (s.disk.read source).mapError (.readFile source)

def load (s : Session) (source : String) : Except CommandError AppSpecification := do
  (AppSpecification.parse (← s.text source)).mapError (.decode source)

theorem exec_readSource (s : Session) (source : String) :
    exec (machine.readSource source) s = (s.text source, s) := by
  rw [Machine.readSource, text]
  split
  · exact exec_perform machine.readInput .readInput s
  · exact exec_perform (machine.readFile source) (.readFile source) s

theorem exec_loadSpec (s : Session) (source : String) :
    exec (machine.loadSpec source) s = (s.load source, s) := by
  rw [Machine.loadSpec, load, exec_bind, exec_readSource]
  cases s.text source <;> rfl

theorem exec_createDirectories (path : String) (failure : DiskError → CommandError) (s : Session) :
    exec (Machine.perform (machine.createDirectories path) failure) s =
      ((s.disk.createDirectories path).1.mapError failure,
        { s with disk := (s.disk.createDirectories path).2 }) :=
  exec_perform (machine.createDirectories path) failure s

theorem exec_writeFile (path content : String) (failure : DiskError → CommandError) (s : Session) :
    exec (Machine.perform (machine.writeFile path content) failure) s =
      match s.disk.write path content with
      | .ok disk => (.ok (), { s with disk })
      | .error e => (.error (failure e), s) := by
  have action : (machine.writeFile path content).run s =
      match s.disk.write path content with
      | .ok disk => (.ok (), { s with disk })
      | .error e => (.error e, s) := rfl
  rw [exec_perform, action]
  cases s.disk.write path content <;> rfl

end Session

end AppScaffold
