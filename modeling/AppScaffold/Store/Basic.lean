import AppScaffold.Model.Prompt
import AppScaffold.Store.Record
import AppScaffold.Store.Table

/-! A store of projects. Every change of a project's specification is kept. A call that fails has no
store to go on with but the one it was made on. -/

namespace AppScaffold

open Log

-- Powers of numbers are those of the core library.
attribute [local instance (high)] instPowNat

inductive StoreError
  | name (length : Nat)
  | description (length : Nat)
  | prompt (e : PromptError)
  | notFound (id : Nat)
  deriving DecidableEq

namespace StoreError

def maxName : Nat := 100
def maxDescription : Nat := 500

def message : StoreError → String
  | name length => "project name must be 1 to 100 characters, got " ++ toString length
  | description length =>
    "project description must be at most 500 characters, got " ++ toString length
  | prompt e => e.message
  | notFound id => "project " ++ toString id ++ " not found"

end StoreError

open StoreError

def checkName (s : String) : Except StoreError Unit :=
  if 1 ≤ s.length && s.length ≤ maxName then .ok () else .error (.name s.length)

def checkDescription (s : Option String) : Except StoreError Unit :=
  match s with
  | some s => if s.length ≤ maxDescription then .ok () else .error (.description s.length)
  | none => .ok ()

def checkPrompt (kind : PromptKind) (s : String) : Except StoreError Unit :=
  (kind.check s).mapError .prompt

structure NewProject where
  name : String
  description : Option String
  prompt : String
  specification : AppSpecification

def NewProject.check (p : NewProject) : Except StoreError Unit := do
  checkName p.name
  checkDescription p.description
  checkPrompt .generation p.prompt

structure ProjectUpdate where
  name : Option String := none
  description : Option String := none
  deriving DecidableEq

def ProjectUpdate.check (u : ProjectUpdate) : Except StoreError Unit := do
  match u.name with
  | some s => checkName s
  | none => .ok ()
  checkDescription u.description

/-- Which page of a list, counted from one; the page before the first is the first. -/
structure PageRequest where
  page : Nat := 1
  limit : Nat := 10
  deriving DecidableEq

/-- The largest machine word. Products beyond it stop there. -/
def maxWord : Nat := 2 ^ (64 : Nat) - 1

def PageRequest.offset (r : PageRequest) : Nat := min ((max r.page 1 - 1) * r.limit) maxWord

structure ProjectStore where
  options : GeneratorOptions := {}
  projects : Table StoredProject := .empty
  history : Table (List Iteration) := .empty
  /-- When each project was last changed. -/
  touched : Table Nat := .empty
  /-- How many projects have been created. The last of them has this number. -/
  created : Nat := 0
  /-- How many changes there have been. -/
  clock : Nat := 0

structure Change where
  project : StoredProject
  store : ProjectStore
  log : List Entry

namespace ProjectStore

def ids (s : ProjectStore) : List Nat := s.projects.keys
def size (s : ProjectStore) : Nat := s.projects.size
def isEmpty (s : ProjectStore) : Bool := s.projects.isEmpty

def get (s : ProjectStore) (id : Nat) : Except StoreError StoredProject :=
  match s.projects.get? id with
  | some p => .ok p
  | none => .error (.notFound id)

/-- The store with the project in it, as its latest change. -/
def record (s : ProjectStore) (p : StoredProject) : ProjectStore :=
  { s with
    projects := s.projects.put p.id p
    touched := s.touched.put p.id (s.clock + 1)
    clock := s.clock + 1 }

def create (s : ProjectStore) (p : NewProject) : Except StoreError Change := do
  p.check
  let id := s.created + 1
  let project : StoredProject :=
    { id, name := p.name, description := p.description, prompt := p.prompt
      specification := p.specification, files := s.options.generate p.specification, version := 1 }
  let note : Event :=
    ⟨.store, .debug, "project created", [.count "id" id, .count "files" project.files.size]⟩
  pure ⟨project, { s with created := id }.record project,
    s.options.log p.specification ++ [.event note]⟩

def update (s : ProjectStore) (id : Nat) (u : ProjectUpdate) : Except StoreError Change := do
  u.check
  let p ← s.get id
  let project :=
    { p with name := u.name.getD p.name, description := u.description <|> p.description }
  pure ⟨project, s.record project, [.event ⟨.store, .debug, "project updated", [.count "id" id]⟩]⟩

/-- The specification is replaced and files are generated for it; the history tells of it. -/
def iterate (s : ProjectStore) (id : Nat) (prompt : String) (spec : AppSpecification) :
    Except StoreError Change := do
  checkPrompt .modification prompt
  let p ← s.get id
  let version := p.version + 1
  let files := s.options.generate spec
  let iteration : Iteration := ⟨id, version, prompt, spec, files⟩
  let project := { p with specification := spec, files, version }
  let history := s.history.put id ((s.history.get? id).getD [] ++ [iteration])
  let note : Event := ⟨.store, .debug, "project iterated", [.count "id" id, .count "version" version]⟩
  pure ⟨project, { s with history }.record project, s.options.log spec ++ [.event note]⟩

def iterations (s : ProjectStore) (id : Nat) : Except StoreError (List Iteration) := do
  let _ ← s.get id
  pure ((s.history.get? id).getD [])

def delete (s : ProjectStore) (id : Nat) : Except StoreError (ProjectStore × List Entry) := do
  let _ ← s.get id
  pure
    ({ s with
        projects := s.projects.erase id
        history := s.history.erase id
        touched := s.touched.erase id },
      [.event ⟨.store, .debug, "project deleted", [.count "id" id]⟩])

def lastChange (s : ProjectStore) (id : Nat) : Nat := (s.touched.get? id).getD 0

/-- The projects, the one changed last first. -/
def recent (s : ProjectStore) : List Nat :=
  s.ids.mergeSort fun a b => s.lastChange b ≤ s.lastChange a

def list (s : ProjectStore) (r : PageRequest) : ProjectPage :=
  ⟨((s.recent.drop r.offset).take r.limit).filterMap fun id =>
      (s.projects.get? id).map StoredProject.summary,
    s.size⟩

end ProjectStore

end AppScaffold
