import AppScaffold.Project.Generate
import AppScaffold.Schema.Reader
import AppScaffold.Spec.Encode

namespace AppScaffold

open Json Schema

structure StoredProject where
  id : Nat
  name : String
  description : Option String
  prompt : String
  specification : AppSpecification
  files : Project
  version : Nat

structure Iteration where
  projectId : Nat
  version : Nat
  modificationPrompt : String
  specification : AppSpecification
  files : Project

structure ProjectSummary where
  id : Nat
  name : String
  description : Option String
  version : Nat
  deriving DecidableEq

def StoredProject.summary (p : StoredProject) : ProjectSummary :=
  ⟨p.id, p.name, p.description, p.version⟩

structure ProjectPage where
  projects : List ProjectSummary
  /-- The number of projects on all pages. -/
  total : Nat
  deriving DecidableEq

def ProjectPage.totalPages (p : ProjectPage) (limit : Nat) : Nat :=
  if limit = 0 then 0 else (p.total + limit - 1) / limit

def countValue (n : Nat) : Value := .number (.natural n)

def textOrNull (s : Option String) : Value := (s.map Value.string).getD .null

namespace StoredProject

def toValue (p : StoredProject) : Value :=
  .object
    [("id", countValue p.id), ("name", .string p.name), ("description", textOrNull p.description),
      ("originalPrompt", .string p.prompt), ("specification", p.specification.toValue),
      ("files", p.files.toValue), ("version", countValue p.version)]

end StoredProject

def Iteration.toValue (i : Iteration) : Value :=
  .object
    [("projectId", countValue i.projectId), ("version", countValue i.version),
      ("modificationPrompt", .string i.modificationPrompt),
      ("specification", i.specification.toValue), ("files", i.files.toValue)]

def ProjectSummary.toValue (s : ProjectSummary) : Value :=
  .object
    [("id", countValue s.id), ("name", .string s.name), ("description", textOrNull s.description),
      ("version", countValue s.version)]

def ProjectPage.toValue (p : ProjectPage) : Value :=
  .object
    [("projects", .array (p.projects.map ProjectSummary.toValue)), ("total", countValue p.total)]

def Json.Value.asCount : Value → Nat
  | .number (.natural n) => n
  | _ => 0

def Project.ofForm : Value → Project
  | .object members => .ofList (members.map fun (path, v) => (path, v.asText))
  | _ => .empty

def StoredProject.ofForm : Value → StoredProject
  | .array [id, name, description, prompt, specification, files, version] =>
    ⟨id.asCount, name.asText, description.asText?, prompt.asText, .ofForm specification,
      .ofForm files, version.asCount⟩
  | _ => ⟨0, "", none, "", .ofForm .null, .empty, 0⟩

def Iteration.ofForm : Value → Iteration
  | .array [id, version, prompt, specification, files] =>
    ⟨id.asCount, version.asCount, prompt.asText, .ofForm specification, .ofForm files⟩
  | _ => ⟨0, 0, "", .ofForm .null, .empty⟩

def ProjectSummary.ofForm : Value → ProjectSummary
  | .array [id, name, description, version] =>
    ⟨id.asCount, name.asText, description.asText?, version.asCount⟩
  | _ => ⟨0, "", none, 0⟩

def ProjectPage.ofForm : Value → ProjectPage
  | .array [projects, total] => ⟨projects.asItems.map ProjectSummary.ofForm, total.asCount⟩
  | _ => ⟨[], 0⟩

namespace Project
def ofValue (v : Value) : Except Error Project := (Kind.table.ofValue v).map ofForm
def parse (text : String) : Except Error Project := (Kind.table.parse text).map ofForm
end Project

namespace StoredProject
def ofValue (v : Value) : Except Error StoredProject :=
  ((Kind.record .project).ofValue v).map ofForm
def parse (text : String) : Except Error StoredProject :=
  ((Kind.record .project).parse text).map ofForm
end StoredProject

namespace Iteration
def ofValue (v : Value) : Except Error Iteration :=
  ((Kind.record .iteration).ofValue v).map ofForm
def parse (text : String) : Except Error Iteration :=
  ((Kind.record .iteration).parse text).map ofForm
end Iteration

namespace ProjectSummary
def ofValue (v : Value) : Except Error ProjectSummary :=
  ((Kind.record .summary).ofValue v).map ofForm
def parse (text : String) : Except Error ProjectSummary :=
  ((Kind.record .summary).parse text).map ofForm
end ProjectSummary

namespace ProjectPage
def ofValue (v : Value) : Except Error ProjectPage := ((Kind.record .page).ofValue v).map ofForm
def parse (text : String) : Except Error ProjectPage := ((Kind.record .page).parse text).map ofForm
end ProjectPage

end AppScaffold
