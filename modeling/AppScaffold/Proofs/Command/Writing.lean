import AppScaffold.Proofs.Command.Execution
import AppScaffold.Proofs.Disk.Changes
import AppScaffold.Proofs.Project.Paths

namespace AppScaffold

open Disk Log

def CommandError.IsWriting : CommandError → Prop
  | createDirectory .. | writeFile .. => True
  | _ => False

namespace Session

variable {α β : Type} {out : String}

/-- A part of a command that does no more than write below a directory. -/
structure WritesBelow (out : String) (part : Run (StateM Session) α) : Prop where
  files : ∀ s : Session,
    ChangesOnly (Below (s.disk.destination out)) s.disk (exec part s).2.disk
  failure : ∀ s e, (exec part s).1 = .error e → e.IsWriting

namespace WritesBelow

theorem bind {part : Run (StateM Session) α} {next : α → Run (StateM Session) β}
    (first : WritesBelow out part) (behind : ∀ a, WritesBelow out (next a)) :
    WritesBelow out (part >>= next) where
  files := by
    intro s
    have changes := first.files s
    rw [exec_bind]
    split
    · rename_i a t ends
      rw [ends] at changes
      refine changes.trans ?_
      rw [← changes.destination out]
      exact (behind a).files t
    · rename_i e t ends
      rw [ends] at changes
      exact changes
  failure := by
    intro s e fails
    rw [exec_bind] at fails
    split at fails
    · rename_i a t _
      exact (behind a).failure t e fails
    · rename_i f t ends
      have same : f = e := Except.error.inj fails
      exact first.failure s e (by rw [ends, same])

theorem of_exec {part : Run (StateM Session) α}
    (ends : ∀ s, ∃ a t, exec part s = (.ok a, t) ∧ t.disk = s.disk) : WritesBelow out part where
  files := by
    intro s
    obtain ⟨a, t, result, same⟩ := ends s
    rw [result, same]
    exact .refl _ _
  failure := by
    intro s e fails
    obtain ⟨a, t, result, -⟩ := ends s
    rw [result] at fails
    cases fails

theorem pure (a : α) : WritesBelow out (pure a) := of_exec fun s => ⟨a, s, rfl, rfl⟩

theorem say (text : String) : WritesBelow out (machine.say text) :=
  of_exec fun s => ⟨(), _, exec_say text s, rfl⟩

theorem log (entries : List Entry) : WritesBelow out (machine.log entries) :=
  of_exec fun s => ⟨(), _, exec_log entries s, rfl⟩

theorem createDirectories (path : String) :
    WritesBelow out (Machine.perform (machine.createDirectories path) (.createDirectory path)) where
  files := by
    intro s
    rw [exec_createDirectories]
    exact (changesOnly_createDirectories s.disk path).mono fun _ => False.elim
  failure := by
    intro s e fails
    rw [exec_createDirectories] at fails
    obtain ⟨reason, -, rfl⟩ := mapError_eq_error_iff.mp fails
    trivial

theorem writeFile {path : String}
    (below : ∀ s : Session, Below (s.disk.destination out) (s.disk.destination path))
    (content : String) :
    WritesBelow out (Machine.perform (machine.writeFile path content) (.writeFile path)) where
  files := by
    intro s
    rw [exec_writeFile]
    split
    · rename_i written
      refine (changesOnly_write written).mono ?_
      rintro place rfl
      exact below s
    · exact .refl _ _
  failure := by
    intro s e fails
    rw [exec_writeFile] at fails
    split at fails
    · cases fails
    · rw [← Except.error.inj fails]
      trivial

end WritesBelow

/-- A path that names something in the directory that it starts in. -/
def Inner (path : String) : Prop := Path.leaves path = false ∧ path ≠ ""

theorem writesBelow_writeBelow {path : String} (inner : Inner path) (content : String) :
    WritesBelow out (machine.writeBelow out path content) := by
  refine (WritesBelow.createDirectories _).bind fun _ => ?_
  refine (WritesBelow.writeFile ?_ content).bind fun _ => ?_
  · exact fun s => below_destination_join inner.1 inner.2 out
  · exact (WritesBelow.log _).bind fun _ => .pure _

theorem writesBelow_writeAll {files : List (String × String)}
    (inner : ∀ file ∈ files, Inner file.1) : WritesBelow out (machine.writeAll out files) := by
  induction files with
  | nil => exact .pure []
  | cons file files ih =>
    rw [List.forall_mem_cons] at inner
    refine (writesBelow_writeBelow inner.1 file.2).bind fun _ => ?_
    exact (ih inner.2).bind fun _ => .pure _

end Session

end AppScaffold
