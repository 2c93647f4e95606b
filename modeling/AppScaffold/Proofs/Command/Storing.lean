import AppScaffold.Proofs.Command.Generation
import AppScaffold.Proofs.Disk.Storing
import AppScaffold.Proofs.Project.Places
import Mathlib.Data.List.Find

/-! What a generation stores. The files of a project are written under paths that differ as texts;
only screens whose names lead to one place can take a file from each other. -/

namespace AppScaffold

namespace Session

open Disk Log

variable {out path content : String} {s t : Session}

theorem exec_writeBelow (out path content : String) (s : Session) :
    exec (machine.writeBelow out path content) s =
      match s.disk.createDirectories (Path.directory (Path.join out path)) with
      | (.error e, disk) =>
        (.error (.createDirectory (Path.directory (Path.join out path)) e), { s with disk })
      | (.ok (), disk) =>
        match disk.write (Path.join out path) content with
        | .error e => (.error (.writeFile (Path.join out path) e), { s with disk })
        | .ok disk =>
          (.ok (Path.join out path), { s with
            disk
            log := s.log ++ [.event ⟨.output, .debug, "wrote file",
              [⟨"path", Path.join out path⟩, .count "bytes" content.utf8ByteSize]⟩] }) := by
  rw [Machine.writeBelow, exec_bind, exec_createDirectories]
  cases s.disk.createDirectories (Path.directory (Path.join out path)) with
  | mk result disk =>
    cases result with
    | error e => rfl
    | ok =>
      dsimp only [Except.mapError]
      rw [exec_bind, exec_writeFile]
      dsimp only
      cases disk.write (Path.join out path) content with
      | error e => rfl
      | ok disk => exact exec_bind_of_ok (exec_log _ _) _

def placed (out : String) (files : List (String × String)) : List (String × String) :=
  files.map fun file => (Path.join out file.1, file.2)

theorem forall_mem_placed {files : List (String × String)} {P : String × String → Prop} :
    (∀ file ∈ placed out files, P file) ↔ ∀ file ∈ files, P (Path.join out file.1, file.2) :=
  List.forall_mem_map

/-- Below one directory it is the names of a path that say where it leads. -/
theorem lastContent?_placed {d : Disk} {files : List (String × String)}
    (stay : ∀ file ∈ files, Path.leaves file.1 = false) {file : String × String}
    (member : file ∈ files) :
    d.lastContent? (placed out files) (d.destination (Path.join out file.1)) =
      (files.reverse.find? fun other => Path.names other.1 == Path.names file.1).map Prod.snd := by
  rw [lastContent?, placed, ← List.map_reverse, List.find?_map, Option.map_map]
  congr 1
  refine List.find?_congr fun other among => ?_
  rw [Function.comp_apply, destination_join (stay other (List.mem_reverse.mp among)),
    destination_join (stay file member), Bool.eq_iff_iff, beq_iff_eq, beq_iff_eq,
    List.append_cancel_left_eq]

theorem stores_writeBelow {target : String} (plain : s.disk.Plain [(Path.join out path, content)])
    (ends : exec (machine.writeBelow out path content) s = (.ok target, t)) :
    target = Path.join out path ∧ t.printed = s.printed ∧
      Stores [(Path.join out path, content)] s.disk t.disk := by
  have changes := changesOnly_createDirectories s.disk (Path.directory (Path.join out path))
  rw [exec_writeBelow] at ends
  split at ends
  · cases ends
  · rename_i made creates
    rw [creates] at changes
    split at ends
    · cases ends
    · rename_i after written
      cases ends
      exact ⟨rfl, rfl, stores_write (keeps_of_createDirectories creates) changes plain written⟩

theorem stores_writeAll {files : List (String × String)} {targets : List String}
    (plain : s.disk.Plain (placed out files))
    (ends : exec (machine.writeAll out files) s = (.ok targets, t)) :
    targets = (placed out files).map Prod.fst ∧ t.printed = s.printed ∧
      Stores (placed out files) s.disk t.disk := by
  induction files generalizing s targets with
  | nil =>
    cases ends
    exact ⟨rfl, rfl, .nil _⟩
  | cons file files ih =>
    obtain ⟨path, content⟩ := file
    have plain' := List.forall_mem_cons.mp plain
    rw [Machine.writeAll, exec_bind] at ends
    split at ends
    · rename_i target middle first
      obtain ⟨rfl, printed, one⟩ :=
        stores_writeBelow (List.forall_mem_singleton.mpr plain'.1) first
      rw [exec_bind] at ends
      split at ends
      · rename_i others last rest
        cases ends
        obtain ⟨rfl, printed', more⟩ := ih (one.plain plain'.2) rest
        exact ⟨rfl, printed'.trans printed, one.append more⟩
      · cases ends
    · cases ends

section Project

variable {options : GeneratorOptions} {spec : AppSpecification} {targets : List String}

theorem stores_writeProject {p : Project} (plain : s.disk.Plain (placed out p.files))
    (ends : exec (machine.writeProject out p) s = (.ok targets, t)) :
    (∀ path ∈ p.paths, Path.leaves path = false) ∧
      targets = (placed out p.files).map Prod.fst ∧ t.printed = s.printed ∧
      Stores (placed out p.files) s.disk t.disk := by
  rw [Machine.writeProject] at ends
  split at ends
  · cases ends
  · rename_i none
    refine ⟨fun path member => ?_, stores_writeAll plain ends⟩
    simpa using List.find?_eq_none.mp none path member

/-- A project that has been written is stored, file by file, if no two of its screens with different
names share a place, and only then. Of the files at one place the last one is found. -/
theorem writeProject_stores_iff (plain : s.disk.Plain (placed out (options.generate spec).files))
    (ends : exec (machine.writeProject out (options.generate spec)) s = (.ok targets, t)) :
    ((∀ file ∈ (options.generate spec).files,
        t.disk.read (Path.join out file.1) = .ok file.2) ↔
      ∀ a ∈ spec.screens, ∀ b ∈ spec.screens,
        Path.names a.filePath = Path.names b.filePath → a.name = b.name) ∧
    ∀ file ∈ (options.generate spec).files,
      t.disk.locate (Path.join out file.1) =
          .ok (s.disk.destination out ++ Path.names file.1) ∧
        (t.disk.read (Path.join out file.1)).toOption =
          ((options.generate spec).files.reverse.find? fun other =>
            Path.names other.1 == Path.names file.1).map Prod.snd := by
  obtain ⟨stay, -, -, stores⟩ := stores_writeProject plain ends
  have inner : ∀ file ∈ (options.generate spec).files, Path.leaves file.1 = false :=
    fun file member => stay file.1 (List.mem_map_of_mem member)
  constructor
  · have reads := stores.read_iff
    simp only [forall_mem_placed] at reads
    rw [reads, ← GeneratorOptions.contents_agree_iff options]
    refine forall₂_congr fun f member => forall₂_congr fun g among => ?_
    rw [destination_join (inner f member), destination_join (inner g among),
      List.append_cancel_left_eq]
  · intro file member
    have among : (Path.join out file.1, file.2) ∈ placed out (options.generate spec).files :=
      List.mem_map_of_mem member
    obtain ⟨content, last⟩ := s.disk.exists_lastContent? among
    constructor
    · rw [stores.leads _ among, destination_join (inner file member)]
    · rw [stores.read among last, ← lastContent?_placed inner member, last]
      rfl

def pairOfScreens (first second : String) : AppSpecification where
  appName := "Tasks"
  screens := [⟨first, "/", [], [], []⟩, ⟨second, "/second", [], [], []⟩]

theorem plain_of_empty (files : List (String × String)) : Disk.Plain {} files := by
  intro file _ bytes device
  rw [Disk.object?, Node.object?_empty] at device
  cases device

def writtenPair (first second : String) : Except CommandError (List String) × Session :=
  exec (machine.writeProject "out" (GeneratorOptions.generate {} (pairOfScreens first second)))
    ⟨{}, "", []⟩

theorem writeProject_stores_pair :
    (∃ targets, (writtenPair "Home" "Detail").1 = .ok targets) ∧
      ∀ file ∈ (GeneratorOptions.generate {} (pairOfScreens "Home" "Detail")).files,
        (writtenPair "Home" "Detail").2.disk.read (Path.join "out" file.1) = .ok file.2 := by
  have succeeds : (writtenPair "Home" "Detail").1.toOption.isSome = true := by
    decide +kernel
  obtain ⟨targets, result⟩ := Option.isSome_iff_exists.mp succeeds
  rw [toOption_eq_some_iff] at result
  have ends : writtenPair "Home" "Detail" = (.ok targets, (writtenPair "Home" "Detail").2) := by
    rw [← result]
  have whole : ∀ s ∈ (pairOfScreens "Home" "Detail").screens, '/' ∉ s.name.toList := by
    decide +kernel
  exact ⟨⟨targets, result⟩,
    (writeProject_stores_iff (plain_of_empty _) ends).1.mpr (apart_of_whole whole)⟩

/-- Of two screens at one place the first is lost, although the whole project has been written. -/
theorem writeProject_loses_screen :
    (∃ targets, (writtenPair "Home" "./Home").1 = .ok targets) ∧
      ∃ content, ("screens/HomeScreen.js", content) ∈
          (GeneratorOptions.generate {} (pairOfScreens "Home" "./Home")).files ∧
        (writtenPair "Home" "./Home").2.disk.read "out/screens/HomeScreen.js" ≠ .ok content := by
  have succeeds : (writtenPair "Home" "./Home").1.toOption.isSome = true := by
    decide +kernel
  obtain ⟨targets, result⟩ := Option.isSome_iff_exists.mp succeeds
  have module : (GeneratorOptions.generate {} (pairOfScreens "Home" "./Home")).get?
      "screens/HomeScreen.js" = some (Screen.mk "Home" "/" [] [] []).moduleText :=
    GeneratorOptions.get?_screenPath {} _ "Home"
  refine ⟨⟨targets, toOption_eq_some_iff.mp result⟩, _, Project.mem_files_iff.mpr module, ?_⟩
  rw [Ne, ← toOption_eq_some_iff]
  decide +kernel

end Project

end Session

end AppScaffold
