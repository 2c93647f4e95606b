import AppScaffold.Proofs.Command.Storing
import AppScaffold.Proofs.Disk.Filling

/-! What a generation for a valid specification leaves in its directory: the files of the project
and the introduction to it, each at a place of its own, and nothing else. -/

namespace AppScaffold.Session

open Disk Log

variable {out path content : String} {s t : Session}

section Success

variable {base : List String} {written : List Place} {made after : Disk}

theorem exec_writeBelow_of_ok
    (creates : s.disk.createDirectories (Path.directory (Path.join out path)) = (.ok (), made))
    (writes : made.write (Path.join out path) content = .ok after) :
    ∃ t, exec (machine.writeBelow out path content) s = (.ok (Path.join out path), t) ∧
      t.disk = after := by
  rw [exec_writeBelow, creates]
  dsimp only
  rw [writes]
  exact ⟨_, rfl, rfl⟩

theorem exec_writeBelow_of_filled (filled : Filled base out s.disk written)
    (precedes : Precedes base out) (accepts : Accepts out path)
    (apart : ∀ v ∈ written, Beside v (Path.names path)) (content : String) :
    ∃ t, exec (machine.writeBelow out path content) s = (.ok (Path.join out path), t) ∧
      Filled base out t.disk (Path.names path :: written) := by
  obtain ⟨made, after, creates, writes, more⟩ := filled.store precedes accepts apart content
  obtain ⟨t, ends, same⟩ := exec_writeBelow_of_ok creates writes
  exact ⟨t, ends, same ▸ more⟩

theorem exec_writeAll_of_filled {files : List (String × String)}
    (filled : Filled base out s.disk written) (precedes : Precedes base out)
    (accepts : ∀ file ∈ files, Accepts out file.1)
    (pairs : files.Pairwise fun f g => Beside (Path.names f.1) (Path.names g.1))
    (apart : ∀ file ∈ files, ∀ v ∈ written, Beside v (Path.names file.1)) :
    ∃ targets t, exec (machine.writeAll out files) s = (.ok targets, t) ∧
      Filled base out t.disk ((files.map fun file => Path.names file.1).reverse ++ written) := by
  induction files generalizing s written with
  | nil => exact ⟨[], s, rfl, filled⟩
  | cons file files ih =>
    obtain ⟨path, content⟩ := file
    rw [List.forall_mem_cons] at accepts apart
    rw [List.pairwise_cons] at pairs
    obtain ⟨middle, first, filled'⟩ :=
      exec_writeBelow_of_filled filled precedes accepts.1 apart.1 content
    have apart' : ∀ file ∈ files, ∀ v ∈ Path.names path :: written, Beside v (Path.names file.1) :=
      fun file member => List.forall_mem_cons.mpr ⟨pairs.1 file member, apart.2 file member⟩
    obtain ⟨targets, t, rest, last⟩ := ih filled' accepts.2 pairs.2 apart'
    refine ⟨Path.join out path :: targets, t, ?_, by simpa using last⟩
    rw [Machine.writeAll, exec_bind_of_ok first, exec_bind_of_ok rest]
    rfl

theorem exec_writeAll_of_made {rest : List (String × String)}
    (creates : s.disk.createDirectories (Path.directory (Path.join out path)) = (.ok (), made))
    (again : made.createDirectories (Path.directory (Path.join out path)) = (.ok (), made)) :
    exec (machine.writeAll out ((path, content) :: rest)) s =
      exec (machine.writeAll out ((path, content) :: rest)) { s with disk := made } := by
  have first : exec (machine.writeBelow out path content) s =
      exec (machine.writeBelow out path content) { s with disk := made } := by
    rw [exec_writeBelow, exec_writeBelow, creates, again]
  rw [Machine.writeAll, exec_bind, exec_bind, first]

end Success

theorem writeAll_concat (out : String) (files : List (String × String)) (path content : String) :
    machine.writeAll out (files ++ [(path, content)]) = (do
      let written ← machine.writeAll out files
      let last ← machine.writeBelow out path content
      pure (written ++ [last])) := by
  induction files with
  | nil => simp [Machine.writeAll]
  | cons file files ih => simp [Machine.writeAll, ih]

section Output

variable {options : GeneratorOptions} {spec : AppSpecification}

theorem exec_output (stay : ∀ path ∈ (options.generate spec).paths, Path.leaves path = false)
    (out : String) (s : Session) :
    exec (output out options spec) s =
      match exec (machine.writeAll out (options.outputFiles spec))
        { s with log := s.log ++ options.log spec } with
      | (.ok targets, t) =>
        (.ok (), { t with
          printed := t.printed ++ String.join (targets.map (· ++ "\n"))
          log := t.log ++ [.event ⟨.command, .info, "project written",
            [.count "files" targets.length, ⟨"out", out⟩]⟩] })
      | (.error e, t) => (.error e, t) := by
  have whole : output out options spec = (do
      machine.log (options.log spec)
      let targets ← machine.writeAll out (options.outputFiles spec)
      machine.say (String.join (targets.map (· ++ "\n")))
      machine.logEvent
        ⟨.command, .info, "project written", [.count "files" targets.length, ⟨"out", out⟩]⟩) := by
    rw [output, writeProject_of_stay stay, GeneratorOptions.outputFiles, writeAll_concat]
    simp
  rw [whole, exec_bind_of_ok (exec_log _ s), exec_bind]
  split
  · rename_i targets t ends
    rw [ends]
    exact exec_bind_of_ok (exec_say _ t) _
  · rename_i e t ends
    rw [ends]

/-- Below the directory there are the given files and no others, each at a place of its own; of each
one line tells, in their order. -/
structure Fills (out : String) (files : List (String × String)) (before after : Session) :
    Prop where
  apart : (files.map fun file => Path.names file.1).Nodup
  read : ∀ file ∈ files, after.disk.read (Path.join out file.1) = .ok file.2
  only : ∀ place node, Below (before.disk.destination out) place →
    (after.disk.object? place = some node ↔ ∃ file ∈ files,
      place = before.disk.destination out ++ Path.names file.1 ∧ node = .file file.2)
  printed : after.printed =
    before.printed ++ String.join (files.map fun file => Path.join out file.1 ++ "\n")

theorem plain_of_vacant {d : Disk} {files : List (String × String)}
    (vacant : d.Vacant (d.destination out))
    (stay : ∀ file ∈ files, Path.leaves file.1 = false) : d.Plain (placed out files) := by
  rw [Plain, forall_mem_placed]
  intro file member bytes device
  rw [destination_join (stay file member), vacant.object?_eq_none] at device
  cases device

section Stored

variable {files : List (String × String)} (stay : ∀ file ∈ files, Path.leaves file.1 = false)

include stay

theorem lastContent?_eq_some_iff {d : Disk} {place : Place}
    (apart : (files.map fun file => Path.names file.1).Nodup) :
    d.lastContent? (placed out files) place = some content ↔
      ∃ file ∈ files, place = d.destination out ++ Path.names file.1 ∧ file.2 = content := by
  have found {content : String} (last : d.lastContent? (placed out files) place = some content) :
      ∃ file ∈ files, place = d.destination out ++ Path.names file.1 ∧ file.2 = content := by
    obtain ⟨path, member, rfl⟩ := mem_of_lastContent? last
    obtain ⟨file, among, same⟩ := List.mem_map.mp member
    obtain ⟨rfl, rfl⟩ := Prod.mk.inj same
    exact ⟨file, among, destination_join (stay file among) out, rfl⟩
  refine ⟨found, ?_⟩
  rintro ⟨file, member, here, rfl⟩
  have among : (Path.join out file.1, file.2) ∈ placed out files := List.mem_map_of_mem member
  obtain ⟨content, last⟩ := d.exists_lastContent? among
  rw [destination_join (stay file member), ← here] at last
  obtain ⟨other, member', here', rfl⟩ := found last
  have same := List.append_cancel_left (here.symm.trans here')
  obtain rfl := List.inj_on_of_nodup_map apart member member' same
  exact last

theorem fills_of_stores (vacant : s.disk.Vacant (s.disk.destination out))
    (apart : (files.map fun file => Path.names file.1).Nodup)
    (stores : Stores (placed out files) s.disk t.disk)
    (printed : t.printed =
      s.printed ++ String.join (files.map fun file => Path.join out file.1 ++ "\n")) :
    Fills out files s t where
  apart := apart
  read := by
    intro file member
    have among : (Path.join out file.1, file.2) ∈ placed out files := List.mem_map_of_mem member
    refine stores.read among ((lastContent?_eq_some_iff stay apart).mpr ⟨file, member, ?_, rfl⟩)
    exact destination_join (stay file member) out
  only := by
    rintro place node ⟨q, -, rfl⟩
    rw [stores.found, vacant.object?_eq_none, Option.or_none, Option.map_eq_some_iff]
    simp only [lastContent?_eq_some_iff stay apart]
    constructor
    · rintro ⟨content, ⟨file, member, here, rfl⟩, rfl⟩
      exact ⟨file, member, here, rfl⟩
    · rintro ⟨file, member, here, rfl⟩
      exact ⟨file.2, ⟨file, member, here, rfl⟩, rfl⟩
  printed := printed

end Stored

theorem pairwise_beside (wellFormed : spec.WellFormed) (options : GeneratorOptions) :
    (options.outputFiles spec).Pairwise fun f g =>
      Beside (Path.names f.1) (Path.names g.1) := by
  have nodup := options.nodup_outputFiles spec
  rw [List.Nodup, List.pairwise_map] at nodup
  refine nodup.imp_of_mem fun member among other => ⟨fun within => ?_, fun within => ?_⟩
  · exact other (GeneratorOptions.eq_of_names_prefix wellFormed member among within)
  · exact other (GeneratorOptions.eq_of_names_prefix wellFormed among member within).symm

theorem nodup_names (wellFormed : spec.WellFormed) (options : GeneratorOptions) :
    ((options.outputFiles spec).map fun file => Path.names file.1).Nodup := by
  rw [List.Nodup, List.pairwise_map]
  refine (pairwise_beside wellFormed options).imp fun beside same => ?_
  exact beside.1 (same ▸ List.prefix_refl _)

theorem accepts_of_takes (wellFormed : spec.WellFormed)
    (takes : s.disk.Takes out ((options.outputFiles spec).map Prod.fst)) :
    ∀ file ∈ options.outputFiles spec, Accepts out file.1 := fun _ member => {
      stays := GeneratorOptions.leaves_of_mem_outputFiles wellFormed member
      plain := GeneratorOptions.names_eq_pieces wellFormed member
      checked := takes.checked _ (List.mem_map_of_mem member)
      short := takes.short _ (List.mem_map_of_mem member) }

/-- Where there is room for the files of a well-formed specification they are all written. -/
theorem exec_writeAll_of_takes (wellFormed : spec.WellFormed)
    (takes : s.disk.Takes out ((options.outputFiles spec).map Prod.fst)) :
    ∃ targets t, exec (machine.writeAll out (options.outputFiles spec)) s = (.ok targets, t) := by
  have accepts := accepts_of_takes wellFormed takes
  obtain ⟨base, precedes⟩ := exists_precedes out
  obtain ⟨made, creates, empty⟩ := takes.directory
  obtain ⟨content, rest, files⟩ := options.exists_outputFiles_eq spec
  have root : Accepts out "App.js" := accepts ("App.js", content) (files ▸ List.mem_cons_self)
  obtain ⟨filled, first, again⟩ :=
    filled_of_createDirectories precedes root (by decide) creates empty
  obtain ⟨targets, t, ends, -⟩ :=
    exec_writeAll_of_filled (s := { s with disk := made }) filled precedes accepts
      (pairwise_beside wellFormed options) nofun
  refine ⟨targets, t, ?_⟩
  rw [files] at ends ⊢
  rw [exec_writeAll_of_made first again, ends]

/-- The generation for a valid specification is refused nowhere. Into a directory that is empty or
absent it puts exactly the files of the project and the introduction, unless the disk fails, and
the disk does not fail if it has room for them. -/
theorem generate_fills {source : String} {force : Bool} (loaded : s.load source = .ok spec)
    (valid : spec.validate.isValid = true) (vacant : s.disk.Vacant (s.disk.destination out)) :
    (∀ path ∈ (options.generate spec).paths, Path.leaves path = false) ∧
      (∀ e, (s.run (.generate source out options force)).1 = .error e → e.IsWriting) ∧
      (s.disk.Takes out ((options.outputFiles spec).map Prod.fst) →
        (s.run (.generate source out options force)).1 = .ok ()) ∧
      ((s.run (.generate source out options force)).1 = .ok () →
        Fills out (options.outputFiles spec) s (s.run (.generate source out options force)).2) := by
  have wellFormed := AppSpecification.isValid_iff.mp valid
  have stay : ∀ path ∈ (options.generate spec).paths, Path.leaves path = false :=
    fun path member => GeneratorOptions.leaves_of_mem_paths wellFormed member
  have result : s.run (.generate source out options force) =
      exec (output out options spec) (s.warned spec.validate) :=
    run_generate_of_isValid loaded valid out options force
  rw [result]
  refine ⟨stay, (writesBelow_output stay).failure _, fun takes => ?_, fun ends => ?_⟩
  · obtain ⟨targets, t, ends⟩ := exec_writeAll_of_takes
      (s := { s.warned spec.validate with
        log := (s.warned spec.validate).log ++ options.log spec }) wellFormed takes
    rw [exec_output stay, ends]
  · have inner : ∀ file ∈ options.outputFiles spec, Path.leaves file.1 = false :=
      fun file member => GeneratorOptions.leaves_of_mem_outputFiles wellFormed member
    rw [exec_output stay] at ends ⊢
    split at ends
    · rename_i targets t written
      obtain ⟨rfl, printed, stores⟩ :=
        stores_writeAll (by exact plain_of_vacant vacant inner) written
      refine fills_of_stores inner vacant (nodup_names wellFormed options) (by exact stores) ?_
      dsimp only
      rw [printed, placed, List.map_map, List.map_map]
      rfl
    · cases ends

end Output

def freshSession : Session where
  disk := ⟨.directory [("app.json", .file
    ("\x7b\"appName\":\"Tasks\",\"dependencies\":[],\"screens\":[" ++
      "\x7b\"name\":\"Home\",\"path\":\"/\",\"components\":[\x7b\"type\":\"Card\"\x7d]\x7d," ++
      "\x7b\"name\":\"Detail\",\"path\":\"/detail\",\"components\":[]\x7d]\x7d"))], []⟩

theorem takes_freshSession : freshSession.disk.Takes "out"
    ["App.js", "screens/HomeScreen.js", "screens/DetailScreen.js", "components/Card.js", "app.json",
      "babel.config.js", "package.json", "README.md"] where
  directory := ⟨_, rfl, rfl⟩
  checked := by
    simp only [← toOption_eq_some_iff]
    decide +kernel
  short := by decide +kernel

theorem generate_fills_freshSession :
    ∃ spec, freshSession.load "app.json" = .ok spec ∧
      spec.screens.map Screen.name = ["Home", "Detail"] ∧
      (freshSession.run (.generate "app.json" "out" {} false)).1 = .ok () ∧
      Fills "out" (GeneratorOptions.outputFiles {} spec) freshSession
        (freshSession.run (.generate "app.json" "out" {} false)).2 := by
  have parts : (freshSession.load "app.json").toOption.map (fun spec =>
      (spec.screens.map Screen.name, spec.validate.isValid,
        (GeneratorOptions.outputFiles {} spec).map Prod.fst)) =
        some (["Home", "Detail"], true,
          ["App.js", "screens/HomeScreen.js", "screens/DetailScreen.js", "components/Card.js",
            "app.json", "babel.config.js", "package.json", "README.md"]) := by
    decide +kernel
  obtain ⟨spec, loaded, same⟩ := Option.map_eq_some_iff.mp parts
  rw [toOption_eq_some_iff] at loaded
  obtain ⟨names, rest⟩ := Prod.mk.inj same
  obtain ⟨valid, paths⟩ := Prod.mk.inj rest
  have vacant : freshSession.disk.Vacant (freshSession.disk.destination "out") := by
    refine .inl (Option.isNone_iff_eq_none.mp ?_)
    decide +kernel
  obtain ⟨-, -, succeeds, fills⟩ := generate_fills loaded valid vacant
  have done := succeeds (by rw [paths]; exact takes_freshSession)
  exact ⟨spec, loaded, names, done, fills done⟩

end AppScaffold.Session
