import AppScaffold.Proofs.Disk.Path
import AppScaffold.Proofs.Project.References

namespace AppScaffold

namespace Project

theorem mem_paths_ofList {files : List (String × String)} {path : String}
    (member : path ∈ (ofList files).paths) : ∃ content, (path, content) ∈ files := by
  induction files using List.reverseRecOn with
  | nil => cases member
  | append_singleton files file ih =>
    rw [ofList_concat] at member
    rcases mem_keys_setMember member with last | earlier
    · exact ⟨file.2, by simp [last]⟩
    · obtain ⟨content, among⟩ := ih earlier
      exact ⟨content, List.mem_append_left _ among⟩

end Project

namespace Screen

theorem pieces_filePath {s : Screen} (name : isIdentifier s.name = true) :
    Path.pieces s.filePath = ["screens", s.componentName ++ ".js"] := by
  have slash : '/' ∉ s.name.toList := not_mem_of_isIdentifier name (by decide)
  have whole : '/' ∉ (s.componentName ++ ".js").toList := by
    simp [componentName, slash]
  have split : s.filePath = "screens" ++ "/" ++ (s.componentName ++ ".js") := by
    rw [filePath, ← String.append_assoc]
    rfl
  rw [split, Path.pieces_append, Path.pieces_of_whole whole]
  rfl

theorem leaves_filePath {s : Screen} (name : isIdentifier s.name = true) :
    Path.leaves s.filePath = false := by
  have file : ".." ≠ s.componentName ++ ".js" := by
    intro same
    have last := congrArg (fun s => s.toList.getLast?) same
    simp [componentName] at last
  refine Path.leaves_eq_false_iff.mpr (.inr ⟨"screens", _, pieces_filePath name, by decide, ?_⟩)
  simp [file]

end Screen

namespace GeneratorOptions

variable {options : GeneratorOptions} {spec : AppSpecification} {path : String}

theorem mem_paths_generate (member : path ∈ (options.generate spec).paths) :
    (∃ s ∈ spec.screens, path = s.filePath) ∨
      path ∈ ["App.js", cardPath, "app.json", "babel.config.js", "package.json"] := by
  obtain ⟨content, file⟩ := Project.mem_paths_ofList member
  rcases mem_files file with ⟨root, -⟩ | ⟨s, screen, path, -⟩ | other
  · exact .inr (root ▸ List.mem_cons_self)
  · exact .inl ⟨s, screen, path⟩
  · exact .inr (List.mem_cons_of_mem _ other)

theorem ne_empty_of_mem_paths (member : path ∈ (options.generate spec).paths) : path ≠ "" := by
  rintro rfl
  rcases mem_paths_generate member with ⟨s, -, empty⟩ | other
  · exact Screen.filePath_ne (by decide) empty.symm
  · exact absurd other (by decide +kernel)

theorem leaves_of_mem_paths (wellFormed : spec.WellFormed)
    (member : path ∈ (options.generate spec).paths) : Path.leaves path = false := by
  rcases mem_paths_generate member with ⟨s, screen, rfl⟩ | other
  · exact Screen.leaves_filePath (wellFormed.screens s screen).name_identifier
  · have stay : ∀ path ∈ ["App.js", cardPath, "app.json", "babel.config.js", "package.json"],
        Path.leaves path = false := by
      decide +kernel
    exact stay path other

end GeneratorOptions

end AppScaffold
