import AppScaffold.Proofs.Spec.Validity

namespace AppScaffold

def Identifier (name : String) : Prop :=
  ∃ c cs, name.toList = c :: cs ∧ (c.isAlpha ∨ c ∈ ['_', '$']) ∧
    ∀ d ∈ cs, d.isAlphanum ∨ d ∈ ['_', '$']

theorem isIdentifier_iff_identifier (name : String) :
    isIdentifier name = true ↔ Identifier name := by
  rw [isIdentifier_iff, Identifier]
  simp only [isIdentifierStart, isIdentifierPart, Bool.or_eq_true, beq_iff_eq, List.mem_cons,
    List.not_mem_nil, or_false, or_assoc]

namespace Issue

theorem count_issueIf {condition : Bool} {i j : Issue} (other : i ≠ j) :
    (issueIf condition i).count j = 0 := by
  rw [List.count_eq_zero]
  intro member
  rw [issueIf] at member
  split at member
  · exact other (List.mem_singleton.mp member).symm
  · cases member

theorem duplicateScreenName_not_mem_stateIssues (name screen : String) (seen : List String)
    (bs : List StateBinding) : duplicateScreenName name ∉ stateIssues screen seen bs := by
  induction bs generalizing seen with
  | nil => exact List.not_mem_nil
  | cons b bs ih =>
    rw [stateIssues, List.mem_append, not_or]
    refine ⟨?_, ih _⟩
    split
    · simp
    · exact List.count_eq_zero.mp (count_issueIf (by simp))

variable {name : String} (some : name ≠ "")
include some

theorem count_duplicateScreenName_issues (index : Nat) (seen : List String) (s : Screen) :
    (s.issues index seen).count (duplicateScreenName name) =
      if s.name = name ∧ name ∈ seen then 1 else 0 := by
  have first : (if s.name.isEmpty then [emptyScreenName index]
      else issueIf (!isIdentifier s.name) (invalidScreenName s.name)).count
        (duplicateScreenName name) = 0 := by
    split
    · simp
    · exact count_issueIf (by simp)
  have path : (issueIf (Text.isBlankText s.path) (emptyScreenPath s.name)).count
      (duplicateScreenName name) = 0 := count_issueIf (by simp)
  have state := List.count_eq_zero.mpr
    (duplicateScreenName_not_mem_stateIssues name s.name [] s.state)
  rw [Screen.issues, List.count_append, List.count_append, List.count_append, first, path, state]
  by_cases same : s.name = name
  · subst same
    have filled : s.name.isEmpty = false := by
      simpa [String.isEmpty_iff] using some
    by_cases before : s.name ∈ seen
    · simp [issueIf, filled, before]
    · simp [issueIf, before]
  · have other : duplicateScreenName s.name ≠ duplicateScreenName name := by
      simpa using same
    simp [count_issueIf other, same]

/-- The screens of a name are reported, save for the first of them if the name is new. -/
theorem count_duplicateScreenName_screenIssues (index : Nat) (seen : List String)
    (ss : List Screen) :
    (screenIssues index seen ss).count (duplicateScreenName name) =
      (ss.map Screen.name).count name - if name ∈ seen then 0 else 1 := by
  induction ss generalizing index seen with
  | nil => simp [screenIssues]
  | cons s ss ih =>
    rw [screenIssues, List.count_append, count_duplicateScreenName_issues some, ih, List.map_cons,
      List.count_cons]
    by_cases same : s.name = name
    · by_cases before : name ∈ seen
      · simp [same, before, Nat.add_comm]
      · simp [same, before]
    · have apart : name ≠ s.name := fun h => same h.symm
      simp [same, apart]

end Issue

namespace AppSpecification

variable (spec : AppSpecification)

theorem warnings_validate :
    spec.validate.warnings = spec.screens.flatMap spec.targetIssues := by
  have issues : spec.validate.issues = spec.faults ++ spec.screens.flatMap spec.targetIssues := rfl
  have faults : spec.faults.filter (!·.isError) = [] := by
    rw [List.filter_eq_nil_iff]
    intro i member
    simp [spec.errors_faults i member]
  have others : (spec.screens.flatMap spec.targetIssues).filter (!·.isError) =
      spec.screens.flatMap spec.targetIssues := by
    rw [List.filter_eq_self]
    intro i member
    simp [isError_of_mem_warnings member]
  rw [Report.warnings, issues, List.filter_append, faults, others, List.nil_append]

theorem issues_eq_errors_append_warnings :
    spec.validate.issues = spec.validate.errors ++ spec.validate.warnings := by
  rw [errors_validate, warnings_validate]
  rfl

theorem count_duplicateScreenName {name : String} (some : name ≠ "") :
    spec.validate.issues.count (.duplicateScreenName name) =
      (spec.screens.map Screen.name).count name - 1 := by
  have appName : (issueIf (Text.isBlankText spec.appName) .emptyAppName).count
      (.duplicateScreenName name) = 0 := Issue.count_issueIf (by simp)
  have none : (issueIf spec.screens.isEmpty .noScreens).count (.duplicateScreenName name) = 0 :=
    Issue.count_issueIf (by simp)
  have warnings :
      (spec.screens.flatMap spec.targetIssues).count (.duplicateScreenName name) = 0 := by
    rw [List.count_eq_zero]
    intro member
    exact absurd (isError_of_mem_warnings member) (by simp [Issue.isError, Issue.severity])
  rw [validate, List.count_append, List.count_append, List.count_append, appName, none, warnings,
    Issue.count_duplicateScreenName_screenIssues some]
  simp

end AppSpecification

end AppScaffold
