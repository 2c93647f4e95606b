import AppScaffold.Spec.Validation

namespace AppScaffold

structure Screen.WellFormed (s : Screen) : Prop where
  name_identifier : isIdentifier s.name = true
  path_inked : Text.isBlankText s.path = false
  state_identifiers : ∀ b ∈ s.state, isIdentifier b.name = true
  state_nodup : (s.state.map StateBinding.name).Nodup

structure AppSpecification.WellFormed (spec : AppSpecification) : Prop where
  appName_inked : Text.isBlankText spec.appName = false
  screens_some : spec.screens ≠ []
  screens : ∀ s ∈ spec.screens, s.WellFormed
  names_nodup : (spec.screens.map Screen.name).Nodup

@[simp] theorem issueIf_eq_nil_iff {condition : Bool} {i : Issue} :
    issueIf condition i = [] ↔ condition = false := by
  cases condition <;> simp [issueIf]

theorem isIdentifier_iff {name : String} :
    isIdentifier name = true ↔ ∃ c cs, name.toList = c :: cs ∧ isIdentifierStart c = true ∧
      ∀ d ∈ cs, isIdentifierPart d = true := by
  rw [isIdentifier]
  cases name.toList with
  | nil => simp
  | cons c cs =>
    rw [Bool.and_eq_true, List.all_eq_true]
    constructor
    · exact fun parts => ⟨c, cs, rfl, parts⟩
    · rintro ⟨d, ds, same, parts⟩
      obtain ⟨rfl, rfl⟩ := List.cons.inj same
      exact parts

theorem isIdentifierPart_of_start {c : Char} (start : isIdentifierStart c = true) :
    isIdentifierPart c = true := by
  simp only [isIdentifierStart, isIdentifierPart, Char.isAlphanum, Bool.or_eq_true] at start ⊢
  rcases start with (letter | underscore) | dollar
  · exact .inl (.inl (.inl letter))
  · exact .inl (.inr underscore)
  · exact .inr dollar

section Identifier

variable {name : String} (identifier : isIdentifier name = true)
include identifier

theorem toList_ne_nil_of_isIdentifier : name.toList ≠ [] := by
  obtain ⟨c, cs, chars, -⟩ := isIdentifier_iff.mp identifier
  simp [chars]

theorem isIdentifierPart_of_mem {c : Char} (member : c ∈ name.toList) :
    isIdentifierPart c = true := by
  obtain ⟨d, ds, chars, start, parts⟩ := isIdentifier_iff.mp identifier
  rw [chars, List.mem_cons] at member
  rcases member with rfl | member
  · exact isIdentifierPart_of_start start
  · exact parts c member

theorem not_mem_of_isIdentifier {c : Char} (foreign : isIdentifierPart c = false) :
    c ∉ name.toList := by
  intro member
  rw [isIdentifierPart_of_mem identifier member] at foreign
  cases foreign

theorem isEmpty_of_isIdentifier : name.isEmpty = false := by
  have some := toList_ne_nil_of_isIdentifier identifier
  simpa [String.toList_eq_nil_iff] using some

end Identifier

/-- The names are pairwise distinct, and none of them is among those seen before. -/
def Fresh (seen names : List String) : Prop := names.Nodup ∧ ∀ n ∈ names, n ∉ seen

theorem fresh_nil_left {names : List String} : Fresh [] names ↔ names.Nodup := by
  simp [Fresh]

theorem fresh_nil_right (seen : List String) : Fresh seen [] := by
  simp [Fresh]

theorem fresh_cons {seen names : List String} {name : String} :
    Fresh seen (name :: names) ↔ name ∉ seen ∧ Fresh (name :: seen) names := by
  simp only [Fresh, List.nodup_cons, List.mem_cons, not_or]
  constructor
  · rintro ⟨⟨apart, nodup⟩, fresh⟩
    refine ⟨fresh name (.inl rfl), nodup, fun n member => ⟨?_, fresh n (.inr member)⟩⟩
    rintro rfl
    exact apart member
  · rintro ⟨first, nodup, fresh⟩
    refine ⟨⟨fun member => (fresh name member).1 rfl, nodup⟩, fun n member => ?_⟩
    rcases member with rfl | member
    · exact first
    · exact (fresh n member).2

theorem stateIssues_eq_nil_iff {screen : String} {seen : List String} {bs : List StateBinding} :
    stateIssues screen seen bs = [] ↔
      (∀ b ∈ bs, isIdentifier b.name = true) ∧ Fresh seen (bs.map StateBinding.name) := by
  induction bs generalizing seen with
  | nil => simp [stateIssues, fresh_nil_right]
  | cons b bs ih =>
    rw [stateIssues, List.append_eq_nil_iff, ih, List.map_cons, fresh_cons, List.forall_mem_cons]
    cases identifier : isIdentifier b.name with
    | false => simp
    | true => simp [and_left_comm]

theorem Screen.issues_eq_nil_iff {index : Nat} {seen : List String} {s : Screen} :
    s.issues index seen = [] ↔ s.WellFormed ∧ s.name ∉ seen := by
  rw [issues, List.append_eq_nil_iff, List.append_eq_nil_iff, List.append_eq_nil_iff,
    stateIssues_eq_nil_iff, fresh_nil_left]
  cases identifier : isIdentifier s.name with
  | false =>
    constructor
    · intro none
      have named := none.1.1.1
      split at named <;> simp at named
    · rintro ⟨wellFormed, -⟩
      rw [wellFormed.name_identifier] at identifier
      cases identifier
  | true =>
    simp only [isEmpty_of_isIdentifier identifier, Bool.not_true, Bool.not_false, Bool.true_and,
      Bool.false_eq_true, if_false, issueIf_eq_nil_iff, List.contains_eq_mem,
      decide_eq_false_iff_not, true_and]
    constructor
    · rintro ⟨⟨fresh, path⟩, identifiers, nodup⟩
      exact ⟨⟨identifier, path, identifiers, nodup⟩, fresh⟩
    · rintro ⟨⟨-, path, identifiers, nodup⟩, fresh⟩
      exact ⟨⟨fresh, path⟩, identifiers, nodup⟩

theorem screenIssues_eq_nil_iff {index : Nat} {seen : List String} {ss : List Screen} :
    screenIssues index seen ss = [] ↔
      (∀ s ∈ ss, s.WellFormed) ∧ Fresh seen (ss.map Screen.name) := by
  induction ss generalizing index seen with
  | nil => simp [screenIssues, fresh_nil_right]
  | cons s ss ih =>
    rw [screenIssues, List.append_eq_nil_iff, Screen.issues_eq_nil_iff, ih, List.map_cons,
      fresh_cons, List.forall_mem_cons]
    simp only [and_assoc, and_left_comm]

namespace Issue

def Errors (issues : List Issue) : Prop := ∀ i ∈ issues, i.isError = true

theorem Errors.append {first second : List Issue} (errors : Errors first)
    (others : Errors second) : Errors (first ++ second) := by
  intro i member
  rcases List.mem_append.mp member with member | member
  · exact errors i member
  · exact others i member

theorem errors_issueIf {condition : Bool} {i : Issue} (error : i.isError = true) :
    Errors (issueIf condition i) := by
  intro j member
  cases condition with
  | false => cases member
  | true =>
    rw [issueIf, if_pos rfl, List.mem_singleton] at member
    rw [member]
    exact error

theorem errors_stateIssues (screen : String) (seen : List String) (bs : List StateBinding) :
    Errors (stateIssues screen seen bs) := by
  induction bs generalizing seen with
  | nil => exact fun i member => nomatch member
  | cons b bs ih =>
    rw [stateIssues]
    apply Errors.append _ (ih _)
    split
    · simp [Errors, isError, severity]
    · exact errors_issueIf rfl

theorem errors_screenIssues (index : Nat) (seen : List String) (ss : List Screen) :
    Errors (screenIssues index seen ss) := by
  induction ss generalizing index seen with
  | nil => exact fun i member => nomatch member
  | cons s ss ih =>
    rw [screenIssues, Screen.issues]
    apply Errors.append _ (ih _ _)
    apply Errors.append _ (errors_stateIssues _ _ _)
    apply Errors.append _ (errors_issueIf rfl)
    apply Errors.append _ (errors_issueIf rfl)
    split
    · simp [Errors, isError, severity]
    · exact errors_issueIf rfl

end Issue

namespace Report

theorem isEmpty_errors (r : Report) : r.errors.isEmpty = r.isValid := by
  rw [Bool.eq_iff_iff, List.isEmpty_iff, errors, isValid, List.filter_eq_nil_iff,
    Bool.not_eq_true', List.any_eq_false]

theorem check_eq (r : Report) :
    r.check = if r.isValid then .ok () else .error (.invalid r.errors) := by
  rw [check, isEmpty_errors]

end Report

namespace AppSpecification

variable {spec : AppSpecification}

def faults (spec : AppSpecification) : List Issue :=
  issueIf (Text.isBlankText spec.appName) .emptyAppName ++
    issueIf spec.screens.isEmpty .noScreens ++ screenIssues 0 [] spec.screens

theorem faults_eq_nil_iff : spec.faults = [] ↔ spec.WellFormed := by
  rw [faults, List.append_eq_nil_iff, List.append_eq_nil_iff, issueIf_eq_nil_iff,
    issueIf_eq_nil_iff, screenIssues_eq_nil_iff, fresh_nil_left, List.isEmpty_eq_false_iff]
  constructor
  · rintro ⟨⟨appName, some⟩, screens, nodup⟩
    exact ⟨appName, some, screens, nodup⟩
  · rintro ⟨appName, some, screens, nodup⟩
    exact ⟨⟨appName, some⟩, screens, nodup⟩

theorem errors_faults (spec : AppSpecification) : Issue.Errors spec.faults := by
  apply Issue.Errors.append _ (Issue.errors_screenIssues _ _ _)
  exact (Issue.errors_issueIf rfl).append (Issue.errors_issueIf rfl)

theorem isError_targetIssues {s : Screen} {i : Issue} (member : i ∈ spec.targetIssues s) :
    i.isError = false := by
  obtain ⟨target, -, rfl⟩ := List.mem_map.mp member
  rfl

theorem isError_of_mem_warnings {i : Issue} (member : i ∈ spec.screens.flatMap spec.targetIssues) :
    i.isError = false := by
  obtain ⟨s, -, among⟩ := List.mem_flatMap.mp member
  exact isError_targetIssues among

theorem errors_validate (spec : AppSpecification) : spec.validate.errors = spec.faults := by
  have issues : spec.validate.issues = spec.faults ++ spec.screens.flatMap spec.targetIssues := rfl
  have faults : spec.faults.filter Issue.isError = spec.faults :=
    List.filter_eq_self.mpr spec.errors_faults
  have others : (spec.screens.flatMap spec.targetIssues).filter Issue.isError = [] := by
    rw [List.filter_eq_nil_iff]
    intro i member
    simp [isError_of_mem_warnings member]
  rw [Report.errors, issues, List.filter_append, faults, others, List.append_nil]

/-- Validation finds no error in the well-formed specifications, and in no others. -/
theorem isValid_iff : spec.validate.isValid = true ↔ spec.WellFormed := by
  rw [← Report.isEmpty_errors, errors_validate, List.isEmpty_iff, faults_eq_nil_iff]

/-- No button of the screen leads to a name that is no screen's. -/
def Reaches (spec : AppSpecification) (s : Screen) : Prop :=
  ∀ c ∈ s.walk, ∀ target, c.navigationTarget? = some target → ∃ r ∈ spec.screens, r.name = target

theorem targetIssues_eq_nil_iff {s : Screen} : spec.targetIssues s = [] ↔ spec.Reaches s := by
  simp only [targetIssues, List.map_eq_nil_iff, List.filter_eq_nil_iff, List.mem_filterMap,
    Reaches, forall_exists_index, and_imp, Option.isNone_iff_eq_none]
  have known : ∀ target, ¬ spec.screen? target = none ↔ ∃ r ∈ spec.screens, r.name = target := by
    intro target
    simp [screen?]
  constructor
  · intro found c member target leads
    exact (known target).mp (found target c member leads)
  · intro reaches target c member leads
    exact (known target).mpr (reaches c member target leads)

theorem issues_eq_nil_iff :
    spec.validate.issues = [] ↔ spec.WellFormed ∧ ∀ s ∈ spec.screens, spec.Reaches s := by
  have issues : spec.validate.issues = spec.faults ++ spec.screens.flatMap spec.targetIssues := rfl
  rw [issues, List.append_eq_nil_iff, faults_eq_nil_iff, List.flatMap_eq_nil_iff]
  simp only [targetIssues_eq_nil_iff]

end AppSpecification

end AppScaffold
