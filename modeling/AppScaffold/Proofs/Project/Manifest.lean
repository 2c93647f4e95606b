import AppScaffold.Project.Manifest
import AppScaffold.Proofs.Spec.Validity
import AppScaffold.Proofs.Text.Lower
import AppScaffold.Proofs.Text.Words

namespace AppScaffold

open Json Text

/-- What stands in an object under a row of keys, each inside the one before it. -/
def Json.Value.at? (v : Value) : List String → Option Value
  | [] => some v
  | key :: keys =>
    match v with
    | .object members => (members.lookup key).bind (·.at? keys)
    | _ => none

theorem inked_slug (name : String) : ∀ c ∈ (slug name).toList, isBlank c = false := by
  intro c member
  rw [Bool.eq_false_iff]
  intro blank
  rcases mem_intercalate (mem_of_isBlank_of_mem_lower member blank) with hyphen | ⟨w, word, inside⟩
  · obtain rfl : c = '-' := by simpa using hyphen
    cases blank
  · rw [(inked_of_mem_words word).2 c inside] at blank
    cases blank

theorem slug_eq_empty_iff {name : String} : slug name = "" ↔ isBlankText name = true := by
  rw [slug, lower_eq_empty_iff, intercalate_eq_empty_iff fun w word => (inked_of_mem_words word).1,
    words_eq_nil_iff]

theorem slug_of_inked {s : String} (inked : ∀ c ∈ s.toList, isBlank c = false) :
    slug s = lower s := by
  rw [slug, words_of_inked inked]
  split
  · rename_i empty
    rw [empty]
    rfl
  · simp

theorem slug_slug (name : String) : slug (slug name) = slug name := by
  rw [slug_of_inked (inked_slug name), slug, lower_lower]

namespace AppSpecification

theorem at?_name_packageManifest (spec : AppSpecification) (marker : String) :
    (spec.packageManifest marker).at? ["name"] = some (.string (slug spec.appName)) := by
  simp [packageManifest, Value.at?]

theorem at?_slug_appManifest (spec : AppSpecification) :
    spec.appManifest.at? ["expo", "slug"] = some (.string (slug spec.appName)) := by
  simp [appManifest, Value.at?, List.lookup_cons]

/-- Package names are canonical: they have no blanks, are their own package names, depend on the
words of a name only, and are empty for blank names only. The manifests of a valid specification
give one and the same package name, which is not empty. -/
theorem slug_canonical :
    (∀ name, (∀ c ∈ (slug name).toList, isBlank c = false) ∧ slug (slug name) = slug name ∧
      (∀ other, words other = words name → slug other = slug name) ∧
      (slug name = "" ↔ isBlankText name = true)) ∧
    ∀ spec : AppSpecification, spec.validate.isValid = true → ∀ marker,
      ∃ s, (spec.packageManifest marker).at? ["name"] = some (.string s) ∧
        spec.appManifest.at? ["expo", "slug"] = some (.string s) ∧ s ≠ "" ∧
        ∀ c ∈ s.toList, isBlank c = false := by
  refine ⟨fun name => ⟨inked_slug name, slug_slug name, fun other same => ?_, slug_eq_empty_iff⟩,
    fun spec valid marker => ?_⟩
  · rw [slug, slug, same]
  · refine ⟨slug spec.appName, spec.at?_name_packageManifest marker, spec.at?_slug_appManifest,
      fun empty => ?_, inked_slug spec.appName⟩
    have inked := (isValid_iff.mp valid).appName_inked
    rw [slug_eq_empty_iff.mp empty] at inked
    cases inked

def spacedApp : AppSpecification where
  appName := " \tCafé\u3000ΟΔΟΣ \n"
  screens := [{ name := "Home", path := "/" }]

theorem slug_spacedApp :
    (slug spacedApp.appName = "café-οδος" ∧ slug "café-οδος" = "café-οδος") ∧
      spacedApp.validate.isValid = true ∧
      ∃ s, (spacedApp.packageManifest "*").at? ["name"] = some (.string s) ∧
        spacedApp.appManifest.at? ["expo", "slug"] = some (.string s) ∧ s ≠ "" ∧
        ∀ c ∈ s.toList, isBlank c = false := by
  have slug_eq : slug spacedApp.appName = "café-οδος" := by
    decide +kernel
  have valid : spacedApp.validate.isValid = true := by
    decide +kernel
  have again := (slug_canonical.1 spacedApp.appName).2.1
  rw [slug_eq] at again
  exact ⟨⟨slug_eq, again⟩, valid, slug_canonical.2 spacedApp valid "*"⟩

end AppSpecification

end AppScaffold
