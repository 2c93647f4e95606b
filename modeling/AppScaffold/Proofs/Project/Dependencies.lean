import AppScaffold.Proofs.Model.Decoding
import AppScaffold.Proofs.Project.Manifest
import AppScaffold.Proofs.Project.Shape
import AppScaffold.Proofs.Spec.Listing
import Mathlib.Logic.Relation

namespace AppScaffold

open Json Schema

theorem nodup_eraseDups (names : List String) : names.eraseDups.Nodup := by
  induction names using List.reverseRecOn with
  | nil => exact List.nodup_nil
  | append_singleton names name ih =>
    rw [eraseDups_concat]
    split
    · exact ih
    · rename_i absent
      rw [List.nodup_append]
      refine ⟨ih, List.nodup_singleton name, ?_⟩
      rintro a member b last rfl
      rw [List.mem_singleton.mp last, List.mem_eraseDups] at member
      exact absent member

theorem eraseDups_filter (p : String → Bool) (names : List String) :
    names.eraseDups.filter p = (names.filter p).eraseDups := by
  induction names using List.reverseRecOn with
  | nil => rfl
  | append_singleton names name ih =>
    rw [eraseDups_concat, List.filter_append]
    by_cases kept : p name = true
    · rw [List.filter_cons_of_pos kept, List.filter_nil, eraseDups_concat, ← ih]
      by_cases earlier : name ∈ names
      · simp [earlier, kept]
      · simp [earlier, kept]
    · rw [List.filter_cons_of_neg kept, List.filter_nil, List.append_nil, ← ih]
      split
      · rfl
      · simp [kept]

theorem NameSet.names_insertAll_eq (s : NameSet) (names : List String) :
    (s.insertAll names).names = (s.names ++ names).eraseDups := by
  induction names using List.reverseRecOn with
  | nil => rw [List.append_nil, eraseDups_of_nodup s.nodup]; rfl
  | append_singleton names name ih =>
    have last : s.insertAll (names ++ [name]) = (s.insertAll names).insert name :=
      List.foldl_append
    rw [last, ← List.append_assoc, eraseDups_concat, ← ih]
    by_cases earlier : name ∈ (s.insertAll names).names
    · have listed : name ∈ s.names ++ names := by rwa [ih, List.mem_eraseDups] at earlier
      rw [insert, dif_pos earlier, if_pos listed]
    · have unlisted : name ∉ s.names ++ names := by rwa [ih, List.mem_eraseDups] at earlier
      rw [names_insert_of_not_mem earlier, if_neg unlisted]

def ownPackages (names : List String) : List String :=
  (names.filter (· ∉ baselineDependencies)).eraseDups

def packageNames (names : List String) : List String := baselineDependencies ++ ownPackages names

theorem AppSpecification.dependencyNames_eq {spec : AppSpecification} {names : List String}
    (given : spec.dependencies = .ofList names) :
    spec.dependencyNames.names = packageNames names := by
  have distinct : baselineDependencies.Nodup := by
    decide
  have baseline : (NameSet.ofList baselineDependencies).names = baselineDependencies := by
    rw [NameSet.ofList, NameSet.names_insertAll_eq, NameSet.empty, List.nil_append,
      eraseDups_of_nodup distinct]
  have own : (NameSet.ofList names).names = names.eraseDups := by
    rw [NameSet.ofList, NameSet.names_insertAll_eq]
    rfl
  have others : (names.eraseDups.removeAll baselineDependencies) = ownPackages names := by
    rw [List.removeAll, eraseDups_filter, ownPackages]
    congr 2
    funext name
    simp
  have once : (ownPackages names).eraseDups = ownPackages names :=
    eraseDups_of_nodup (nodup_eraseDups _)
  rw [dependencyNames, given, NameSet.names_insertAll_eq, baseline, own, List.eraseDups_append,
    eraseDups_of_nodup distinct, others, once, packageNames]

/-- The second list repeats a name of the first, or has one more of the packages of every
project. -/
inductive Restates : List String → List String → Prop
  | again {names : List String} {name : String} (listed : name ∈ names) :
      Restates names (names ++ [name])
  | baseline (front back : List String) {name : String} (known : name ∈ baselineDependencies) :
      Restates (front ++ back) (front ++ name :: back)

theorem Restates.ownPackages_eq {names others : List String} (restates : Restates names others) :
    ownPackages others = ownPackages names := by
  cases restates with
  | @again _ name listed =>
    rw [ownPackages, List.filter_append]
    by_cases known : name ∈ baselineDependencies
    · simp [known, ownPackages]
    · have earlier : name ∈ names.filter (· ∉ baselineDependencies) := by simp [listed, known]
      rw [List.filter_cons_of_pos (by simpa using known), List.filter_nil, eraseDups_concat,
        if_pos earlier, ownPackages]
  | baseline front back known =>
    rw [ownPackages, ownPackages, List.filter_append, List.filter_append,
      List.filter_cons_of_neg (by simpa using known)]

theorem packageNames_of_restates {names others : List String}
    (restates : Relation.ReflTransGen Restates names others) :
    packageNames others = packageNames names := by
  induction restates with
  | refl => rfl
  | tail _ last ih => rw [← ih, packageNames, packageNames, last.ownPackages_eq]

namespace AppSpecification

/-- The manifest of the project lists the packages that these names call for, each once and all of
the version that the marker gives. -/
structure HasPackages (spec : AppSpecification) (names : List String) : Prop where
  listed : ∀ marker, (spec.packageManifest marker).at? ["dependencies"] =
    some (.object ((packageNames names).map fun name => (name, .string marker)))
  distinct : (packageNames names).Nodup
  file : ∀ options : GeneratorOptions, (options.generate spec).get? "package.json" =
    some ((spec.packageManifest options.versionMarker).pretty ++ "\n")

theorem hasPackages {spec : AppSpecification} {names : List String}
    (given : spec.dependencies = .ofList names) : spec.HasPackages names where
  listed marker := by
    simp [packageManifest, Value.at?, List.lookup_cons, dependencyNames_eq given]
  distinct := dependencyNames_eq given ▸ spec.dependencyNames.nodup
  file options := (options.shapes_generate spec).package

theorem get?_package_congr {spec other : AppSpecification} (name : other.appName = spec.appName)
    (packages : other.dependencyNames.names = spec.dependencyNames.names)
    (options : GeneratorOptions) :
    (options.generate other).get? "package.json" = (options.generate spec).get? "package.json" := by
  have same : other.packageManifest options.versionMarker =
      spec.packageManifest options.versionMarker := by
    rw [packageManifest, packageManifest, name, packages]
  rw [(options.shapes_generate other).package, (options.shapes_generate spec).package, packageText,
    packageText, same]

theorem ofForm_names (appName screens : Value) (names : List String) :
    (ofForm (.array [appName, .array (names.map .string), screens])).dependencies =
      .ofList names := by
  simp only [ofForm, Value.asItems, asText_strings]

/-- A decoded specification has the packages that the list in its document calls for. A document in
which that list repeats a name at its end, or has more of the packages of every project in it, is
decoded too, and leads to the same manifest. -/
theorem packages_of_decoded :
    (∀ document spec, ofValue document = .ok spec → ∃ names,
      document.dependencyNames? = some names ∧ spec.HasPackages names ∧
      ∀ others, Relation.ReflTransGen Restates names others →
        (document.withDependencies others).dependencyNames? = some others ∧
        ∃ same, ofValue (document.withDependencies others) = .ok same ∧
          ∀ options : GeneratorOptions, (options.generate same).get? "package.json" =
            (options.generate spec).get? "package.json") ∧
    ∀ text spec, parse text = .ok spec → ∃ form names,
      (Kind.record .specification).parse text = .ok form ∧ form.dependencyNames? = some names ∧
      spec.HasPackages names ∧
      ∀ document, Value.written text = .ok document → document.Distinct →
        ofValue document = .ok spec ∧ document.dependencyNames? = some names := by
  constructor
  · intro document spec decoded
    obtain ⟨form, fitted, rfl⟩ := map_eq_ok_iff.mp decoded
    have fits := mapError_eq_ok_iff.mp fitted
    obtain ⟨appName, screens, names, rfl, listed, replaced⟩ := fit_specification fits
    refine ⟨names, listed, hasPackages (ofForm_names _ _ _), fun others restates => ?_⟩
    obtain ⟨relisted, refits⟩ := replaced others
    refine ⟨relisted, _, map_eq_ok_iff.mpr ⟨_, mapError_eq_ok_iff.mpr refits, rfl⟩, ?_⟩
    refine get?_package_congr rfl ?_
    rw [dependencyNames_eq (ofForm_names _ _ others), dependencyNames_eq (ofForm_names _ _ names),
      packageNames_of_restates restates]
  · intro text spec decoded
    obtain ⟨form, parsed, rfl⟩ := map_eq_ok_iff.mp decoded
    obtain ⟨rest, taken, -⟩ := readDocument_eq_ok_iff.mp parsed
    obtain ⟨appName, screens, names, rfl⟩ := read_specification taken
    refine ⟨_, names, parsed, texts?_map names, hasPackages (ofForm_names _ _ _),
      fun document written distinct => ⟨?_, ?_⟩⟩
    · rw [← toOption_eq_some_iff, ← parse_toOption written distinct, decoded]
      rfl
    · have same := Kind.parse_toOption written distinct (.record .specification)
      rw [parsed] at same
      have fits := toOption_eq_some_iff.mp same.symm
      obtain ⟨_, _, others, form_eq, listed, -⟩ := fit_specification fits
      have lists := congrArg Value.dependencyNames? form_eq
      rwa [← (texts?_map names).symm.trans (lists.trans (texts?_map others))] at listed

def shopNames : List String := ["axios", "react", "axios", "date-fns", "react"]

def shopDocument : Value :=
  .object [("appName", .string "Shop"), ("screens", .array []), ("note", .null),
    ("dependencies", .array (shopNames.map .string))]

def shopText : String :=
  "\x7b\"appName\": \"Shop\", \"screens\": [], \"note\": null,\n" ++
    "\"dependencies\": [\"axios\", \"react\", \"axios\", \"date-fns\", \"react\"]\x7d\n"

def shop : AppSpecification :=
  { appName := "Shop", dependencies := .ofList shopNames, screens := [] }

theorem packages_of_shop :
    (ofValue shopDocument = .ok shop ∧ shopDocument.dependencyNames? = some shopNames ∧
      packageNames shopNames = baselineDependencies ++ ["axios", "date-fns"] ∧
      shop.HasPackages shopNames ∧
      ∃ same, ofValue (shopDocument.withDependencies
          ("expo" :: shopNames ++ ["date-fns"])) = .ok same ∧
        ∀ options : GeneratorOptions, (options.generate same).get? "package.json" =
          (options.generate shop).get? "package.json") ∧
    parse shopText = .ok shop ∧ ∃ form, (Kind.record .specification).parse shopText = .ok form ∧
      form.dependencyNames? = some shopNames := by
  have decoded : ofValue shopDocument = .ok shop := rfl
  have written : Value.written shopText = .ok shopDocument :=
    toOption_eq_some_iff.mp (by decide +kernel)
  have distinct : shopDocument.Distinct := by
    simp [shopDocument, shopNames, Value.Distinct, DistinctItems, DistinctMembers]
  have parsed : parse shopText = .ok shop := by
    rw [← toOption_eq_some_iff, parse_toOption written distinct, decoded]
    rfl
  have own : packageNames shopNames = baselineDependencies ++ ["axios", "date-fns"] := by
    decide
  have restates : Relation.ReflTransGen Restates shopNames ("expo" :: shopNames ++ ["date-fns"]) :=
    .tail (.single (.baseline [] shopNames (by decide))) (.again (by decide))
  obtain ⟨names, listed, packages, again⟩ := packages_of_decoded.1 shopDocument shop decoded
  obtain rfl : shopNames = names := Option.some.inj ((texts?_map shopNames).symm.trans listed)
  obtain ⟨form, others, read, stands, -, same⟩ := packages_of_decoded.2 shopText shop parsed
  obtain rfl : shopNames = others :=
    Option.some.inj (listed.symm.trans (same shopDocument written distinct).2)
  exact ⟨⟨decoded, listed, own, packages, (again _ restates).2⟩, parsed, form, read, stands⟩

end AppSpecification

end AppScaffold
