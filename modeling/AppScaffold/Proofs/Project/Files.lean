import AppScaffold.Project.Files
import Mathlib.Data.List.Basic
import Mathlib.Data.List.Induction

namespace AppScaffold

open Json

theorem lookup_setMember {α : Type} (key k : String) (v : α) (members : List (String × α)) :
    (setMember key v members).lookup k = if k = key then some v else members.lookup k := by
  induction members with
  | nil =>
    rw [setMember, List.lookup_cons]
    by_cases same : k = key
    · simp [same]
    · simp [same, beq_eq_false_iff_ne.mpr same]
  | cons m ms ih =>
    obtain ⟨l, w⟩ := m
    rw [setMember, List.lookup_cons]
    by_cases first : l = key
    · subst first
      rw [if_pos rfl, List.lookup_cons]
      by_cases same : k = l
      · simp [same]
      · simp [same, beq_eq_false_iff_ne.mpr same]
    · rw [if_neg first, List.lookup_cons, ih]
      by_cases same : k = l
      · subst same
        simp [first]
      · simp [beq_eq_false_iff_ne.mpr same]

theorem map_fst_setMember {α : Type} (key : String) (v : α) (members : List (String × α)) :
    (setMember key v members).map Prod.fst =
      if key ∈ members.map Prod.fst then members.map Prod.fst
      else members.map Prod.fst ++ [key] := by
  induction members with
  | nil => simp [setMember]
  | cons m ms ih =>
    obtain ⟨l, w⟩ := m
    rw [setMember]
    by_cases first : l = key
    · subst first
      simp
    · rw [if_neg first, List.map_cons, ih]
      have other : key ≠ l := Ne.symm first
      by_cases later : key ∈ ms.map Prod.fst <;> simp [later, other]

section Names

variable {α β : Type} [BEq α] [LawfulBEq α] [BEq β] [LawfulBEq β]

theorem eraseDups_concat (as : List α) (a : α) :
    (as ++ [a]).eraseDups = if a ∈ as then as.eraseDups else as.eraseDups ++ [a] := by
  rw [List.eraseDups_append]
  by_cases earlier : a ∈ as <;> simp [List.removeAll, earlier, List.eraseDups_cons]

theorem eraseDups_of_nodup {as : List α} (nodup : as.Nodup) : as.eraseDups = as := by
  induction as using List.reverseRecOn with
  | nil => rfl
  | append_singleton as a ih =>
    obtain ⟨first, -, apart⟩ := List.nodup_append.mp nodup
    have absent : a ∉ as := fun member => apart a member a (List.mem_singleton_self a) rfl
    rw [eraseDups_concat, if_neg absent, ih first]

theorem eraseDups_append_of_disjoint {as bs : List α} (disjoint : ∀ b ∈ bs, b ∉ as) :
    (as ++ bs).eraseDups = as.eraseDups ++ bs.eraseDups := by
  have kept : bs.removeAll as = bs := by
    apply List.filter_eq_self.mpr
    intro b member
    simpa using disjoint b member
  rw [List.eraseDups_append, kept]

theorem eraseDups_map {f : α → β} (injective : Function.Injective f) (as : List α) :
    (as.map f).eraseDups = as.eraseDups.map f := by
  induction as using List.reverseRecOn with
  | nil => rfl
  | append_singleton as a ih =>
    simp only [List.map_append, List.map_singleton, eraseDups_concat, ih,
      List.mem_map_of_injective injective]
    split
    · rfl
    · rw [List.map_append, List.map_singleton]

end Names

namespace Project

theorem get?_insert (p : Project) (path content q : String) :
    (p.insert path content).get? q = if q = path then some content else p.get? q :=
  lookup_setMember path q content p.files

theorem ofList_concat (files : List (String × String)) (file : String × String) :
    ofList (files ++ [file]) = (ofList files).insert file.1 file.2 :=
  List.foldl_append

theorem paths_ofList (files : List (String × String)) :
    (ofList files).paths = (files.map Prod.fst).eraseDups := by
  induction files using List.reverseRecOn with
  | nil => rfl
  | append_singleton files file ih =>
    rw [paths] at ih
    simp only [ofList_concat, insert, paths, map_fst_setMember, List.map_append, List.map_singleton,
      eraseDups_concat, ih, List.mem_eraseDups]

/-- The content of a path is the last that was put in under it. -/
theorem get?_ofList_eq (files : List (String × String)) (path : String) :
    (ofList files).get? path = (files.reverse.find? (·.1 == path)).map Prod.snd := by
  induction files using List.reverseRecOn with
  | nil => rfl
  | append_singleton files file ih =>
    rw [ofList_concat, get?_insert, List.reverse_append, List.reverse_singleton,
      List.singleton_append, List.find?_cons]
    by_cases last : path = file.1
    · simp [last]
    · have other : (file.1 == path) = false := beq_eq_false_iff_ne.mpr (Ne.symm last)
      rw [if_neg last, other, ih]

theorem get?_ofList {files : List (String × String)} {path content : String}
    (member : (path, content) ∈ files) (alone : ∀ c, (path, c) ∈ files → c = content) :
    (ofList files).get? path = some content := by
  induction files using List.reverseRecOn with
  | nil => cases member
  | append_singleton files file ih =>
    rw [ofList_concat, get?_insert]
    by_cases last : path = file.1
    · rw [if_pos last]
      have same : (path, file.2) ∈ files ++ [file] := by simp [last]
      rw [alone file.2 same]
    · rw [if_neg last]
      apply ih
      · rcases List.mem_append.mp member with earlier | here
        · exact earlier
        · exact absurd (congrArg Prod.fst (List.mem_singleton.mp here)) last
      · exact fun c earlier => alone c (List.mem_append_left _ earlier)

end Project

end AppScaffold
