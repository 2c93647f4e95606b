import AppScaffold.Spec.Specification

namespace AppScaffold

variable {extent : Extent}

theorem walkForest_append (first second : List Component) :
    walkForest extent (first ++ second) = walkForest extent first ++ walkForest extent second := by
  induction first with
  | nil => rfl
  | cons c cs ih =>
    rw [List.cons_append, walkForest, walkForest, ih, List.append_assoc]

theorem forestSize_append (first second : List Component) :
    forestSize (first ++ second) = forestSize first + forestSize second := by
  induction first with
  | nil => simp [forestSize]
  | cons c cs ih =>
    rw [List.cons_append, forestSize, forestSize, ih, Nat.add_assoc]

theorem Component.size_eq (c : Component) : c.size = forestSize c.children + 1 := by
  cases c
  rw [Component.size]

theorem Component.walk_eq (c : Component) :
    c.walk extent = c :: walkForest extent (if extent.enters c then c.children else []) := by
  cases c with
  | mk kind content navigateTo onPress placeholder value onChangeText source alt children =>
    rw [Component.walk]
    split <;> rfl

/-- The component stands in the forest below the ancestors, the nearest one first. -/
inductive Stands (roots : List Component) : List Component → Component → Prop
  | root {c : Component} (member : c ∈ roots) : Stands roots [] c
  | child {ancestors : List Component} {parent c : Component} (above : Stands roots ancestors parent)
      (member : c ∈ parent.children) : Stands roots (parent :: ancestors) c

theorem Stands.of_children {roots ancestors : List Component} {parent c : Component}
    (stands : Stands parent.children ancestors c) (root : parent ∈ roots) :
    Stands roots (ancestors ++ [parent]) c := by
  induction stands with
  | root member => exact .child (.root root) member
  | child _ member ih => exact .child ih member

theorem Stands.mono {roots more ancestors : List Component} {c : Component}
    (stands : Stands roots ancestors c) (subset : ∀ r ∈ roots, r ∈ more) :
    Stands more ancestors c := by
  induction stands with
  | root member => exact .root (subset _ member)
  | child _ member ih => exact .child ih member

theorem mem_walkForest_cons {r c : Component} {rs : List Component} :
    c ∈ walkForest extent (r :: rs) ↔
      (c = r ∨ extent.enters r = true ∧ c ∈ walkForest extent r.children) ∨
        c ∈ walkForest extent rs := by
  rw [walkForest, List.mem_append, r.walk_eq, List.mem_cons]
  by_cases entered : extent.enters r = true
  · simp [entered]
  · simp [entered, walkForest]

theorem mem_walkForest_of_mem {c : Component} {roots : List Component} (member : c ∈ roots) :
    c ∈ walkForest extent roots := by
  induction roots with
  | nil => cases member
  | cons r rs ih =>
    rcases List.mem_cons.mp member with rfl | later
    · exact mem_walkForest_cons.mpr (.inl (.inl rfl))
    · exact mem_walkForest_cons.mpr (.inr (ih later))

/-- Trees are taken apart by their first root; its children are the smaller forest. -/
theorem forest_induction {motive : List Component → Prop} (nil : motive [])
    (cons : ∀ r rs, motive r.children → motive rs → motive (r :: rs)) (roots : List Component) :
    motive roots := by
  generalize size : forestSize roots = n
  induction n using Nat.strongRecOn generalizing roots with
  | _ n ih =>
    cases roots with
    | nil => exact nil
    | cons r rs =>
      rw [forestSize, r.size_eq] at size
      exact cons r rs (ih _ (by omega) _ rfl) (ih _ (by omega) _ rfl)

theorem walkForest_rendered_sublist (roots : List Component) :
    (walkForest .rendered roots).Sublist (walkForest .everything roots) := by
  induction roots using forest_induction with
  | nil => exact List.Sublist.refl []
  | cons r rs below behind =>
    rw [walkForest, walkForest, r.walk_eq, r.walk_eq]
    apply (List.Sublist.cons_cons r _).append behind
    cases container : r.kind.isContainer with
    | true => simpa [Extent.enters, container] using below
    | false => simp [Extent.enters, container, walkForest]

theorem walkForest_rendered_of_bare {roots : List Component}
    (bare : ∀ c ∈ walkForest .everything roots, c.kind.isContainer = false → c.children = []) :
    walkForest .rendered roots = walkForest .everything roots := by
  induction roots using forest_induction with
  | nil => rfl
  | cons r rs below behind =>
    rw [walkForest, List.forall_mem_append, r.walk_eq, List.forall_mem_cons] at bare
    obtain ⟨⟨leaf, inner⟩, later⟩ := bare
    rw [walkForest, walkForest, behind later, r.walk_eq, r.walk_eq]
    cases container : r.kind.isContainer with
    | true => simpa [Extent.enters, container] using below inner
    | false => simp [Extent.enters, leaf container, walkForest]

theorem mem_walkForest_of_child {roots : List Component} {parent c : Component}
    (walked : parent ∈ walkForest extent roots) (entered : extent.enters parent = true)
    (member : c ∈ parent.children) : c ∈ walkForest extent roots := by
  induction roots using forest_induction with
  | nil => cases walked
  | cons r rs below behind =>
    rcases mem_walkForest_cons.mp walked with (rfl | ⟨enters, inside⟩) | later
    · exact mem_walkForest_cons.mpr (.inl (.inr ⟨entered, mem_walkForest_of_mem member⟩))
    · exact mem_walkForest_cons.mpr (.inl (.inr ⟨enters, below inside⟩))
    · exact mem_walkForest_cons.mpr (.inr (behind later))

/-- A component is walked exactly where the walk enters all its ancestors. -/
theorem mem_walkForest_iff {roots : List Component} {c : Component} :
    c ∈ walkForest extent roots ↔
      ∃ ancestors, Stands roots ancestors c ∧ ∀ a ∈ ancestors, extent.enters a = true := by
  constructor
  · intro walked
    induction roots using forest_induction with
    | nil => cases walked
    | cons r rs below behind =>
      rcases mem_walkForest_cons.mp walked with (rfl | ⟨enters, inside⟩) | later
      · exact ⟨[], .root List.mem_cons_self, by simp⟩
      · obtain ⟨ancestors, stands, entered⟩ := below inside
        refine ⟨ancestors ++ [r], stands.of_children List.mem_cons_self, fun a member => ?_⟩
        rcases List.mem_append.mp member with inner | outer
        · exact entered a inner
        · exact List.mem_singleton.mp outer ▸ enters
      · obtain ⟨ancestors, stands, entered⟩ := behind later
        exact ⟨ancestors, stands.mono fun s => List.mem_cons_of_mem r, entered⟩
  · rintro ⟨ancestors, stands, entered⟩
    induction stands with
    | root member => exact mem_walkForest_of_mem member
    | child _ member ih =>
      obtain ⟨parent, above⟩ := List.forall_mem_cons.mp entered
      exact mem_walkForest_of_child (ih above) parent member

namespace Preorder

/-- A step of a walk gives the next component and leaves a smaller forest to walk. -/
structure Takes (p : Preorder) (c : Component) (q : Preorder) : Prop where
  walked : walkForest p.extent p.pending = c :: walkForest q.extent q.pending
  extent_eq : q.extent = p.extent
  smaller : forestSize q.pending < forestSize p.pending

theorem pending_of_next?_eq_none {p : Preorder} (last : p.next? = none) : p.pending = [] := by
  rw [next?] at last
  split at last
  · assumption
  · cases last

theorem next?_eq_some {p q : Preorder} {c : Component} (next : p.next? = some (c, q)) :
    p.Takes c q := by
  obtain ⟨pending, extent⟩ := p
  cases pending with
  | nil => cases next
  | cons r rest =>
    obtain ⟨rfl, rfl⟩ := Prod.mk.inj (Option.some.inj next)
    have entered : forestSize (if extent.enters r then r.children else []) ≤
        forestSize r.children := by
      split
      · exact Nat.le_refl _
      · exact Nat.zero_le _
    constructor
    · -- The children stand before the rest, as if all of them were roots of one forest.
      rw [walkForest, r.walk_eq, List.cons_append, ← walkForest_append]
    · rfl
    · show forestSize ((if extent.enters r then r.children else []) ++ rest) < _
      rw [forestSize_append, forestSize, r.size_eq]
      omega

theorem take_eq_walkForest {fuel : Nat} {p : Preorder} (enough : forestSize p.pending ≤ fuel) :
    p.take fuel = walkForest p.extent p.pending := by
  induction fuel generalizing p with
  | zero =>
    cases step : p.next? with
    | none => rw [pending_of_next?_eq_none step, walkForest, take]
    | some found =>
      have smaller := (next?_eq_some step).smaller
      omega
  | succ fuel ih =>
    rw [take]
    cases step : p.next? with
    | none => rw [pending_of_next?_eq_none step, walkForest]
    | some found =>
      have taken := next?_eq_some step
      have fits : forestSize found.2.pending ≤ fuel := by
        have smaller := taken.smaller
        omega
      rw [taken.walked, ← ih fits]

theorem toList_ofForest (roots : List Component) :
    (ofForest extent roots).toList = walkForest extent roots :=
  take_eq_walkForest (Nat.le_refl _)

end Preorder

theorem Screen.walk_eq (s : Screen) : s.walk = walkForest .everything s.components :=
  Preorder.toList_ofForest s.components

theorem Screen.walkRendered_eq (s : Screen) :
    s.walkRendered = walkForest .rendered s.components :=
  Preorder.toList_ofForest s.components

theorem Screen.walkRendered_sublist (s : Screen) : s.walkRendered.Sublist s.walk := by
  rw [s.walkRendered_eq, s.walk_eq]
  exact walkForest_rendered_sublist s.components

end AppScaffold
