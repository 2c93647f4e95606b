import AppScaffold.Proofs.Spec.Walk

/-! The components of a forest under their addresses. A walk visits the addresses in the order of a
dictionary, so that a component comes before its children and siblings come in their order. The walk
over what is rendered leaves out what stands below a component that is no container. -/

namespace AppScaffold

/-- Where a component stands in a forest: the number of its tree, and the number of a child for
every step down. -/
abbrev Address := List Nat

def componentAt? (roots : List Component) : Address → Option Component
  | [] => none
  | [i] => roots[i]?
  | i :: j :: rest => roots[i]?.bind fun c => componentAt? c.children (j :: rest)

def ancestorsAt (roots : List Component) (address : Address) : List Component :=
  (List.range address.length).filterMap fun k => componentAt? roots (address.take k)

structure TreeNode where
  address : Address
  component : Component

def TreeNode.depth (n : TreeNode) : Nat := n.address.length - 1

mutual

def Component.nodes (extent : Extent) (address : Address) (c : Component) : List TreeNode :=
  match c with
  | { children, .. } =>
    ⟨address, c⟩ :: if extent.enters c then forestNodes extent address 0 children else []

def forestNodes (extent : Extent) (above : Address) (i : Nat) : List Component → List TreeNode
  | [] => []
  | c :: cs => c.nodes extent (above ++ [i]) ++ forestNodes extent above (i + 1) cs

end

def nodes (extent : Extent) (roots : List Component) : List TreeNode :=
  forestNodes extent [] 0 roots

variable {extent : Extent} {roots : List Component} {above address : Address} {n : TreeNode}

section Address

variable (r : Component) (rs : List Component)

theorem componentAt?_succ (k : Nat) (rest : Address) :
    componentAt? (r :: rs) ((k + 1) :: rest) = componentAt? rs (k :: rest) := by
  cases rest <;> simp [componentAt?]

theorem componentAt?_first (j : Nat) (rest : Address) :
    componentAt? (r :: rs) (0 :: j :: rest) = componentAt? r.children (j :: rest) := by
  simp [componentAt?]

theorem ancestorsAt_cons (i : Nat) (rest : Address) :
    ancestorsAt roots (i :: rest) =
      (List.range rest.length).filterMap fun k => componentAt? roots (i :: rest.take k) := by
  rw [ancestorsAt, List.length_cons, List.range_succ_eq_map, List.filterMap_cons,
    List.filterMap_map]
  rfl

theorem ancestorsAt_single (i : Nat) : ancestorsAt roots [i] = [] := by
  rw [ancestorsAt_cons]
  rfl

theorem ancestorsAt_succ (k : Nat) (rest : Address) :
    ancestorsAt (r :: rs) ((k + 1) :: rest) = ancestorsAt rs (k :: rest) := by
  simp only [ancestorsAt_cons, componentAt?_succ]

theorem ancestorsAt_first (j : Nat) (rest : Address) :
    ancestorsAt (r :: rs) (0 :: j :: rest) = r :: ancestorsAt r.children (j :: rest) := by
  rw [ancestorsAt_cons, ancestorsAt_cons, List.length_cons, List.range_succ_eq_map,
    List.filterMap_cons, List.filterMap_map]
  simp only [List.take_zero, Function.comp_def, Nat.succ_eq_add_one, List.take_succ_cons,
    componentAt?_first]
  rfl

end Address

theorem Component.nodes_eq (c : Component) :
    c.nodes extent address =
      ⟨address, c⟩ :: if extent.enters c then forestNodes extent address 0 c.children else [] := by
  cases c
  rw [nodes]

theorem Component.mem_nodes_iff {c : Component} :
    n ∈ c.nodes extent address ↔
      n = ⟨address, c⟩ ∨ extent.enters c = true ∧ n ∈ forestNodes extent address 0 c.children := by
  rw [c.nodes_eq, List.mem_cons]
  by_cases entered : extent.enters c = true <;> simp [entered]

theorem map_component_forestNodes (i : Nat) :
    (forestNodes extent above i roots).map TreeNode.component = walkForest extent roots := by
  induction roots using forest_induction generalizing above i with
  | nil => rfl
  | cons r rs below behind =>
    rw [forestNodes, walkForest, List.map_append, behind, r.nodes_eq, r.walk_eq, List.map_cons]
    split
    · rw [below]
    · rfl

theorem map_component_nodes (extent : Extent) (roots : List Component) :
    (nodes extent roots).map TreeNode.component = walkForest extent roots :=
  map_component_forestNodes 0

/-- The walk comes to the address, as it enters everything above it, and finds the component. -/
def Visits (extent : Extent) (roots : List Component) (address : Address) (c : Component) : Prop :=
  componentAt? roots address = some c ∧ ∀ a ∈ ancestorsAt roots address, extent.enters a = true

section Visits

variable {r c : Component} {rs : List Component} {k : Nat} {rest : Address}

theorem not_visits_of_nil : ¬ Visits extent [] address c := by
  rintro ⟨found, -⟩
  cases address with
  | nil => cases found
  | cons k rest => cases rest <;> simp [componentAt?] at found

theorem visits_root : Visits extent (r :: rs) [0] c ↔ c = r := by
  constructor
  · rintro ⟨found, -⟩
    exact (Option.some.inj found).symm
  · rintro rfl
    exact ⟨rfl, by simp [ancestorsAt_single]⟩

theorem visits_below :
    Visits extent (r :: rs) (0 :: k :: rest) c ↔
      extent.enters r = true ∧ Visits extent r.children (k :: rest) c := by
  rw [Visits, Visits, componentAt?_first, ancestorsAt_first, List.forall_mem_cons, and_left_comm]

theorem visits_behind :
    Visits extent (r :: rs) ((k + 1) :: rest) c ↔ Visits extent rs (k :: rest) c := by
  rw [Visits, Visits, componentAt?_succ, ancestorsAt_succ]

end Visits

theorem mem_forestNodes_iff {i : Nat} :
    n ∈ forestNodes extent above i roots ↔
      ∃ k rest, n.address = above ++ (i + k) :: rest ∧
        Visits extent roots (k :: rest) n.component := by
  induction roots using forest_induction generalizing above i with
  | nil =>
    constructor
    · nofun
    · rintro ⟨k, rest, -, visited⟩
      exact absurd visited not_visits_of_nil
  | cons r rs below behind =>
    rw [forestNodes, List.mem_append, Component.mem_nodes_iff, below, behind]
    constructor
    · rintro ((rfl | ⟨entered, k, rest, address, visited⟩) | ⟨k, rest, address, visited⟩)
      · exact ⟨0, [], rfl, visits_root.mpr rfl⟩
      · refine ⟨0, k :: rest, ?_, visits_below.mpr ⟨entered, visited⟩⟩
        rw [address, List.append_assoc, Nat.zero_add]
        rfl
      · refine ⟨k + 1, rest, ?_, visits_behind.mpr visited⟩
        rw [address, Nat.add_assoc, Nat.add_comm 1 k]
    · rintro ⟨k, rest, address, visited⟩
      -- the tree that the address leads into, and whether it ends at its root
      match k, rest with
      | 0, [] =>
        obtain ⟨place, c⟩ := n
        obtain rfl := visits_root.mp visited
        exact .inl (.inl (congrArg (TreeNode.mk · c) address))
      | 0, k :: rest =>
        obtain ⟨entered, visited⟩ := visits_below.mp visited
        refine .inl (.inr ⟨entered, k, rest, ?_, visited⟩)
        rw [address, List.append_assoc, Nat.zero_add]
        rfl
      | k + 1, rest =>
        refine .inr ⟨k, rest, ?_, visits_behind.mp visited⟩
        rw [address, Nat.add_assoc, Nat.add_comm 1 k]

theorem mem_nodes_iff : n ∈ nodes extent roots ↔ Visits extent roots n.address n.component := by
  rw [nodes, mem_forestNodes_iff]
  constructor
  · rintro ⟨k, rest, address, visited⟩
    rw [List.nil_append, Nat.zero_add] at address
    rwa [address]
  · intro visited
    cases address : n.address with
    | nil =>
      rw [address] at visited
      cases visited.1
    | cons k rest =>
      rw [address] at visited
      exact ⟨k, rest, by rw [List.nil_append, Nat.zero_add], visited⟩

theorem exists_address_of_mem {c : Component} (member : n ∈ c.nodes extent address) :
    ∃ rest, n.address = address ++ rest := by
  rcases Component.mem_nodes_iff.mp member with rfl | ⟨-, inside⟩
  · exact ⟨[], (List.append_nil _).symm⟩
  · obtain ⟨k, rest, place, -⟩ := mem_forestNodes_iff.mp inside
    exact ⟨(0 + k) :: rest, place⟩

theorem pairwise_forestNodes (i : Nat) :
    (forestNodes extent above i roots).Pairwise fun n m => n.address < m.address := by
  induction roots using forest_induction generalizing above i with
  | nil => exact .nil
  | cons r rs below behind =>
    rw [forestNodes, List.pairwise_append]
    refine ⟨?_, behind (i + 1), ?_⟩
    · rw [r.nodes_eq, List.pairwise_cons]
      split
      · refine ⟨?_, below 0⟩
        intro m member
        obtain ⟨k, rest, place, -⟩ := mem_forestNodes_iff.mp member
        have further : (above ++ [i]) ++ [] < (above ++ [i]) ++ (0 + k) :: rest :=
          List.append_left_lt (List.nil_lt_cons _ _)
        rwa [List.append_nil, ← place] at further
      · exact ⟨nofun, .nil⟩
    · intro n first m later
      obtain ⟨inner, place⟩ := exists_address_of_mem first
      obtain ⟨k, rest, behind, -⟩ := mem_forestNodes_iff.mp later
      rw [place, behind, List.append_assoc]
      apply List.append_left_lt
      rw [List.singleton_append, List.cons_lt_cons_iff]
      left
      omega

theorem pairwise_nodes (extent : Extent) (roots : List Component) :
    (nodes extent roots).Pairwise fun n m => n.address < m.address :=
  pairwise_forestNodes 0

theorem nodup_nodes (extent : Extent) (roots : List Component) : (nodes extent roots).Nodup := by
  apply (pairwise_nodes extent roots).imp
  intro n m before same
  rw [same] at before
  exact List.lt_irrefl _ before

/-- What is rendered is what stands below containers only. -/
theorem nodes_rendered (roots : List Component) :
    nodes .rendered roots = (nodes .everything roots).filter fun n =>
      (ancestorsAt roots n.address).all (·.kind.isContainer) := by
  have members : ∀ n, n ∈ nodes .rendered roots ↔
      n ∈ (nodes .everything roots).filter fun n =>
        (ancestorsAt roots n.address).all (·.kind.isContainer) := by
    intro n
    rw [List.mem_filter, mem_nodes_iff, mem_nodes_iff, List.all_eq_true]
    simp [Visits, Extent.enters]
  have perm := (List.perm_ext_iff_of_nodup (nodup_nodes .rendered roots)
    ((nodup_nodes .everything roots).filter _)).mpr members
  refine perm.eq_of_pairwise ?_ (pairwise_nodes .rendered roots)
    ((pairwise_nodes .everything roots).filter _)
  intro n m _ _ before behind
  exact absurd behind (List.lt_asymm before)

theorem length_walkForest_everything (roots : List Component) :
    (walkForest .everything roots).length = forestSize roots := by
  induction roots using forest_induction with
  | nil => rfl
  | cons r rs below behind =>
    rw [walkForest, List.length_append, r.walk_eq, List.length_cons, behind, forestSize, r.size_eq]
    simp [Extent.enters, below]

namespace Preorder

/-- The walk gives these components one after the other, and then none. -/
inductive Gives : Preorder → List Component → Prop
  | ended {p : Preorder} (last : p.next? = none) : p.Gives []
  | more {p q : Preorder} {c : Component} {cs : List Component} (next : p.next? = some (c, q))
      (rest : q.Gives cs) : p.Gives (c :: cs)

theorem gives_iff {p : Preorder} {cs : List Component} :
    p.Gives cs ↔ cs = walkForest p.extent p.pending := by
  constructor
  · intro gives
    induction gives with
    | ended last => rw [pending_of_next?_eq_none last, walkForest]
    | more next _ same => rw [(next?_eq_some next).walked, ← same]
  · rintro rfl
    -- Every step takes a component off what is pending, so the walk ends.
    generalize size : forestSize p.pending = fuel
    induction fuel using Nat.strongRecOn generalizing p with
    | _ fuel ih =>
      cases step : p.next? with
      | none =>
        rw [pending_of_next?_eq_none step, walkForest]
        exact .ended step
      | some found =>
        obtain ⟨c, q⟩ := found
        have taken := next?_eq_some step
        rw [taken.walked]
        exact .more step (ih _ (size ▸ taken.smaller) rfl)

/-- A walk over a forest comes to its end behind as many components as the forest has. It gives them
in the order of their addresses, each of them once; the walk over what is rendered gives those of
them that stand below containers only. A tree is walked like the forest that it makes up. -/
theorem gives_nodes (roots : List Component) :
    (∀ n, n ∈ nodes .everything roots ↔ componentAt? roots n.address = some n.component) ∧
      ((nodes .everything roots).Pairwise fun n m => n.address < m.address) ∧
      (nodes .everything roots).length = forestSize roots ∧
      (∀ cs, (ofForest .everything roots).Gives cs ↔
        cs = (nodes .everything roots).map TreeNode.component) ∧
      (∀ cs, (ofForest .rendered roots).Gives cs ↔
        cs = ((nodes .everything roots).filter fun n =>
          (ancestorsAt roots n.address).all (·.kind.isContainer)).map TreeNode.component) ∧
      (∀ extent, (ofForest extent roots).Gives (ofForest extent roots).toList) ∧
      ∀ extent c, ofTree extent c = ofForest extent [c] := by
  refine ⟨fun n => ?_, pairwise_nodes .everything roots, ?_, fun cs => ?_, fun cs => ?_,
    fun extent => ?_, fun extent c => rfl⟩
  · rw [mem_nodes_iff]
    simp [Visits, Extent.enters]
  · rw [← length_walkForest_everything, ← map_component_nodes, List.length_map]
  · rw [gives_iff, map_component_nodes]
    rfl
  · rw [gives_iff, ← nodes_rendered, map_component_nodes]
    rfl
  · rw [gives_iff, toList_ofForest]
    rfl

end Preorder

end AppScaffold
