import AppScaffold.Proofs.Markup.Indentation
import AppScaffold.Proofs.Screen.Placement
import AppScaffold.Proofs.Spec.Nodes

/-! The places of rendered components in the module of their screen. Every component has a block of
rows there, and the blocks are nested as the components are: a block encloses those of everything
below its component, and the blocks of two components that stand apart follow one another in the
order of the walk. Blocks are told apart by where they start, so that components which are rendered
alike still have a block each. -/

namespace AppScaffold

open Markup Text

def Component.rows (level : Nat) (c : Component) : List (List Char) := Text.rows (c.render level)

def forestRows (level : Nat) (cs : List Component) : List (List Char) := cs.flatMap (·.rows level)

theorem flatMap_rows_forestLines (level : Nat) (cs : List Component) :
    (forestLines level (forestElements cs)).flatMap Text.rows = forestRows level cs := by
  induction cs with
  | nil => rfl
  | cons c cs ih =>
    rw [forestElements, forestLines, List.flatMap_append, ih,
      ← rows_unlines (c.element.lines_ne_nil level)]
    rfl

theorem Component.rows_of_container {c : Component} (container : c.kind.isContainer = true)
    (some : c.children ≠ []) (level : Nat) :
    ∃ first last, c.rows level =
      Text.rows first ++ forestRows (level + 1) c.children ++ Text.rows last := by
  obtain ⟨tag, attributes, element⟩ := elementAround_of_container container
  have more : (forestElements c.children).isEmpty = false := by
    cases children : c.children with
    | nil => exact absurd children some
    | cons _ _ => rfl
  refine ⟨indent level ++ openTag tag attributes, indent level ++ closeTag tag, ?_⟩
  rw [rows, render, rows_unlines (c.element.lines_ne_nil level), c.element_eq, element,
    Element.lines, more, if_neg Bool.false_ne_true, enclosed, List.flatMap_append,
    List.flatMap_cons, flatMap_rows_forestLines, List.flatMap_singleton]

/-- A node of a screen's forest, and the number of the row that its markup starts in. -/
structure Block where
  node : TreeNode
  top : Nat

namespace Block

def rows (b : Block) : List (List Char) := b.node.component.rows (4 + b.node.depth)

def bottom (b : Block) : Nat := b.top + b.rows.length

/-- There are rows of the outer block above the inner one and below it. -/
def Encloses (a b : Block) : Prop := a.top < b.top ∧ b.bottom < a.bottom

def Precedes (a b : Block) : Prop := a.bottom ≤ b.top

def down (n : Nat) (b : Block) : Block := { b with top := n + b.top }

variable {n : Nat} {a b : Block}

@[simp] theorem node_down : (b.down n).node = b.node := rfl
@[simp] theorem top_down : (b.down n).top = n + b.top := rfl
@[simp] theorem rows_down : (b.down n).rows = b.rows := rfl
@[simp] theorem bottom_down : (b.down n).bottom = n + b.bottom := Nat.add_assoc n b.top _

@[simp] theorem node_comp_down : node ∘ down n = node := rfl

theorem encloses_down : (a.down n).Encloses (b.down n) ↔ a.Encloses b := by
  simp [Encloses]

theorem precedes_down : (a.down n).Precedes (b.down n) ↔ a.Precedes b := by
  simp [Precedes]

theorem length_rows_pos (b : Block) : 0 < b.rows.length :=
  List.length_pos_iff.mpr (rows_ne_nil _)

/-- How two blocks stand to each other, the first of which belongs to the earlier component. -/
def Arranged (a b : Block) : Prop :=
  if a.node.address <+: b.node.address then a.Encloses b else a.Precedes b

theorem arranged_down : (a.down n).Arranged (b.down n) ↔ a.Arranged b := by
  rw [Arranged, Arranged, node_down, node_down, encloses_down, precedes_down]

end Block

/-- The blocks are found in the rows of a text, nested as their nodes are. -/
structure Laid (whole : List (List Char)) (bs : List Block) : Prop where
  stands : ∀ b ∈ bs, b.rows <+: whole.drop b.top
  arranged : bs.Pairwise Block.Arranged

namespace Laid

variable {whole more : List (List Char)} {bs cs : List Block} {b : Block}

theorem nil (whole : List (List Char)) : Laid whole [] := ⟨nofun, .nil⟩

theorem single {whole : List (List Char)} {n : TreeNode} (rows : (Block.mk n 0).rows = whole) :
    Laid whole [⟨n, 0⟩] where
  stands := by
    rw [List.forall_mem_singleton, rows]
    exact List.prefix_rfl
  arranged := List.pairwise_singleton _ _

theorem bottom_le (laid : Laid whole bs) (member : b ∈ bs) : b.bottom ≤ whole.length := by
  have fits := (laid.stands b member).length_le
  have some := b.length_rows_pos
  rw [List.length_drop] at fits
  rw [Block.bottom]
  omega

theorem extend (laid : Laid whole bs) (back : List (List Char)) : Laid (whole ++ back) bs where
  stands b member := by
    rw [List.drop_append]
    exact (laid.stands b member).trans (List.prefix_append _ _)
  arranged := laid.arranged

theorem down (laid : Laid whole bs) (front : List (List Char)) :
    Laid (front ++ whole) (bs.map (Block.down front.length)) where
  stands := by
    rw [List.forall_mem_map]
    intro b member
    rw [Block.rows_down, Block.top_down, List.drop_length_add_append]
    exact laid.stands b member
  arranged := by
    rw [List.pairwise_map]
    exact laid.arranged.imp Block.arranged_down.mpr

theorem append (laid : Laid whole bs) (later : Laid more cs)
    (apart : ∀ b ∈ bs, ∀ c ∈ cs, ¬ b.node.address <+: c.node.address) :
    Laid (whole ++ more) (bs ++ cs.map (Block.down whole.length)) where
  stands := by
    rw [List.forall_mem_append]
    exact ⟨(laid.extend more).stands, (later.down whole).stands⟩
  arranged := by
    rw [List.pairwise_append]
    refine ⟨laid.arranged, (later.down whole).arranged, ?_⟩
    intro b first c behind
    obtain ⟨c, second, rfl⟩ := List.mem_map.mp behind
    have above := laid.bottom_le first
    rw [Block.Arranged, Block.node_down, if_neg (apart b first c second), Block.Precedes,
      Block.top_down]
    omega

theorem around (laid : Laid whole bs) {n : TreeNode} {front back : List (List Char)}
    (rows : (Block.mk n 0).rows = front ++ whole ++ back) (above : front ≠ []) (behind : back ≠ [])
    (below : ∀ b ∈ bs, n.address <+: b.node.address) :
    Laid (front ++ whole ++ back) (⟨n, 0⟩ :: bs.map (Block.down front.length)) where
  stands := by
    rw [List.forall_mem_cons, rows]
    exact ⟨List.prefix_rfl, ((laid.down front).extend back).stands⟩
  arranged := by
    rw [List.pairwise_cons, List.forall_mem_map]
    refine ⟨?_, (laid.down front).arranged⟩
    intro b member
    have inside := laid.bottom_le member
    have opened := List.length_pos_iff.mpr above
    have closed := List.length_pos_iff.mpr behind
    have height : (Block.mk n 0).bottom = front.length + whole.length + back.length := by
      rw [Block.bottom, rows, Nat.zero_add, List.length_append, List.length_append]
    rw [Block.Arranged, Block.node_down, if_pos (below b member)]
    constructor
    · show 0 < front.length + b.top
      omega
    · rw [Block.bottom_down, height]
      omega

end Laid

def Places (whole : List (List Char)) (ns : List TreeNode) : Prop :=
  ∃ bs : List Block, bs.map Block.node = ns ∧ Laid whole bs

namespace Places

variable {whole more : List (List Char)} {ns ms : List TreeNode}

theorem extend (places : Places whole ns) (back : List (List Char)) :
    Places (whole ++ back) ns := by
  obtain ⟨bs, nodes, laid⟩ := places
  exact ⟨bs, nodes, laid.extend back⟩

theorem down (places : Places whole ns) (front : List (List Char)) :
    Places (front ++ whole) ns := by
  obtain ⟨bs, rfl, laid⟩ := places
  refine ⟨bs.map (Block.down front.length), ?_, laid.down front⟩
  rw [List.map_map, Block.node_comp_down]

theorem append (places : Places whole ns) (later : Places more ms)
    (apart : ∀ n ∈ ns, ∀ m ∈ ms, ¬ n.address <+: m.address) :
    Places (whole ++ more) (ns ++ ms) := by
  obtain ⟨bs, rfl, laid⟩ := places
  obtain ⟨cs, rfl, behind⟩ := later
  rw [List.forall_mem_map] at apart
  refine ⟨bs ++ cs.map (Block.down whole.length), ?_, laid.append behind ?_⟩
  · rw [List.map_append, List.map_map, Block.node_comp_down]
  · intro b first c second
    exact apart b first c.node (List.mem_map_of_mem second)

theorem around (places : Places whole ns) {n : TreeNode} {front back : List (List Char)}
    (rows : (Block.mk n 0).rows = front ++ whole ++ back) (above : front ≠ []) (behind : back ≠ [])
    (below : ∀ m ∈ ns, n.address <+: m.address) :
    Places (front ++ whole ++ back) (n :: ns) := by
  obtain ⟨bs, rfl, laid⟩ := places
  rw [List.forall_mem_map] at below
  refine ⟨⟨n, 0⟩ :: bs.map (Block.down front.length), ?_, laid.around rows above behind below⟩
  rw [List.map_cons, List.map_map, Block.node_comp_down]

end Places

theorem Component.places_nodes {c : Component} {above : Address} (i : Nat)
    (below : Places (forestRows (4 + (above ++ [i]).length) c.children)
      (forestNodes .rendered (above ++ [i]) 0 c.children)) :
    Places (c.rows (4 + above.length)) (c.nodes .rendered (above ++ [i])) := by
  have deeper : (above ++ [i]).length = above.length + 1 := List.length_append
  have rows : (Block.mk ⟨above ++ [i], c⟩ 0).rows = c.rows (4 + above.length) := by
    rw [Block.rows, TreeNode.depth, deeper]
    rfl
  rw [c.nodes_eq]
  by_cases bare : Extent.rendered.enters c = true → c.children = []
  · have leaf : (if Extent.rendered.enters c then
        forestNodes .rendered (above ++ [i]) 0 c.children else []) = [] := by
      split
      · rename_i entered
        rw [bare entered, forestNodes]
      · rfl
    rw [leaf]
    exact ⟨[⟨⟨above ++ [i], c⟩, 0⟩], rfl, .single rows⟩
  · obtain ⟨entered, some⟩ := Classical.not_imp.mp bare
    obtain ⟨first, last, around⟩ := c.rows_of_container entered some (4 + above.length)
    have under : ∀ m ∈ forestNodes .rendered (above ++ [i]) 0 c.children,
        above ++ [i] <+: m.address := by
      intro m visited
      obtain ⟨k, rest, address, -⟩ := mem_forestNodes_iff.mp visited
      rw [address]
      exact List.prefix_append _ _
    rw [deeper] at below
    rw [if_pos entered, around]
    exact below.around (rows.trans around) (rows_ne_nil first) (rows_ne_nil last) under

theorem places_forestNodes (roots : List Component) (above : Address) (i : Nat) :
    Places (forestRows (4 + above.length) roots) (forestNodes .rendered above i roots) := by
  induction roots using forest_induction generalizing above i with
  | nil => exact ⟨[], rfl, .nil _⟩
  | cons r rs below behind =>
    refine (r.places_nodes i (below (above ++ [i]) 0)).append (behind above (i + 1)) ?_
    -- The trees have different numbers, so no address in one of them continues one in the other.
    intro n first m later
    obtain ⟨inner, here⟩ := exists_address_of_mem first
    obtain ⟨k, rest, there, -⟩ := mem_forestNodes_iff.mp later
    rw [here, there, List.append_assoc, List.prefix_append_right_inj, List.singleton_append,
      List.cons_prefix_cons]
    omega

theorem Markup.body_infix_inline (level : Nat) (tag : String) (attributes : List Attribute)
    (body : String) : (">" ++ body ++ closeTag tag).toList <:+:
      (unlines ((Element.inline tag attributes body).lines level)).toList := by
  have line : unlines ((Element.inline tag attributes body).lines level) =
      indent level ++ "<" ++ tag ++ spaced attributes ++ (">" ++ body ++ closeTag tag) := by
    simp only [Element.lines, openTag, unlines, String.intercalate_singleton, String.append_assoc]
  rw [line]
  generalize ">" ++ body ++ closeTag tag = part
  rw [String.toList_append]
  exact (List.suffix_append _ _).isInfix

theorem Markup.infix_nested_single (level : Nat) (tag : String) (attributes : List Attribute)
    (e : Element) : e.lines (level + 1) <:+: (Element.nested tag attributes [e]).lines level := by
  have inner : forestLines (level + 1) [e] = e.lines (level + 1) := by
    rw [forestLines, forestLines, List.append_nil]
  rw [← inner, Element.lines]
  exact infix_enclosed level tag attributes _

theorem Component.body_infix_render {c : Component} (speaks : c.kind ∈ [.title, .text, .button])
    (level : Nat) : (">" ++ c.body ++ "</Text>").toList <:+: (c.render level).toList := by
  rw [render, c.element_eq, elementAround]
  simp only [List.mem_cons, List.not_mem_nil, or_false] at speaks
  rcases speaks with kind | kind | kind
  · rw [kind]
    exact body_infix_inline level "Text" _ c.body
  · rw [kind]
    exact body_infix_inline level "Text" _ c.body
  · rw [kind]
    have label := body_infix_inline (level + 1) "Text" [ruleStyle .buttonText none] c.body
    exact label.trans (infix_unlines (infix_nested_single level "TouchableOpacity" _ _))

namespace Screen

/-- Every component that is rendered has its markup in a block of rows of the module, at the level
of its depth. These blocks are nested and ordered as the components are, whatever the texts of the
screen are, so that no component is lost and none is drawn in another's place. The texts of titles,
texts and buttons stand between tags. -/
theorem places_rendered (s : Screen) :
    s.walkRendered = (nodes .rendered s.components).map TreeNode.component ∧
      (∀ n ∈ nodes .rendered s.components,
        componentAt? s.components n.address = some n.component) ∧
      Places (Text.rows s.moduleText) (nodes .rendered s.components) ∧
      ∀ c ∈ s.walkRendered, c.kind ∈ [.title, .text, .button] → ∀ t, c.content = some t →
        (">" ++ bodyText t.displayText ++ "</Text>").toList <:+: s.moduleText.toList := by
  refine ⟨?_, ?_, ?_, ?_⟩
  · rw [s.walkRendered_eq, map_component_nodes]
  · intro n visited
    exact (mem_nodes_iff.mp visited).1
  · obtain ⟨front, back, split⟩ := s.componentLines_infix
    have some : s.lines ≠ [] := by
      simp [lines]
    have rows : Text.rows s.moduleText =
        front.flatMap Text.rows ++ forestRows 4 s.components ++ back.flatMap Text.rows := by
      rw [moduleText, rows_unlines some, ← split, List.flatMap_append, List.flatMap_append,
        flatMap_rows_forestLines]
    rw [rows]
    exact ((places_forestNodes s.components [] 0).down _).extend _
  · intro c member speaks t given
    obtain ⟨level, within⟩ := exists_render_infix member
    have body : c.body = bodyText t.displayText := by
      rw [Component.body, given]
      rfl
    rw [← body]
    exact (c.body_infix_render speaks level).trans within

def twinsScreen : Screen :=
  let twin : Component :=
    { kind := .text, content := some (.text "Same"), children := [{ kind := .title }] }
  { name := "Twins", path := "/"
    components := [{ kind := .card, children := [twin, twin] }, twin] }

theorem places_twinsScreen :
    (nodes .rendered twinsScreen.components).map TreeNode.address = [[0], [0, 0], [0, 1], [1]] ∧
      Places (Text.rows twinsScreen.moduleText) (nodes .rendered twinsScreen.components) ∧
      (">" ++ bodyText "Same" ++ "</Text>").toList <:+: twinsScreen.moduleText.toList := by
  obtain ⟨-, -, placed, shown⟩ := places_rendered twinsScreen
  have last : twinsScreen.walkRendered[3]? = twinsScreen.components[1]? := rfl
  exact ⟨rfl, placed, shown _ (List.mem_of_getElem? last) (by decide) (.text "Same") rfl⟩

end Screen

end AppScaffold
