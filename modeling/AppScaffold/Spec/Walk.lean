import AppScaffold.Spec.Component

namespace AppScaffold

/-- Whether a walk goes to every component, or leaves out the children that are not rendered. -/
inductive Extent
  | everything | rendered
  deriving DecidableEq

def Extent.enters : Extent → Component → Bool
  | everything, _ => true
  | rendered, c => c.kind.isContainer

mutual

def Component.walk (extent : Extent) (c : Component) : List Component :=
  match c with
  | { children, .. } => c :: if extent.enters c then walkForest extent children else []

def walkForest (extent : Extent) : List Component → List Component
  | [] => []
  | c :: cs => c.walk extent ++ walkForest extent cs

end

mutual

def Component.size : Component → Nat
  | { children, .. } => forestSize children + 1

def forestSize : List Component → Nat
  | [] => 0
  | c :: cs => c.size + forestSize cs

end

/-- A walk under way: the components it still has to visit, the next one first. -/
structure Preorder where
  pending : List Component
  extent : Extent

namespace Preorder

def ofForest (extent : Extent) (roots : List Component) : Preorder := ⟨roots, extent⟩
def ofTree (extent : Extent) (c : Component) : Preorder := ⟨[c], extent⟩

def next? (p : Preorder) : Option (Component × Preorder) :=
  match p.pending with
  | [] => none
  | c :: rest =>
    some (c, { p with pending := (if p.extent.enters c then c.children else []) ++ rest })

def take : Nat → Preorder → List Component
  | 0, _ => []
  | fuel + 1, p =>
    match p.next? with
    | none => []
    | some (c, q) => c :: q.take fuel

def toList (p : Preorder) : List Component := p.take (forestSize p.pending)

end Preorder

end AppScaffold
