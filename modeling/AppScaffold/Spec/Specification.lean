import AppScaffold.Spec.NameSet
import AppScaffold.Spec.Walk

namespace AppScaffold

open Json

structure StateBinding where
  name : String
  initialValue : Value := .null
  /-- For information only. -/
  type : String := ""

structure Effect where
  dependencies : List String
  code : String

structure Screen where
  name : String
  path : String
  components : List Component := []
  state : List StateBinding := []
  effects : List Effect := []

namespace Screen

def withComponent (s : Screen) (c : Component) : Screen :=
  { s with components := s.components ++ [c] }

def withState (s : Screen) (b : StateBinding) : Screen := { s with state := s.state ++ [b] }
def withEffect (s : Screen) (e : Effect) : Screen := { s with effects := s.effects ++ [e] }

def walk (s : Screen) : List Component := (Preorder.ofForest .everything s.components).toList

/-- The components of the screen that are rendered. -/
def walkRendered (s : Screen) : List Component := (Preorder.ofForest .rendered s.components).toList

end Screen

structure AppSpecification where
  appName : String
  dependencies : NameSet := .empty
  /-- The screens in the order of their registration; the app starts at the first. -/
  screens : List Screen := []

namespace AppSpecification

def withDependency (s : AppSpecification) (name : String) : AppSpecification :=
  { s with dependencies := s.dependencies.insert name }

def withScreen (s : AppSpecification) (screen : Screen) : AppSpecification :=
  { s with screens := s.screens ++ [screen] }

def screen? (s : AppSpecification) (name : String) : Option Screen :=
  s.screens.find? (·.name == name)

def initialScreen? (s : AppSpecification) : Option Screen := s.screens.head?

end AppSpecification

end AppScaffold
