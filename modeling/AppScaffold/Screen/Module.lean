import AppScaffold.Screen.Element
import AppScaffold.Screen.Imports
import AppScaffold.Text.Case

namespace AppScaffold

open Markup Text

def setterName (binding : String) : String := "set" ++ upperFirst binding

def StateBinding.declaration (b : StateBinding) : String :=
  "  const [" ++ b.name ++ ", " ++ setterName b.name ++ "] = useState(" ++
    b.initialValue.compact ++ ");"

def Effect.block (e : Effect) : List String :=
  ["  useEffect(() => \x7b", indentLines e.code 4,
    "  \x7d, [" ++ ", ".intercalate e.dependencies ++ "]);"]

def blocks (parts : List (List String)) : List String :=
  (parts.filter (!·.isEmpty)).flatMap (· ++ [""])

namespace Screen

def componentName (s : Screen) : String := s.name ++ "Screen"

def filePath (s : Screen) : String := "screens/" ++ s.componentName ++ ".js"

def importLines (s : Screen) : List String :=
  ["import React" ++
      (if s.hooks.isEmpty then "" else ", \x7b " ++ ", ".intercalate s.hooks ++ " \x7d") ++
      " from 'react';",
    "import \x7b " ++ s.importList ++ " \x7d from 'react-native';"] ++
  if s.usesNavigation then ["import \x7b useNavigation \x7d from '@react-navigation/native';"]
  else []

def declarations (s : Screen) : List String :=
  (if s.usesNavigation then ["  const navigation = useNavigation();"] else []) ++
    s.state.map StateBinding.declaration

/-- The markup of the components inside the frame that every screen has. -/
def markupLines (s : Screen) : List String :=
  enclosed 2 "SafeAreaView" [styleAttribute StyleRule.container.reference] <|
    enclosed 3 "ScrollView" [.code "contentContainerStyle" StyleRule.content.reference] <|
      forestLines 4 (forestElements s.components)

def functionLines (s : Screen) : List String :=
  ["export default function " ++ s.componentName ++ "() \x7b"] ++
    blocks (s.declarations :: s.effects.map Effect.block) ++
    ["  return ("] ++ s.markupLines ++ ["  );", "\x7d"]

def lines (s : Screen) : List String :=
  s.importLines ++ [""] ++ s.functionLines ++ [""] ++ stylesheetLines StyleRule.all ++ [""]

def moduleText (s : Screen) : String := unlines s.lines

end Screen

end AppScaffold
