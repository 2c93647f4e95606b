import AppScaffold.Screen.Module
import AppScaffold.Text.Title

namespace AppScaffold

open Markup Text

namespace Screen

def importStatement (s : Screen) : String :=
  "import " ++ s.componentName ++ " from './screens/" ++ s.componentName ++ "';"

def registration (s : Screen) : List String :=
  ["        <Stack.Screen",
    "          name=\"" ++ s.name ++ "\"",
    "          component=\x7b" ++ s.componentName ++ "\x7d",
    "          options=\x7b\x7b title: " ++ literal (Title.title s.name) ++ " \x7d\x7d",
    "        />"]

end Screen

namespace AppSpecification

def rootImports (spec : AppSpecification) : List String :=
  ["import React from 'react';",
    "import \x7b NavigationContainer \x7d from '@react-navigation/native';",
    "import \x7b createStackNavigator \x7d from '@react-navigation/stack';"] ++
  spec.screens.map Screen.importStatement

def screenOptions : List String :=
  ["        screenOptions=\x7b\x7b", "          headerStyle: \x7b",
    "            backgroundColor: '#6366f1',", "          \x7d,",
    "          headerTintColor: '#fff',", "          headerTitleStyle: \x7b",
    "            fontWeight: 'bold',", "          \x7d,", "        \x7d\x7d"]

def initialRoute (spec : AppSpecification) : List String :=
  spec.initialScreen?.toList.map fun s => "        initialRouteName=\"" ++ s.name ++ "\""

def rootLines (spec : AppSpecification) : List String :=
  spec.rootImports ++
    ["", "const Stack = createStackNavigator();", "", "export default function App() \x7b",
      "  return (", "    <NavigationContainer>", "      <Stack.Navigator"] ++
    spec.initialRoute ++ screenOptions ++ ["      >"] ++
    spec.screens.flatMap Screen.registration ++
    ["      </Stack.Navigator>", "    </NavigationContainer>", "  );", "\x7d", ""]

def rootText (spec : AppSpecification) : String := unlines spec.rootLines

end AppSpecification

end AppScaffold
