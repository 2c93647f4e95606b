import AppScaffold.Screen.Stylesheet
import AppScaffold.Spec.Specification

namespace AppScaffold

def cardPath : String := "components/Card.js"

def cardText : String :=
  Text.unlines <|
    ["import React from 'react';",
      "import \x7b View, StyleSheet \x7d from 'react-native';",
      "",
      "export default function Card(\x7b children, style \x7d) \x7b",
      "  return (",
      "    <View style=\x7b[styles.card, style]\x7d>",
      "      \x7bchildren\x7d",
      "    </View>",
      "  );",
      "\x7d",
      ""] ++ stylesheetLines [.card] ++ [""]

/-- Whether a card is rendered on any screen. -/
def AppSpecification.usesCards (spec : AppSpecification) : Bool :=
  spec.screens.any fun s => s.walkRendered.any (·.kind == .card)

end AppScaffold
