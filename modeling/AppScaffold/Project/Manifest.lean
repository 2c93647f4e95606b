import AppScaffold.Json.Writer
import AppScaffold.Spec.Specification
import AppScaffold.Text.Case

namespace AppScaffold

open Json Text

/-- The words of a name in lower case, with hyphens between them. -/
def slug (name : String) : String := lower ("-".intercalate (words name))

def baselineDependencies : List String :=
  ["expo", "expo-status-bar", "react", "react-native", "@react-navigation/native",
    "@react-navigation/stack", "react-native-screens", "react-native-safe-area-context",
    "react-native-gesture-handler"]

def babelConfig : String :=
  unlines
    ["module.exports = function(api) \x7b", "  api.cache(true);", "  return \x7b",
      "    presets: ['babel-preset-expo'],", "  \x7d;", "\x7d;", ""]

namespace AppSpecification

def dependencyNames (spec : AppSpecification) : NameSet :=
  (NameSet.ofList baselineDependencies).insertAll spec.dependencies.names

/-- The packages of the project, all of the version `marker`, and how it is started. -/
def packageManifest (spec : AppSpecification) (marker : String) : Value :=
  .object
    [("name", .string (slug spec.appName)),
      ("version", .string "1.0.0"),
      ("main", .string "node_modules/expo/AppEntry.js"),
      ("scripts", .object
        [("start", .string "expo start"), ("android", .string "expo start --android"),
          ("ios", .string "expo start --ios"), ("web", .string "expo start --web")]),
      ("dependencies", .object (spec.dependencyNames.names.map fun n => (n, .string marker))),
      ("devDependencies", .object [("@babel/core", .string "^7.20.0")]),
      ("private", .bool true)]

def appManifest (spec : AppSpecification) : Value :=
  .object [("expo", .object
    [("name", .string spec.appName),
      ("slug", .string (slug spec.appName)),
      ("version", .string "1.0.0"),
      ("orientation", .string "portrait"),
      ("icon", .string "./assets/icon.png"),
      ("userInterfaceStyle", .string "light"),
      ("splash", .object
        [("image", .string "./assets/splash.png"), ("resizeMode", .string "contain"),
          ("backgroundColor", .string "#ffffff")]),
      ("assetBundlePatterns", .array [.string "**/*"]),
      ("ios", .object [("supportsTablet", .bool true)]),
      ("android", .object
        [("adaptiveIcon", .object
          [("foregroundImage", .string "./assets/adaptive-icon.png"),
            ("backgroundColor", .string "#FFFFFF")])]),
      ("web", .object [("favicon", .string "./assets/favicon.png")])])]

def packageText (spec : AppSpecification) (marker : String) : String :=
  (spec.packageManifest marker).pretty ++ "\n"

def appManifestText (spec : AppSpecification) : String := spec.appManifest.pretty ++ "\n"

def readmeText (spec : AppSpecification) : String :=
  unlines
    ["# " ++ trim spec.appName,
      "",
      "This React Native app was generated with appgen.",
      "",
      "## Getting Started",
      "",
      "1. Install dependencies:",
      "   ```",
      "   npm install",
      "   ```",
      "",
      "2. Start the development server:",
      "   ```",
      "   npm start",
      "   ```",
      "",
      "3. Run on your device:",
      "   - Scan the QR code with Expo Go (Android) or the Camera app (iOS)",
      "   - Or press 'a' for the Android emulator, 'i' for the iOS simulator",
      "",
      "## Project Structure",
      "",
      "- `App.js` - navigation root",
      "- `screens/` - one module per screen",
      "- `components/` - reusable UI components",
      ""]

end AppSpecification

end AppScaffold
