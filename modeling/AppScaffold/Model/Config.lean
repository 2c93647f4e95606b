import AppScaffold.Json.Value
import AppScaffold.Numeral.Shortest
import AppScaffold.Text.Blank
import AppScaffold.Text.Quoted

namespace AppScaffold

open Json Numeral

/-- A sampling value, a number in single precision; none where it is too large for one. -/
abbrev Sampling := Option (Binary binary32)

namespace Sampling

def ofRatio (num den : Nat) : Sampling := Binary.ofRank? false (binary32.nearest num den)

def ofNumber (n : Number) : Sampling := n.double?.bind (·.convert? binary32)

def documentText (x : Sampling) : String := (x.map (·.text documentSingle)).getD "null"

def messageText (x : Sampling) : String := (x.map (·.text messageSingle)).getD "inf"

end Sampling

def defaultModel : String := "gemini-2.0-flash-exp"

structure ProducerConfig where
  apiKey : String
  model : String := defaultModel
  temperature : Sampling := .ofRatio 7 10
  topK : Nat := 40
  topP : Sampling := .ofRatio 95 100

/-- The variable of that name is not set, or blank. -/
structure ConfigError where
  variableName : String
  deriving DecidableEq

def ConfigError.message (e : ConfigError) : String :=
  "environment variable " ++ e.variableName ++ " is not set"

namespace ProducerConfig

def apiKeyVariable : String := "GEMINI_API_KEY"
def modelVariable : String := "APPGEN_MODEL"

/-- The settings that variables make. A blank value counts as none. -/
def ofVariables (lookup : String → Option String) : Except ConfigError ProducerConfig :=
  let value? (name : String) := (lookup name).filter (!Text.isBlankText ·)
  match value? apiKeyVariable with
  | some apiKey => .ok { apiKey, model := (value? modelVariable).getD defaultModel }
  | none => .error ⟨apiKeyVariable⟩

/-- The settings for a message, which must not show the key. -/
def display (c : ProducerConfig) : String :=
  "ProducerConfig \x7b api_key: \"<redacted>\", model: " ++ Text.quote c.model ++
    ", temperature: " ++ c.temperature.messageText ++ ", top_k: " ++ toString c.topK ++
    ", top_p: " ++ c.topP.messageText ++ " \x7d"

end ProducerConfig

end AppScaffold
