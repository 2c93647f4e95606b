import AppScaffold.Text.PrintTable

namespace AppScaffold.Text

/-- Whether a character only changes the one before it. The halfwidth sound marks of Japanese have
a width of their own, and count as letters here. -/
def isExtending (c : Char) : Bool :=
  inRanges c.toNat graphemeExtendRanges && !inRanges c.toNat [(0xff9e, 0xff9f)]

def isPrintable (c : Char) : Bool := !inRanges c.toNat unprintableRanges

def hex (n : Nat) : String := String.ofList (Nat.toDigits 16 n)

/-- One character as it stands between the quotes. A single quote needs no escape there. -/
def quoteChar (c : Char) : String :=
  match c with
  | '"' => "\\\""
  | '\\' => "\\\\"
  | '\n' => "\\n"
  | '\r' => "\\r"
  | '\t' => "\\t"
  | '\x00' => "\\0"
  | c =>
    if isExtending c || !isPrintable c then "\\u\x7b" ++ hex c.toNat ++ "\x7d"
    else c.toString

def quote (s : String) : String := "\"" ++ String.join (s.toList.map quoteChar) ++ "\""

end AppScaffold.Text
