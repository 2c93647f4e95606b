import AppScaffold.Text.Lines

namespace AppScaffold.Markup

open Text

inductive Attribute
  | code (name body : String)
  | quoted (name body : String)
  deriving DecidableEq

def Attribute.written : Attribute → String
  | code name body => name ++ "=\x7b" ++ body ++ "\x7d"
  | quoted name body => name ++ "=\"" ++ body ++ "\""

inductive Element
  | inline (tag : String) (attributes : List Attribute) (body : String)
  /-- A tag that closes itself, with a line for every attribute. -/
  | block (tag : String) (attributes : List Attribute)
  /-- Tags on lines of their own around elements one level further in. -/
  | nested (tag : String) (attributes : List Attribute) (children : List Element)

def spaced (attributes : List Attribute) : String :=
  String.join (attributes.map (" " ++ ·.written))

def openTag (tag : String) (attributes : List Attribute) : String :=
  "<" ++ tag ++ spaced attributes ++ ">"

def closeTag (tag : String) : String := "</" ++ tag ++ ">"

def enclosed (level : Nat) (tag : String) (attributes : List Attribute) (inner : List String) :
    List String :=
  (indent level ++ openTag tag attributes) :: inner ++ [indent level ++ closeTag tag]

def attributeLine (level : Nat) (line : String) : String :=
  if line.isEmpty then "" else indent level ++ "  " ++ line

mutual

def Element.lines (level : Nat) : Element → List String
  | .inline tag attributes body =>
    [indent level ++ openTag tag attributes ++ body ++ closeTag tag]
  | .block tag attributes =>
    (indent level ++ "<" ++ tag) ::
      attributes.flatMap (fun a => (Text.lines a.written).map (attributeLine level)) ++
      [indent level ++ "/>"]
  | .nested tag attributes children =>
    if children.isEmpty then [indent level ++ "<" ++ tag ++ spaced attributes ++ " />"]
    else enclosed level tag attributes (forestLines (level + 1) children)

def forestLines (level : Nat) : List Element → List String
  | [] => []
  | e :: es => e.lines level ++ forestLines level es

end

end AppScaffold.Markup
