import AppScaffold.Text.GraphemeTable
import AppScaffold.Text.PrintTable

namespace AppScaffold.Text

inductive ClusterClass
  | control | extend | joiner | spacingMark | prepend | regional
  | hangulL | hangulV | hangulT | hangulLV | hangulLVT | other
  deriving DecidableEq

def ClusterClass.ofChar (c : Char) : ClusterClass :=
  let n := c.toNat
  if inRanges n controlRanges then .control
  else if n < 0x300 then .other
  else if n == 0x200d then .joiner
  else if inRanges n graphemeExtendRanges || (0x1f3fb ≤ n && n ≤ 0x1f3ff) then .extend
  else if inRanges n spacingMarkRanges then .spacingMark
  else if inRanges n prependRanges then .prepend
  else if 0x1f1e6 ≤ n && n ≤ 0x1f1ff then .regional
  else if inRanges n [(0x1100, 0x115f), (0xa960, 0xa97c)] then .hangulL
  else if inRanges n [(0x1160, 0x11a7), (0xd7b0, 0xd7c6), (0x16d63, 0x16d63), (0x16d67, 0x16d6a)]
    then .hangulV
  else if inRanges n [(0x11a8, 0x11ff), (0xd7cb, 0xd7fb)] then .hangulT
  else if 0xac00 ≤ n && n ≤ 0xd7a3 then
    if (n - 0xac00) % 28 == 0 then .hangulLV else .hangulLVT
  else .other

def isPictographic (c : Char) : Bool := inRanges c.toNat pictographicRanges
def isConjunctConsonant (c : Char) : Bool := inRanges c.toNat conjunctConsonantRanges
def isConjunctLinker (c : Char) : Bool := conjunctLinkers.contains c.toNat

def isConjunctExtend (c : Char) : Bool :=
  let k := ClusterClass.ofChar c
  (k == .extend || k == .joiner) && c.toNat != 0x200c

/-- Whether the text, read backwards, is a consonant with a linker among the signs behind it. -/
def endsInConjunct (before : List Char) : Bool :=
  let signs := before.takeWhile isConjunctExtend
  signs.any isConjunctLinker && (before.dropWhile isConjunctExtend).head?.any isConjunctConsonant

/-- Whether the text, read backwards, is a joiner behind a pictograph and its extensions. -/
def endsInJoinedPictograph (before : List Char) : Bool :=
  match before with
  | c :: rest =>
    ClusterClass.ofChar c == .joiner &&
      (rest.dropWhile (ClusterClass.ofChar · == .extend)).head?.any isPictographic
  | [] => false

/-- Whether `c` belongs to the cluster that ends the text; `before` is that text reversed. -/
def joins (before : List Char) (c : Char) : Bool :=
  match before with
  | [] => true
  | p :: _ =>
    match ClusterClass.ofChar p, ClusterClass.ofChar c with
    | .control, _ => p == '\r' && c == '\n'
    | _, .control => false
    | _, .extend | _, .joiner | _, .spacingMark => true
    | .prepend, _ => true
    | .hangulL, .hangulL | .hangulL, .hangulV | .hangulL, .hangulLV | .hangulL, .hangulLVT => true
    | .hangulLV, .hangulV | .hangulLV, .hangulT | .hangulV, .hangulV | .hangulV, .hangulT => true
    | .hangulLVT, .hangulT | .hangulT, .hangulT => true
    | .regional, .regional =>
      (before.takeWhile (ClusterClass.ofChar · == .regional)).length % 2 == 1
    | _, _ =>
      (isConjunctConsonant c && endsInConjunct before) ||
        (isPictographic c && endsInJoinedPictograph before)

/-- The clusters of `cs` behind the reversed text `before`, whose last cluster so far is the
reversed `current`. -/
def clustersFrom (before current : List Char) : List Char → List (List Char)
  | [] => if current.isEmpty then [] else [current.reverse]
  | c :: cs =>
    if joins before c then clustersFrom (c :: before) (c :: current) cs
    else current.reverse :: clustersFrom (c :: before) [c] cs

def clusters (s : String) : List String := (clustersFrom [] [] s.toList).map String.ofList

end AppScaffold.Text
