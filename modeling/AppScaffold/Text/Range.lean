namespace AppScaffold.Text

/-- Whether `n` lies in one of the ranges, which ascend and include both ends. -/
def inRanges (n : Nat) : List (Nat × Nat) → Bool
  | [] => false
  | (first, last) :: rest => first ≤ n && (n ≤ last || inRanges n rest)

end AppScaffold.Text
