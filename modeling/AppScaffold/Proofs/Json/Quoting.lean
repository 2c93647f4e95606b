import AppScaffold.Json.Writer
import AppScaffold.Proofs.Json.Loops

namespace AppScaffold.Json

theorem utf8Length_cons (c : Char) (cs : List Char) :
    utf8Length (c :: cs) = c.utf8Size + utf8Length cs := rfl

theorem length_le_utf8Length (cs : List Char) : cs.length ≤ utf8Length cs := by
  induction cs with
  | nil => exact Nat.zero_le _
  | cons c cs ih =>
    have size := c.utf8Size_pos
    rw [utf8Length_cons, List.length_cons]
    omega

theorem hexDigit?_hexDigit {n : Nat} (bound : n < 16) : hexDigit? (hexDigit n) = some n := by
  revert n
  decide

theorem readUnit_append {front : List Char} (four : front.length = 4) {ds : List Nat}
    (digits : front.mapM hexDigit? = some ds) (rest : List Char) :
    readUnit (front ++ rest) = .ok (ds.foldl (fun n d => n * 16 + d) 0, rest) := by
  have enough := length_le_utf8Length front
  rw [four] at enough
  rw [readUnit, ← four, List.take_left, List.drop_left, four, if_neg (Nat.not_lt.mpr enough),
    digits]
  rfl

theorem readUnit_byte {m n : Nat} (high : m < 16) (low : n < 16) (rest : List Char) :
    readUnit ('0' :: '0' :: hexDigit m :: hexDigit n :: rest) = .ok (m * 16 + n, rest) := by
  have digits : ['0', '0', hexDigit m, hexDigit n].mapM hexDigit? = some [0, 0, m, n] := by
    simp only [List.mapM_cons, List.mapM_nil, hexDigit?_hexDigit high, hexDigit?_hexDigit low]
    rfl
  simpa using readUnit_append rfl digits rest

theorem readUnicode_control {c : Char} (control : c < ' ') (rest : List Char) :
    readUnicode ('0' :: '0' :: hexDigit (c.toNat / 16) :: hexDigit (c.toNat % 16) :: rest) =
      .ok (c, rest) := by
  have small : c.toNat < 32 := control
  have whole : c.toNat / 16 * 16 + c.toNat % 16 = c.toNat := Nat.div_add_mod' _ _
  have leading : isLeading c.toNat = false := by
    simp only [isLeading, Bool.and_eq_false_iff, decide_eq_false_iff_not]
    omega
  have trailing : isTrailing c.toNat = false := by
    simp only [isTrailing, Bool.and_eq_false_iff, decide_eq_false_iff_not]
    omega
  rw [readUnicode, readUnit_byte (by omega) (by omega), whole]
  simp [bind, Except.bind, leading, trailing, pure, Except.pure]

theorem length_escapeChar_pos (c : Char) : 0 < (escapeChar c).length := by
  unfold escapeChar
  split
  case h_8 => split <;> exact Nat.succ_pos _
  all_goals exact Nat.succ_pos _

theorem stringStep_escapeChar (taken : List Char) (c : Char) (rest : List Char) :
    stringStep taken (escapeChar c ++ rest) = .ok (.more (c :: taken), rest) := by
  unfold escapeChar
  split
  case h_8 quote backslash _ _ _ _ _ =>
    split
    · rename_i control
      have read := readUnicode_control control rest
      simp only [List.cons_append, List.nil_append, stringStep, readEscape, ↓reduceIte,
        read]
      rfl
    · rename_i plain
      simp only [List.cons_append, List.nil_append, stringStep]
      rw [if_neg quote, if_neg backslash, if_neg plain]
      rfl
  all_goals rfl

theorem runs_escaped (cs taken rest : List Char) :
    Runs stringStep taken (cs.flatMap escapeChar ++ '"' :: rest)
      (String.ofList (taken.reverse ++ cs)) rest := by
  induction cs generalizing taken with
  | nil =>
    rw [List.append_nil]
    exact .done rfl
  | cons c cs ih =>
    have later := ih (c :: taken)
    rw [List.reverse_cons, List.append_assoc, List.singleton_append] at later
    rw [List.flatMap_cons, List.append_assoc]
    refine .more (stringStep_escapeChar taken c _) ?_ later
    have characters := length_escapeChar_pos c
    simp only [List.length_append]
    omega

theorem readString_escaped (s : String) (rest : List Char) :
    readString (s.toList.flatMap escapeChar ++ '"' :: rest) = .ok (s, rest) := by
  have runs := (runs_escaped s.toList [] rest).iterate_eq
  rwa [List.reverse_nil, List.nil_append, String.ofList_toList] at runs

/-- A string can be told from every other, and from what stands behind it. -/
theorem writeString_inj {s t : String} {r u : List Char}
    (same : (writeString s).toList ++ r = (writeString t).toList ++ u) : s = t ∧ r = u := by
  have quoted (s : String) (r : List Char) : (writeString s).toList ++ r =
      '"' :: (s.toList.flatMap escapeChar ++ '"' :: r) := by
    simp [writeString]
  rw [quoted, quoted] at same
  have read := readString_escaped s r
  rw [(List.cons.inj same).2, readString_escaped t u] at read
  cases read
  exact ⟨rfl, rfl⟩

end AppScaffold.Json
