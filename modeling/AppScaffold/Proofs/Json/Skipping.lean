import AppScaffold.Json.Skip
import AppScaffold.Proofs.Json.Written

/-! A value that can be read can be passed over, and what stands behind it is the same. What is
skipped has no depth: the brackets around a value stand on a stack, and what they still ask of the
text is that skipping comes to its end from there. -/

namespace AppScaffold.Json

theorem local_skipEscape : Local skipEscape := by
  refine .cons nofun fun c => ?_
  simp only [skipEscape]
  refine .ite (fun _ => local_readUnit.bind fun _ => .pure ()) fun _ => ?_
  exact .ite (fun _ => .pure ()) fun _ => .error _

theorem advances_skipStringStep : Advances skipStringStep where
  steps _ := by
    refine .cons nofun fun c => ?_
    simp only [skipStringStep]
    refine .ite (fun _ => .pure _) fun _ => .ite (fun _ => ?_) fun _ => ?_
    · exact local_skipEscape.bind fun _ => .pure (Step.more ())
    · exact .ite (fun _ => .error _) fun _ => .pure _
  ends := nofun

theorem skipEscape_of_unit {cs rest : List Char} {n : Nat} (unit : readUnit cs = .ok (n, rest)) :
    skipEscape ('u' :: cs) = .ok ((), rest) := by
  simp only [skipEscape, unit]
  rfl

/-- A character that is written in units is passed over as one escape, or as two if it takes a
pair of units. -/
theorem skipEscape_of_readUnicode {cs rest : List Char} {d : Char}
    (read : readUnicode cs = .ok (d, rest)) :
    skipEscape ('u' :: cs) = .ok ((), rest) ∨
      ∃ low, skipEscape ('u' :: cs) = .ok ((), '\\' :: low) ∧
        skipEscape low = .ok ((), rest) := by
  obtain ⟨⟨n, behind⟩, unit, read⟩ := bind_eq_ok_iff.mp read
  have first := skipEscape_of_unit unit
  dsimp only at read
  split at read
  · cases read
  split at read
  · cases read
    exact .inl first
  split at read
  · rename_i low
    obtain ⟨⟨m, after⟩, trailing, read⟩ := bind_eq_ok_iff.mp read
    dsimp only at read
    split at read
    · obtain ⟨-, rfl⟩ := Prod.mk.inj (Except.ok.inj read)
      exact .inr ⟨'u' :: low, first, skipEscape_of_unit trailing⟩
    · cases read
  all_goals cases read

theorem skipEscape_of_readEscape {cs rest : List Char} {d : Char}
    (read : readEscape cs = .ok (d, rest)) :
    skipEscape cs = .ok ((), rest) ∨
      ∃ low, skipEscape cs = .ok ((), '\\' :: low) ∧ skipEscape low = .ok ((), rest) := by
  cases cs with
  | nil => cases read
  | cons c cs =>
    simp only [readEscape] at read
    split at read
    · rename_i unicode
      subst unicode
      exact skipEscape_of_readUnicode read
    · rename_i other
      cases plain : plainEscape? c with
      | none =>
        rw [plain] at read
        cases read
      | some e =>
        rw [plain] at read
        cases read
        refine .inl ?_
        simp only [skipEscape, if_neg other, plain]
        rfl

theorem stringStep_done {taken cs rest : List Char} {s : String}
    (last : stringStep taken cs = .ok (.done s, rest)) : cs = '"' :: rest := by
  cases cs with
  | nil => cases last
  | cons c cs =>
    simp only [stringStep] at last
    split at last
    · rename_i quote
      cases last
      rw [quote]
    split at last
    · obtain ⟨_, _, last⟩ := bind_eq_ok_iff.mp last
      cases last
    split at last
    all_goals cases last

theorem stringStep_more {taken later cs mid : List Char}
    (first : stringStep taken cs = .ok (.more later, mid)) :
    (∃ c, cs = c :: mid ∧ c ≠ '"' ∧ c ≠ '\\' ∧ ¬ c < ' ') ∨
      ∃ behind d, cs = '\\' :: behind ∧ readEscape behind = .ok (d, mid) := by
  cases cs with
  | nil => cases first
  | cons c cs =>
    simp only [stringStep] at first
    split at first
    · cases first
    rename_i unquoted
    split at first
    · rename_i escaped
      obtain ⟨⟨d, after⟩, escape, first⟩ := bind_eq_ok_iff.mp first
      cases first
      exact .inr ⟨cs, d, by rw [escaped], escape⟩
    rename_i unescaped
    split at first
    · cases first
    rename_i control
    cases first
    exact .inl ⟨c, rfl, unquoted, unescaped, control⟩

theorem skipStringStep_of_escape {cs rest : List Char} (skipped : skipEscape cs = .ok ((), rest)) :
    skipStringStep () ('\\' :: cs) = .ok (.more (), rest) := by
  have step : skipStringStep () ('\\' :: cs) =
      skipEscape cs >>= fun t => pure (.more (), t.2) := rfl
  rw [step, skipped]
  rfl

theorem skipString_of_readString {cs rest : List Char} {s : String}
    (read : readString cs = .ok (s, rest)) : skipString cs = .ok ((), rest) := by
  suffices skips : Runs skipStringStep () cs () rest from skips.iterate_eq
  have runs := advances_stringStep.runs_iff.mp read
  clear read
  have step {cs mid rest : List Char} (first : skipStringStep () cs = .ok (.more (), mid))
      (later : Runs skipStringStep () mid () rest) : Runs skipStringStep () cs () rest :=
    .more first (advances_skipStringStep.shortens first) later
  generalize [] = taken at runs
  -- A pair of units takes one step to read and two to pass over.
  induction runs with
  | done last =>
    rw [stringStep_done last]
    exact .done rfl
  | more first _ _ ih =>
    rcases stringStep_more first with ⟨c, rfl, unquoted, unescaped, control⟩ |
      ⟨behind, d, rfl, escape⟩
    · refine step ?_ ih
      simp only [skipStringStep, if_neg unquoted, if_neg unescaped, if_neg control]
      rfl
    · rcases skipEscape_of_readEscape escape with whole | ⟨low, front, back⟩
      · exact step (skipStringStep_of_escape whole) ih
      · exact step (skipStringStep_of_escape front) (step (skipStringStep_of_escape back) ih)

theorem makeFloat_rest {negative : Bool} {significand : Nat} {exponent : Int} {cs rest : List Char}
    {n : Number} (made : makeFloat negative significand exponent cs = .ok (n, rest)) : rest = cs :=
  (still_makeFloat negative significand exponent made).1

theorem readWhole_rest (n : Nat) (cs : List Char) : (readWhole n cs).2.2 = dropDigits cs := by
  fun_induction readWhole n cs with
  | case1 => rfl
  | case2 n c cs none => exact (dropDigits_of_not_startsDigit (by simp [startsDigit, none])).symm
  | case3 n c cs d digit m _ ih => rw [ih, dropDigits_of_digit (by simp [digit])]
  | case4 n c cs d digit => rfl

theorem readFraction_rest (n count : Nat) (cs : List Char) :
    (readFraction n count cs).2.2 = dropDigits cs := by
  fun_induction readFraction n count cs with
  | case1 => rfl
  | case2 n count c cs none =>
    exact (dropDigits_of_not_startsDigit (by simp [startsDigit, none])).symm
  | case3 n count c cs d digit m _ ih => rw [ih, dropDigits_of_digit (by simp [digit])]
  | case4 n count c cs d digit => rfl

theorem dropDigits_readPower (n : Nat) (cs : List Char) :
    dropDigits (readPower n cs).2 = dropDigits cs := by
  fun_induction readPower n cs with
  | case1 => rfl
  | case2 => rfl
  | case3 n c cs d digit _ ih => rw [ih, dropDigits_of_digit (by simp [digit])]
  | case4 => rfl

theorem readUnsigned_rest {negative down : Bool} {significand : Nat} {scale : Int}
    {cs rest : List Char} {n : Number}
    (read : readUnsigned negative significand scale down cs = .ok (n, rest)) :
    startsDigit cs = true ∧ rest = dropDigits cs := by
  cases cs with
  | nil => cases read
  | cons c cs =>
    simp only [readUnsigned] at read
    split at read
    · cases read
    rename_i d digit
    have drops : dropDigits (c :: cs) = dropDigits (readPower d cs).2 := by
      rw [dropDigits_readPower, dropDigits_of_digit (by simp [digit])]
    refine ⟨by simp [startsDigit, digit], ?_⟩
    rw [drops]
    split at read
    · split at read
      · cases read
      · exact makeFloat_rest read
    · rename_i other
      rw [dropDigits_of_not_startsDigit (Bool.eq_false_iff.mpr other)]
      exact makeFloat_rest read

theorem skipExponent_of_readExponent {negative : Bool} {significand : Nat} {scale : Int}
    {cs rest : List Char} {n : Number}
    (read : readExponent negative significand scale cs = .ok (n, rest)) :
    skipExponent cs = .ok ((), rest) := by
  have skips (down : Bool) {cs : List Char}
      (read : readUnsigned negative significand scale down cs = .ok (n, rest)) :
      (if startsDigit cs then pure ((), dropDigits cs)
        else .error (Fault.next .badNumber cs)) = (.ok ((), rest) : Except Fault _) := by
    obtain ⟨starts, rfl⟩ := readUnsigned_rest read
    exact if_pos starts
  cases cs with
  | nil => cases read
  | cons c cs =>
    by_cases plus : c = '+'
    · subst plus
      exact skips false read
    by_cases minus : c = '-'
    · subst minus
      exact skips true read
    rw [readExponent_of_ne plus minus] at read
    unfold skipExponent
    split
    · rename_i same
      exact absurd (List.cons.inj same).1 plus
    · rename_i same
      exact absurd (List.cons.inj same).1 minus
    · exact skips false read

theorem skipExponent?_of_ne {c : Char} (lower : c ≠ 'e') (upper : c ≠ 'E') (cs : List Char) :
    skipExponent? (c :: cs) = .ok ((), c :: cs) := by
  unfold skipExponent?
  split
  · rename_i same
    exact absurd (List.cons.inj same).1 lower
  · rename_i same
    exact absurd (List.cons.inj same).1 upper
  · rfl

theorem skipExponent?_of_readFloatTail {negative : Bool} {significand : Nat} {scale : Int}
    {cs rest : List Char} {n : Number}
    (read : readFloatTail negative significand scale cs = .ok (n, rest)) :
    skipExponent? cs = .ok ((), rest) := by
  cases cs with
  | nil =>
    rw [makeFloat_rest read]
    rfl
  | cons c cs =>
    by_cases lower : c = 'e'
    · subst lower
      exact skipExponent_of_readExponent read
    by_cases upper : c = 'E'
    · subst upper
      exact skipExponent_of_readExponent read
    rw [readFloatTail_of_ne lower upper] at read
    rw [skipExponent?_of_ne lower upper, makeFloat_rest read]

theorem skipExponent?_of_readDecimal {negative : Bool} {significand : Nat} {scale : Int}
    {cs rest : List Char} {n : Number}
    (read : readDecimal negative significand scale cs = .ok (n, rest)) :
    startsDigit cs = true ∧ skipExponent? (dropDigits cs) = .ok ((), rest) := by
  unfold readDecimal at read
  split at read
  · rename_i starts
    refine ⟨starts, ?_⟩
    rw [← readFraction_rest significand 0 cs]
    exact skipExponent?_of_readFloatTail read
  · cases read

def skipNumberTail : Reader Unit
  | '.' :: cs =>
    if startsDigit cs then skipExponent? (dropDigits cs) else .error (Fault.next .badNumber cs)
  | cs => skipExponent? cs

theorem skipNumberTail_of_ne {c : Char} (point : c ≠ '.') (cs : List Char) :
    skipNumberTail (c :: cs) = skipExponent? (c :: cs) := by
  unfold skipNumberTail
  split
  · rename_i same
    exact absurd (List.cons.inj same).1 point
  · rfl

theorem endNumber_rest {negative : Bool} {significand dropped : Nat} {cs rest : List Char}
    {n : Number} (ended : endNumber negative significand dropped cs = .ok (n, rest)) : rest = cs :=
  (still_endNumber negative significand dropped ended).1

theorem skipNumberTail_of_readNumberTail {negative : Bool} {significand dropped : Nat}
    {cs rest : List Char} {n : Number}
    (read : readNumberTail negative significand dropped cs = .ok (n, rest)) :
    skipNumberTail cs = .ok ((), rest) := by
  cases cs with
  | nil =>
    rw [endNumber_rest read]
    rfl
  | cons c cs =>
    by_cases point : c = '.'
    · subst point
      obtain ⟨starts, skips⟩ := skipExponent?_of_readDecimal read
      exact (if_pos starts).trans skips
    rw [skipNumberTail_of_ne point]
    by_cases lower : c = 'e'
    · subst lower
      exact skipExponent_of_readExponent read
    by_cases upper : c = 'E'
    · subst upper
      exact skipExponent_of_readExponent read
    rw [readNumberTail_of_ne point lower upper] at read
    rw [skipExponent?_of_ne lower upper, endNumber_rest read]

theorem skipNumber_of_readNumber {negative : Bool} {cs rest : List Char} {n : Number}
    (read : readNumber negative cs = .ok (n, rest)) : skipNumber cs = .ok ((), rest) := by
  cases cs with
  | nil => cases read
  | cons c cs =>
    simp only [readNumber] at read
    cases digit : digit? c with
    | none =>
      rw [digit] at read
      cases read
    | some d =>
      rw [digit] at read
      dsimp only at read
      split at read
      · cases read
      rename_i leading
      have whole : (if d = 0 then cs else dropDigits cs) = dropDigits cs := by
        split
        · rename_i zero
          have stops : startsDigit cs = false := by simpa [zero] using leading
          exact (dropDigits_of_not_startsDigit stops).symm
        · rfl
      have tail : readNumberTail negative (readWhole d cs).1 (readWhole d cs).2.1
          (readWhole d cs).2.2 = .ok (n, rest) := read
      rw [readWhole_rest] at tail
      simp only [skipNumber, digit, if_neg leading, whole]
      exact skipNumberTail_of_readNumberTail tail

theorem skipScalar_of_readScalar {cs rest : List Char} {v : Value}
    (read : readScalar cs = .ok (v, rest)) : skipScalar cs = .ok ((), rest) := by
  cases scalar_of_readScalar read with
  | null word => exact word
  | yes word => exact word
  | no word => exact word
  | string read => exact skipString_of_readString read
  | negative read => exact skipNumber_of_readNumber read
  | positive digit read =>
    have skips := skipNumber_of_readNumber read
    simpa only [skipScalar, if_neg (ne_of_digit digit (d := 'n') rfl),
      if_neg (ne_of_digit digit (d := 't') rfl), if_neg (ne_of_digit digit (d := 'f') rfl),
      if_neg (ne_of_digit digit (d := '"') rfl), if_neg (ne_of_digit digit (d := '-') rfl),
      if_pos digit] using skips

theorem skipBetween_of_end {b : Bracket} {cs rest : List Char}
    (ended : skipSpace cs = b.closing :: rest) (first : Bool) (open_ : List Bracket) :
    skipBetween first (b :: open_) cs = skipBetween false open_ rest := by
  rw [skipBetween, ended]
  exact if_pos rfl

theorem skipBetween_of_separated {b : Bracket} {first : Bool} {cs inner : List Char}
    (separated : Separated first b.closing cs inner) (open_ : List Bracket) :
    skipBetween first (b :: open_) cs =
      b.lead inner >>= fun t => pure (.more (b :: open_), t.2) := by
  cases separated with
  | start start skipped more =>
    rw [skipBetween, skipped, start]
    exact if_neg more
  | comma later skipped =>
    have open_ : ',' ≠ b.closing := by
      cases b <;> decide
    rw [skipBetween, skipped, later]
    exact if_neg open_

/-- From a place between values on, skipping comes to its end at `fin`. -/
inductive Ends (first : Bool) (open_ : List Bracket) (cs fin : List Char) : Prop
  | done (last : skipBetween first open_ cs = .ok (.done (), fin))
  | more {later : List Bracket} {mid : List Char}
      (next : skipBetween first open_ cs = .ok (.more later, mid)) (shorter : mid.length ≤ cs.length)
      (runs : Runs skipStep later mid () fin)

theorem Ends.of_eq {first start : Bool} {open_ outer : List Bracket} {cs inner fin : List Char}
    (ends : Ends start outer inner fin)
    (same : skipBetween first open_ cs = skipBetween start outer inner)
    (shorter : inner.length ≤ cs.length) : Ends first open_ cs fin := by
  cases ends with
  | done last => exact .done (same.trans last)
  | more next le runs => exact .more (same.trans next) (Nat.le_trans le shorter) runs

theorem Ends.runs {first : Bool} {open_ outer : List Bracket} {cs inner fin : List Char}
    (ends : Ends first outer inner fin)
    (step : skipStep open_ cs = skipBetween first outer inner)
    (shorter : inner.length < cs.length) : Runs skipStep open_ cs () fin := by
  cases ends with
  | done last => exact .done (step.trans last)
  | more next le runs => exact .more (step.trans next) (Nat.lt_of_le_of_lt le shorter) runs

/-- Whatever is read is passed over, whichever brackets are open around it. -/
def Skips (read : Reader Value) : Prop :=
  ∀ ⦃cs v rest⦄, read cs = .ok (v, rest) →
    ∀ ⦃open_ fin⦄, Ends false open_ rest fin → Runs skipStep open_ cs () fin

section

variable {value : Reader Value} {first : Bool} {cs rest fin : List Char} {open_ : List Bracket}

theorem Elements.ends (skips : Skips value) (spaced : ∀ cs, value (skipSpace cs) = value cs)
    {items : List Value} (elements : Elements value first cs items rest)
    (ends : Ends false open_ rest fin) : Ends first (.list :: open_) cs fin := by
  induction elements with
  | nil ended =>
    have closed := nextElement_of_end ended
    have shorter := Nat.le_of_lt (length_lt_of_skipSpace closed)
    exact ends.of_eq (skipBetween_of_end (b := .list) closed _ open_) shorter
  | cons next read _ ih =>
    obtain ⟨inner, separated, rfl⟩ := separated_of_nextElement next
    rw [spaced] at read
    refine .more ?_ separated.length_le (skips read (ih ends))
    rw [skipBetween_of_separated (b := .list) separated]
    rfl

theorem lead_object {cs quoted behind mid : List Char} {key : String}
    (skipped : skipSpace cs = '"' :: quoted) (string : readString quoted = .ok (key, behind))
    (colon : readColon behind = .ok ((), mid)) : Bracket.object.lead cs = .ok ((), mid) := by
  have skips := skipString_of_readString string
  simp only [Bracket.lead, skipped, if_pos, skips]
  exact colon

theorem Members.ends (skips : Skips value) {members : List (String × Value)}
    (written : Members value first cs members rest) (ends : Ends false open_ rest fin) :
    Ends first (.object :: open_) cs fin := by
  induction written with
  | nil ended =>
    have closed := nextKey_of_end ended
    have shorter := Nat.le_of_lt (length_lt_of_skipSpace closed)
    exact ends.of_eq (skipBetween_of_end (b := .object) closed _ open_) shorter
  | cons next colon read _ ih =>
    have shorter := Nat.le_trans (local_readColon.length_le colon)
      ((local_nextKey _).length_le next)
    obtain ⟨inner, quoted, separated, skipped, string⟩ := separated_of_nextKey next
    refine .more ?_ shorter (skips read (ih ends))
    rw [skipBetween_of_separated (b := .object) separated, lead_object skipped string colon]
    rfl

end

theorem skipStep_of_scalar {c : Char} {cs inner rest : List Char}
    (skipped : skipSpace cs = c :: inner) (list : c ≠ '[') (object : c ≠ '\x7b')
    (scalar : skipScalar (c :: inner) = .ok ((), rest)) (open_ : List Bracket) :
    skipStep open_ cs = skipBetween false open_ rest := by
  unfold skipStep
  rw [skipped]
  split
  · rename_i same
    exact absurd (List.cons.inj same).1 list
  · rename_i same
    exact absurd (List.cons.inj same).1 object
  · rw [scalar]
    rfl

theorem Opens.runs {join : Joining} {depth : Nat} {text cs rest fin : List Char} {v : Value}
    {open_ : List Bracket} (opens : Opens join depth text v rest)
    (inside : ∀ d, depth = d + 1 → Skips (readJoined join d)) (skipped : skipSpace cs = text)
    (shorter : rest.length < cs.length) (ends : Ends false open_ rest fin) :
    Runs skipStep open_ cs () fin := by
  cases opens with
  | array elements =>
    have ends := elements.ends (inside _ rfl) (readJoined_skipSpace join _) ends
    exact ends.runs (by simp only [skipStep, skipped]) (length_lt_of_skipSpace skipped)
  | object written =>
    have ends := written.ends (inside _ rfl) ends
    exact ends.runs (by simp only [skipStep, skipped]) (length_lt_of_skipSpace skipped)
  | scalar list object read =>
    have scalar := skipScalar_of_readScalar read
    exact ends.runs (skipStep_of_scalar skipped list object scalar open_) shorter

theorem skips_readJoined (join : Joining) (depth : Nat) : Skips (readJoined join depth) := by
  have shorter {depth : Nat} {cs rest : List Char} {v : Value}
      (read : readJoined join depth cs = .ok (v, rest)) : rest.length < cs.length :=
    (local_readJoined join depth).length_lt (readJoined_nil join depth _) read
  -- What is inside a value is read with one level less.
  induction depth with
  | zero =>
    intro cs v rest read open_ fin ends
    exact (opens_of_readJoined read).runs nofun rfl (shorter read) ends
  | succ depth ih =>
    intro cs v rest read open_ fin ends
    have inside (d : Nat) (same : depth + 1 = d + 1) : Skips (readJoined join d) :=
      Nat.succ.inj same ▸ ih
    exact (opens_of_readJoined read).runs inside rfl (shorter read) ends

/-- What is read can be passed over, and the same is left behind it. -/
theorem skipValue_of_readJoined {join : Joining} {depth : Nat} {cs rest : List Char} {v : Value}
    (read : readJoined join depth cs = .ok (v, rest)) : skipValue cs = .ok ((), rest) :=
  (skips_readJoined join depth read (.done rfl)).iterate_eq

end AppScaffold.Json
