import AppScaffold.Proofs.Json.Loops

namespace AppScaffold.Json

-- Powers of numbers are those of the core library.
attribute [local instance (high)] instPowNat

variable {α : Type}

theorem local_readWord (word : List Char) : Local (readWord word) := by
  induction word with
  | nil => exact .pure ()
  | cons w word ih =>
    refine .cons nofun fun c => ?_
    simp only [readWord]
    exact .ite (fun _ => ih) fun _ => .error _

/-! Strings -/

theorem utf8Size_of_hexDigit? {c : Char} (digit : (hexDigit? c).isSome) : c.utf8Size = 1 := by
  have small : c.val ≤ 'f'.val := by
    unfold hexDigit? at digit
    split at digit
    · rename_i range
      exact UInt32.le_trans range.2 (by decide)
    · split at digit
      · rename_i range
        exact range.2
      · split at digit
        · rename_i range
          exact UInt32.le_trans range.2 (by decide)
        · cases digit
  exact if_pos (UInt32.le_trans small (by decide))

theorem utf8Length_of_hexDigits {cs : List Char} {ds : List Nat}
    (digits : cs.mapM hexDigit? = some ds) : utf8Length cs = cs.length := by
  induction cs generalizing ds with
  | nil => rfl
  | cons c cs ih =>
    simp only [List.mapM_cons, Option.bind_eq_bind, Option.bind_eq_some_iff] at digits
    obtain ⟨d, first, es, rest, -⟩ := digits
    have one := utf8Size_of_hexDigit? (c := c) (by simp [first])
    have others := ih rest
    simp only [utf8Length, List.map_cons, List.sum_cons, List.length_cons] at others ⊢
    omega

theorem readUnit_eq_ok {cs rest : List Char} {n : Nat} (taken : readUnit cs = .ok (n, rest)) :
    ∃ p, p.length = 4 ∧ cs = p ++ rest ∧ ∀ q, readUnit (p ++ q) = .ok (n, q) := by
  unfold readUnit at taken
  split at taken
  · cases taken
  · rename_i long
    split at taken
    · rename_i ds digits
      cases taken
      have four : (cs.take 4).length = 4 := by
        rw [utf8Length_of_hexDigits digits] at long
        have bound := List.length_take_le 4 cs
        omega
      refine ⟨cs.take 4, four, (List.take_append_drop 4 cs).symm, fun q => ?_⟩
      have front : (cs.take 4 ++ q).take 4 = cs.take 4 := List.take_left' four
      have back : (cs.take 4 ++ q).drop 4 = q := List.drop_left' four
      simp only [readUnit, front, back, if_neg long, digits]
      rfl
    · cases taken

theorem local_readUnit : Local readUnit := by
  intro cs n rest taken
  obtain ⟨p, -, split, again⟩ := readUnit_eq_ok taken
  exact ⟨p, split, fun q _ => again q⟩

theorem local_readTrailing (n : Nat) :
    Local fun cs => readUnit cs >>= fun (m, cs) =>
      if isTrailing m then
        pure (Char.ofNat (0x10000 + (n - 0xd800) * 0x400 + (m - 0xdc00)), cs)
      else .error (Fault.here .loneSurrogate cs) := by
  refine local_readUnit.bind fun m => ?_
  exact .ite (fun _ => .pure _) fun _ => .error _

theorem local_readUnicode : Local readUnicode := by
  unfold readUnicode
  refine local_readUnit.bind fun n => ?_
  refine .ite (fun _ => .error _) fun _ => .ite (fun _ => .pure _) fun _ => ?_
  intro cs c rest taken
  dsimp only at taken
  split at taken
  · rename_i inner
    obtain ⟨p, rfl, again⟩ := local_readTrailing n taken
    exact ⟨'\\' :: 'u' :: p, rfl, again⟩
  all_goals cases taken

theorem local_readEscape : Local readEscape := by
  refine .cons nofun fun c => ?_
  simp only [readEscape]
  refine .ite (fun _ => local_readUnicode) fun _ => ?_
  cases plainEscape? c with
  | none => exact .error _
  | some d => exact .pure d

theorem advances_stringStep : Advances stringStep where
  steps taken := by
    refine .cons nofun fun c => ?_
    simp only [stringStep]
    refine .ite (fun _ => .pure _) fun _ => .ite (fun _ => ?_) fun _ => ?_
    · exact local_readEscape.bind fun d => .pure (Step.more (d :: taken))
    · exact .ite (fun _ => .error _) fun _ => .pure _
  ends := nofun

theorem local_readString : Local readString := advances_stringStep.is_local []

/-! Numbers -/

theorem ne_of_digit {c d : Char} (digit : (digit? c).isSome) (other : digit? d = none) :
    c ≠ d := by
  rintro rfl
  rw [other] at digit
  cases digit

theorem not_startsDigit_of_prefix {q rest : List Char} (cut : q <+: rest)
    (other : startsDigit rest = false) : startsDigit q = false := by
  obtain ⟨r, rfl⟩ := cut
  cases q with
  | nil => rfl
  | cons c q => exact other

theorem dropDigits_of_not_startsDigit {cs : List Char} (other : startsDigit cs = false) :
    dropDigits cs = cs := by
  cases cs with
  | nil => rfl
  | cons c cs => exact List.dropWhile_cons_of_neg (by simpa [startsDigit] using other)

theorem not_startsDigit_dropDigits (cs : List Char) : startsDigit (dropDigits cs) = false := by
  have head := List.head?_dropWhile_not (fun c => (digit? c).isSome) cs
  rw [startsDigit, dropDigits]
  cases dropped : cs.dropWhile fun c => (digit? c).isSome with
  | nil => rfl
  | cons c rest => simpa [dropped] using head

theorem exists_digits (cs : List Char) :
    ∃ p, cs = p ++ dropDigits cs ∧
      ∀ q, startsDigit q = false → dropDigits (p ++ q) = q := by
  refine ⟨cs.takeWhile fun c => (digit? c).isSome, List.takeWhile_append_dropWhile.symm, ?_⟩
  intro q other
  rw [dropDigits, List.dropWhile_append_of_pos
    fun c member => List.all_eq_true.mp List.all_takeWhile c member]
  exact dropDigits_of_not_startsDigit other

theorem dropDigits_of_digit {c : Char} (digit : (digit? c).isSome) (cs : List Char) :
    dropDigits (c :: cs) = dropDigits cs :=
  List.dropWhile_cons_of_pos digit

theorem local_dropDigits : Local fun cs => .ok ((), dropDigits cs) := by
  intro cs u rest taken
  cases taken
  obtain ⟨p, split, again⟩ := exists_digits cs
  refine ⟨p, split, fun q cut => ?_⟩
  have stops := not_startsDigit_of_prefix cut (not_startsDigit_dropDigits cs)
  simp only [again q stops]

theorem Local.behind_digits {read : Reader α} (is_local : Local read) :
    Local fun cs => read (dropDigits cs) := by
  have both := local_dropDigits.after fun _ => is_local
  exact both

theorem Local.unless_digit {read : Reader α} (is_local : Local read) (fault : List Char → Fault) :
    Local fun cs => if startsDigit cs then .error (fault cs) else read cs := by
  intro cs a rest taken
  dsimp only at taken
  split at taken
  · cases taken
  · rename_i other
    obtain ⟨p, rfl, again⟩ := is_local taken
    refine ⟨p, rfl, fun q cut => ?_⟩
    have stops := not_startsDigit_of_prefix (List.prefix_append_right_inj p |>.mpr cut)
      (Bool.eq_false_iff.mpr other)
    simpa [stops] using again q cut

/-- A reader that takes nothing. -/
def Still (read : Reader α) : Prop :=
  ∀ ⦃cs a rest⦄, read cs = .ok (a, rest) → rest = cs ∧ ∀ q, read q = .ok (a, q)

theorem Still.is_local {read : Reader α} (still : Still read) : Local read := by
  intro cs a rest taken
  obtain ⟨rfl, again⟩ := still taken
  exact ⟨[], rfl, fun q _ => again q⟩

theorem Still.peek {read stay : Reader α} (still : Still stay) (empty : read [] = stay [])
    (heads : ∀ c, (Local fun cs => read (c :: cs)) ∨ ∀ cs, read (c :: cs) = stay (c :: cs)) :
    Local read := by
  intro cs a rest taken
  cases cs with
  | nil =>
    obtain ⟨rfl, -⟩ := still (empty ▸ taken)
    refine ⟨[], rfl, fun q cut => ?_⟩
    rw [List.prefix_nil.mp cut]
    exact taken
  | cons c cs =>
    rcases heads c with taking | staying
    · obtain ⟨p, rfl, again⟩ := taking taken
      exact ⟨c :: p, rfl, again⟩
    · obtain ⟨rfl, again⟩ := still (staying cs ▸ taken)
      refine ⟨[], rfl, fun q cut => ?_⟩
      rw [List.nil_append]
      cases q with
      | nil => rw [empty, again]
      | cons d q =>
        obtain ⟨rfl, -⟩ := List.cons_prefix_cons.mp cut
        rw [staying, again]

theorem still_makeFloat (negative : Bool) (significand : Nat) (exponent : Int) :
    Still (makeFloat negative significand exponent) := by
  intro cs n rest taken
  unfold makeFloat at taken ⊢
  split at taken
  · cases taken
    exact ⟨rfl, fun q => rfl⟩
  · cases taken

/-- A scan of characters one by one: at each it stops, goes on with the next one, or ends locally. -/
theorem local_scan {σ : Type} (scan : σ → Reader α) (result : σ → α)
    (ends : ∀ s, scan s [] = .ok (result s, []))
    (heads : ∀ s c, (∀ cs, scan s (c :: cs) = .ok (result s, c :: cs)) ∨
      (∃ t, ∀ cs, scan s (c :: cs) = scan t cs) ∨ Local fun cs => scan s (c :: cs)) (s : σ) :
    Local (scan s) := by
  intro cs a rest taken
  induction cs generalizing s with
  | nil =>
    rw [ends] at taken
    cases taken
    refine ⟨[], rfl, fun q cut => ?_⟩
    rw [List.prefix_nil.mp cut]
    exact ends s
  | cons c cs ih =>
    rcases heads s c with stops | ⟨t, goes⟩ | is_local
    · rw [stops] at taken
      cases taken
      refine ⟨[], rfl, fun q cut => ?_⟩
      cases q with
      | nil => exact ends s
      | cons d q =>
        obtain ⟨rfl, -⟩ := List.cons_prefix_cons.mp cut
        exact stops q
    · rw [goes] at taken
      obtain ⟨p, rfl, again⟩ := ih t taken
      exact ⟨c :: p, rfl, fun q cut => (goes (p ++ q)).trans (again q cut)⟩
    · obtain ⟨p, rfl, again⟩ := is_local taken
      exact ⟨c :: p, rfl, again⟩

def scanWhole (n : Nat) : Reader (Nat × Nat) := fun cs =>
  .ok (((readWhole n cs).1, (readWhole n cs).2.1), (readWhole n cs).2.2)

theorem local_scanWhole (n : Nat) : Local (scanWhole n) := by
  refine local_scan scanWhole (fun n => (n, 0)) (fun n => rfl) (fun n c => ?_) n
  cases digit : digit? c with
  | none => exact .inl fun cs => by simp only [scanWhole, readWhole, digit]
  | some d =>
    cases appended : appendDigit? n d with
    | some m => exact .inr (.inl ⟨m, fun cs => by simp only [scanWhole, readWhole, digit, appended]⟩)
    | none =>
      refine .inr (.inr fun cs a rest taken => ?_)
      have drops := dropDigits_of_digit (c := c) (by simp [digit])
      simp only [scanWhole, readWhole, digit, appended, drops] at taken ⊢
      cases taken
      obtain ⟨p, split, again⟩ := exists_digits cs
      refine ⟨p, split, fun q cut => ?_⟩
      have stops := not_startsDigit_of_prefix cut (not_startsDigit_dropDigits cs)
      have lengths := congrArg List.length split
      rw [List.length_append] at lengths
      simp only [again q stops, List.length_cons, List.length_append, Except.ok.injEq,
        Prod.mk.injEq, true_and, and_true]
      omega

def scanFraction (s : Nat × Nat) : Reader (Nat × Nat) := fun cs =>
  .ok (((readFraction s.1 s.2 cs).1, (readFraction s.1 s.2 cs).2.1), (readFraction s.1 s.2 cs).2.2)

theorem local_scanFraction (s : Nat × Nat) : Local (scanFraction s) := by
  refine local_scan scanFraction id (fun s => rfl) (fun s c => ?_) s
  cases digit : digit? c with
  | none => exact .inl fun cs => by simp only [scanFraction, readFraction, digit, id]
  | some d =>
    cases appended : appendDigit? s.1 d with
    | some m =>
      refine .inr (.inl ⟨(m, s.2 + 1), fun cs => ?_⟩)
      simp only [scanFraction, readFraction, digit, appended]
    | none =>
      refine .inr (.inr ?_)
      have drops := dropDigits_of_digit (c := c) (by simp [digit])
      simp only [scanFraction, readFraction, digit, appended, drops]
      exact Local.behind_digits (.pure (s.1, s.2))

def scanPower (power : Nat) : Reader Nat := fun cs => .ok (readPower power cs)

theorem local_scanPower (power : Nat) : Local (scanPower power) := by
  refine local_scan scanPower id (fun n => rfl) (fun n c => ?_) power
  cases digit : digit? c with
  | none => exact .inl fun cs => by simp only [scanPower, readPower, digit, id]
  | some d =>
    by_cases fits : n * 10 + d < 2 ^ (31 : Nat)
    · refine .inr (.inl ⟨n * 10 + d, fun cs => ?_⟩)
      simp only [scanPower, readPower, digit, if_pos fits]
    · exact .inl fun cs => by simp only [scanPower, readPower, digit, if_neg fits, id]

theorem local_exponentTail (negative down : Bool) (significand : Nat) (exponent : Int) :
    Local fun cs =>
      if startsDigit cs then
        if significand ≠ 0 ∧ down = false then .error (Fault.next .numberTooLarge cs)
        else makeFloat negative 0 0 (dropDigits cs)
      else makeFloat negative significand exponent cs := by
  refine (still_makeFloat negative significand exponent).peek rfl fun c => ?_
  cases digit : digit? c with
  | none => exact .inr fun cs => if_neg (by simp [startsDigit, digit])
  | some d =>
    have starts (cs : List Char) : startsDigit (c :: cs) = true := by simp [startsDigit, digit]
    refine .inl ?_
    simp only [starts, if_pos, dropDigits_of_digit (c := c) (by simp [digit])]
    refine .ite (fun _ => .error _) fun _ => ?_
    exact (still_makeFloat negative 0 0).is_local.behind_digits

def readUnsigned (negative : Bool) (significand : Nat) (scale : Int) (down : Bool) : Reader Number
  | [] => .error (Fault.here .endOfValue [])
  | c :: rest =>
    match digit? c with
    | none => .error (Fault.next .badNumber (c :: rest))
    | some d =>
      let (power, rest) := readPower d rest
      if startsDigit rest then
        if significand ≠ 0 ∧ down = false then .error (Fault.next .numberTooLarge rest)
        else makeFloat negative 0 0 (dropDigits rest)
      else makeFloat negative significand (if down then scale - power else scale + power) rest

theorem local_readUnsigned_cons (negative : Bool) (significand : Nat) (scale : Int) (down : Bool)
    (c : Char) : Local fun cs => readUnsigned negative significand scale down (c :: cs) := by
  simp only [readUnsigned]
  cases digit? c with
  | none => exact .error _
  | some d =>
    have both := (local_scanPower d).after fun power =>
      local_exponentTail negative down significand (if down then scale - power else scale + power)
    exact both

theorem readExponent_of_ne {c : Char} (plus : c ≠ '+') (minus : c ≠ '-') (negative : Bool)
    (significand : Nat) (scale : Int) (cs : List Char) :
    readExponent negative significand scale (c :: cs) =
      readUnsigned negative significand scale false (c :: cs) := by
  unfold readExponent
  split
  rename_i signed
  split at signed
  · rename_i same
    exact absurd (List.cons.inj same).1 plus
  · rename_i same
    exact absurd (List.cons.inj same).1 minus
  · cases signed
    rfl

theorem local_readExponent (negative : Bool) (significand : Nat) (scale : Int) :
    Local (readExponent negative significand scale) := by
  have reads (down : Bool) : Local (readUnsigned negative significand scale down) :=
    .cons nofun (local_readUnsigned_cons negative significand scale down)
  refine .cons nofun fun c => ?_
  by_cases plus : c = '+'
  · subst plus
    exact reads false
  · by_cases minus : c = '-'
    · subst minus
      exact reads true
    · simp only [readExponent_of_ne plus minus]
      exact local_readUnsigned_cons negative significand scale false c

theorem readFloatTail_of_ne {c : Char} (lower : c ≠ 'e') (upper : c ≠ 'E') (negative : Bool)
    (significand : Nat) (scale : Int) (cs : List Char) :
    readFloatTail negative significand scale (c :: cs) =
      makeFloat negative significand scale (c :: cs) := by
  unfold readFloatTail
  split
  · rename_i same
    exact absurd (List.cons.inj same).1 lower
  · rename_i same
    exact absurd (List.cons.inj same).1 upper
  · rfl

theorem local_readFloatTail (negative : Bool) (significand : Nat) (scale : Int) :
    Local (readFloatTail negative significand scale) := by
  refine (still_makeFloat negative significand scale).peek rfl fun c => ?_
  by_cases lower : c = 'e'
  · subst lower
    exact .inl (local_readExponent negative significand scale)
  · by_cases upper : c = 'E'
    · subst upper
      exact .inl (local_readExponent negative significand scale)
    · exact .inr (readFloatTail_of_ne lower upper negative significand scale)

theorem local_readDecimal (negative : Bool) (significand : Nat) (scale : Int) :
    Local (readDecimal negative significand scale) := by
  refine .cons nofun fun c => ?_
  cases digit : digit? c with
  | none =>
    have other (cs : List Char) : startsDigit (c :: cs) = false := by simp [startsDigit, digit]
    simp only [readDecimal, other, Bool.false_eq_true, if_false]
    exact .error _
  | some d =>
    have starts (cs : List Char) : startsDigit (c :: cs) = true := by simp [startsDigit, digit]
    have tail (s : Nat × Nat) := local_readFloatTail negative s.1 (scale - s.2)
    simp only [readDecimal, starts, if_true, readFraction, digit]
    cases appendDigit? significand d with
    | none =>
      simp only [dropDigits_of_digit (c := c) (by simp [digit])]
      exact (tail (significand, 0)).behind_digits
    | some m =>
      have both := (local_scanFraction (m, 1)).after tail
      exact both

def endNumber (negative : Bool) (significand dropped : Nat) : Reader Number := fun rest =>
  if dropped ≠ 0 then makeFloat negative significand dropped rest
  else if negative = false then pure (.natural significand, rest)
  else if significand = 0 ∨ 2 ^ (63 : Nat) < significand then makeFloat true significand 0 rest
  else pure (.negative significand, rest)

def readNumberTail (negative : Bool) (significand dropped : Nat) : Reader Number
  | '.' :: rest => readDecimal negative significand dropped rest
  | 'e' :: rest | 'E' :: rest => readExponent negative significand dropped rest
  | rest => endNumber negative significand dropped rest

theorem Still.pure (a : α) : Still fun cs => Except.ok (a, cs) := by
  intro cs b rest taken
  cases taken
  exact ⟨rfl, fun q => rfl⟩

theorem still_endNumber (negative : Bool) (significand dropped : Nat) :
    Still (endNumber negative significand dropped) := by
  unfold endNumber
  split
  · exact still_makeFloat negative significand dropped
  · split
    · exact .pure _
    · split
      · exact still_makeFloat true significand 0
      · exact .pure _

theorem readNumberTail_of_ne {c : Char} (point : c ≠ '.') (lower : c ≠ 'e') (upper : c ≠ 'E')
    (negative : Bool) (significand dropped : Nat) (cs : List Char) :
    readNumberTail negative significand dropped (c :: cs) =
      endNumber negative significand dropped (c :: cs) := by
  unfold readNumberTail
  split
  · rename_i same
    exact absurd (List.cons.inj same).1 point
  · rename_i same
    exact absurd (List.cons.inj same).1 lower
  · rename_i same
    exact absurd (List.cons.inj same).1 upper
  · rfl

theorem local_readNumberTail (negative : Bool) (significand dropped : Nat) :
    Local (readNumberTail negative significand dropped) := by
  refine (still_endNumber negative significand dropped).peek rfl fun c => ?_
  by_cases point : c = '.'
  · subst point
    exact .inl (local_readDecimal negative significand dropped)
  · by_cases lower : c = 'e'
    · subst lower
      exact .inl (local_readExponent negative significand dropped)
    · by_cases upper : c = 'E'
      · subst upper
        exact .inl (local_readExponent negative significand dropped)
      · exact .inr (readNumberTail_of_ne point lower upper negative significand dropped)

theorem local_readNumber (negative : Bool) : Local (readNumber negative) := by
  refine .cons nofun fun c => ?_
  simp only [readNumber]
  cases digit? c with
  | none => exact .error _
  | some d =>
    have whole := (local_scanWhole d).after fun s => local_readNumberTail negative s.1 s.2
    by_cases zero : d = 0
    · simp only [zero, true_and]
      exact (zero ▸ whole).unless_digit _
    · simp only [zero, false_and, if_false]
      exact whole

/-! Values and the signs between them -/

theorem local_readScalar : Local readScalar := by
  refine .cons nofun fun c => ?_
  simp only [readScalar]
  refine .ite (fun _ => (local_readWord _).bind fun _ => .pure Value.null) fun _ => ?_
  refine .ite (fun _ => (local_readWord _).bind fun _ => .pure (Value.bool true)) fun _ => ?_
  refine .ite (fun _ => (local_readWord _).bind fun _ => .pure (Value.bool false)) fun _ => ?_
  refine .ite (fun _ => local_readString.bind fun s => .pure (Value.string s)) fun _ => ?_
  refine .ite (fun _ => (local_readNumber true).bind fun n => .pure (Value.number n)) fun _ => ?_
  refine .ite (fun _ => ?_) fun _ => .error _
  have number := (local_readNumber false).behind_cons nofun c
  exact number.bind fun n => .pure (Value.number n)

theorem local_readColon : Local readColon := by
  refine .spaced (fun cs => by simp only [readColon, skipSpace_skipSpace]) nofun fun c other => ?_
  simp only [readColon, skipSpace_of_not_space other]
  exact .ite (fun _ => .pure ()) fun _ => .error _

theorem local_nextKey (first : Bool) : Local (nextKey first) := by
  have key : Local fun cs => readString cs >>= fun t => pure (some t.1, t.2) :=
    local_readString.bind fun k => .pure (some k)
  refine .spaced (fun cs => by simp only [nextKey, skipSpace_skipSpace]) nofun fun c other => ?_
  simp only [nextKey, skipSpace_of_not_space other]
  refine .ite (fun _ => .pure none) fun _ => .ite (fun _ => ?_) fun _ =>
    .ite (fun _ => ?_) fun _ => ?_
  · exact .ite (fun _ => key) fun _ => .error _
  · refine .spaced (fun cs => by simp only [skipSpace_skipSpace]) nofun fun d other => ?_
    simp only [skipSpace_of_not_space other]
    refine .ite (fun _ => key) fun _ => .ite (fun _ => .error _) fun _ => .error _
  · exact .error _

def takeElement (item : Reader α) (taken : List α) : Reader (Step (List α) (List α)) := fun cs => do
  let (a, cs) ← item cs
  pure (.more (a :: taken), cs)

theorem advances_elementStep {item : Reader α} (is_local : Local item)
    (some : ∀ x, item [] ≠ .ok x) : Advances (elementStep item) where
  steps taken := by
    have element (c : Char) : Local fun cs => takeElement item taken (c :: cs) :=
      (is_local.behind_cons some c).bind fun a => .pure (Step.more (a :: taken))
    refine .spaced (fun cs => by simp only [elementStep, nextElement, skipSpace_skipSpace]) nofun
      fun c other => ?_
    by_cases close : c = ']'
    · subst close
      exact .pure (Step.done taken.reverse)
    cases first : taken.isEmpty with
    | true => 
      simp only [elementStep, nextElement, skipSpace_of_not_space other, if_neg close, first]
      exact element c
    | false =>
      simp only [elementStep, nextElement, skipSpace_of_not_space other, if_neg close, first,
        Bool.false_eq_true, if_false]
      by_cases comma : c = ','
      · simp only [if_pos comma]
        refine .spaced (fun cs => by simp only [skipSpace_skipSpace]) nofun fun d other => ?_
        simp only [skipSpace_of_not_space other]
        by_cases ends : d = ']'
        · simp only [if_pos ends]
          exact .error _
        · simp only [if_neg ends]
          exact element d
      · simp only [if_neg comma]
        exact .error _
  ends := nofun

theorem advances_memberStep {σ : Type} {member : σ → String → Reader σ}
    (is_local : ∀ s key, Local (member s key)) : Advances (memberStep member) where
  steps state := by
    refine (local_nextKey state.1).bind fun key => ?_
    cases key with
    | none => exact .pure (Step.done state.2)
    | some key => exact (is_local state.2 key).bind fun s => .pure (Step.more (false, s))
  ends := nofun

end AppScaffold.Json
