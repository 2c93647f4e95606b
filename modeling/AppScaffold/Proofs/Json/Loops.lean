import AppScaffold.Json.Reader
import AppScaffold.Proofs.Except

/-! Readers as they take a text from its front. What a local reader takes does not depend on where
the text behind it ends, and a loop of local steps comes to its end within the fuel it is given. -/

namespace AppScaffold.Json

variable {α β σ : Type}

theorem skipSpace_of_space {c : Char} (space : isSpace c = true) (cs : List Char) :
    skipSpace (c :: cs) = skipSpace cs :=
  List.dropWhile_cons_of_pos space

theorem skipSpace_of_not_space {c : Char} (other : isSpace c = false) (cs : List Char) :
    skipSpace (c :: cs) = c :: cs :=
  List.dropWhile_cons_of_neg (by simp [other])

@[simp] theorem skipSpace_skipSpace (cs : List Char) : skipSpace (skipSpace cs) = skipSpace cs := by
  induction cs with
  | nil => rfl
  | cons c cs ih =>
    cases space : isSpace c with
    | true => rw [skipSpace_of_space space, ih]
    | false => rw [skipSpace_of_not_space space, skipSpace_of_not_space space]

theorem isSpace_of_skipSpace {c : Char} {cs rest : List Char} (skipped : skipSpace cs = c :: rest) :
    isSpace c = false := by
  have head := List.head?_dropWhile_not isSpace cs
  rw [show cs.dropWhile isSpace = c :: rest from skipped] at head
  simpa using head

theorem skipSpace_append {spaces : List Char} (blank : ∀ c ∈ spaces, isSpace c = true)
    (cs : List Char) : skipSpace (spaces ++ cs) = skipSpace cs :=
  List.dropWhile_append_of_pos blank

theorem exists_spaces (cs : List Char) :
    ∃ spaces, cs = spaces ++ skipSpace cs ∧ ∀ c ∈ spaces, isSpace c = true :=
  ⟨cs.takeWhile isSpace, List.takeWhile_append_dropWhile.symm,
    fun c member => List.all_eq_true.mp List.all_takeWhile c member⟩

theorem readDocument_eq_ok_iff {reader : Reader α} {text : String} {a : α} :
    readDocument reader text = .ok a ↔
      ∃ rest, reader text.toList = .ok (a, rest) ∧ skipSpace rest = [] := by
  constructor
  · intro read
    simp only [readDocument] at read
    split at read
    · cases read
    · rename_i rest taken
      split at read
      · rename_i blank
        cases read
        exact ⟨rest, taken, blank⟩
      · cases read
  · rintro ⟨rest, taken, blank⟩
    simp only [readDocument, taken, blank]

/-- The reader takes the same from a text that is cut off anywhere behind what it takes. -/
def Local (read : Reader α) : Prop :=
  ∀ ⦃cs a rest⦄, read cs = .ok (a, rest) →
    ∃ p, cs = p ++ rest ∧ ∀ q, q <+: rest → read (p ++ q) = .ok (a, q)

namespace Local

theorem length_le {read : Reader α} (is_local : Local read) {cs rest : List Char} {a : α}
    (taken : read cs = .ok (a, rest)) : rest.length ≤ cs.length := by
  obtain ⟨p, rfl, -⟩ := is_local taken
  simp

theorem length_lt {read : Reader α} (is_local : Local read) {cs rest : List Char} {a : α}
    (some : read [] ≠ .ok (a, [])) (taken : read cs = .ok (a, rest)) : rest.length < cs.length := by
  obtain ⟨p, rfl, again⟩ := is_local taken
  cases p with
  | nil => exact absurd (again [] List.nil_prefix) some
  | cons c p =>
    simp only [List.length_append, List.length_cons]
    omega

theorem pure (a : α) : Local fun cs => Except.ok (a, cs) := by
  intro cs b rest taken
  cases taken
  exact ⟨[], rfl, fun q _ => rfl⟩

theorem error (fault : List Char → Fault) : Local (α := α) fun cs => .error (fault cs) := by
  intro cs a rest taken
  cases taken

theorem bind {read : Reader α} {next : α × List Char → Except Fault (β × List Char)}
    (first : Local read) (later : ∀ a, Local fun cs => next (a, cs)) :
    Local fun cs => read cs >>= next := by
  intro cs b rest taken
  obtain ⟨⟨a, mid⟩, front, back⟩ := bind_eq_ok_iff.mp taken
  obtain ⟨p, rfl, again⟩ := first front
  obtain ⟨r, rfl, more⟩ := later a back
  refine ⟨p ++ r, by simp, fun q cut => ?_⟩
  have both := again (r ++ q) (List.prefix_append_right_inj r |>.mpr cut)
  simp only [List.append_assoc, both]
  exact more q cut

theorem after {read : Reader α} {next : α → Reader β} (first : Local read)
    (later : ∀ a, Local (next a)) : Local fun cs => read cs >>= fun t => next t.1 t.2 :=
  first.bind later

theorem ite {c : Prop} [Decidable c] {yes no : Reader α} (pos : c → Local yes)
    (neg : ¬ c → Local no) : Local fun cs => if c then yes cs else no cs := by
  by_cases holds : c
  · simpa only [if_pos holds] using pos holds
  · simpa only [if_neg holds] using neg holds

theorem cons {read : Reader α} (empty : ∀ x, read [] ≠ .ok x)
    (heads : ∀ c, Local fun cs => read (c :: cs)) : Local read := by
  intro cs a rest taken
  cases cs with
  | nil => exact absurd taken (empty _)
  | cons c cs =>
    obtain ⟨p, rfl, again⟩ := heads c taken
    exact ⟨c :: p, rfl, again⟩

theorem behind_cons {read : Reader α} (is_local : Local read) (some : ∀ x, read [] ≠ .ok x)
    (c : Char) : Local fun cs => read (c :: cs) := by
  intro cs a rest taken
  obtain ⟨p, split, again⟩ := is_local taken
  cases p with
  | nil => exact absurd (again [] List.nil_prefix) (some _)
  | cons d p =>
    obtain ⟨rfl, rfl⟩ := List.cons.inj split
    exact ⟨p, rfl, again⟩

theorem spaced {read : Reader α} (skips : ∀ cs, read (skipSpace cs) = read cs)
    (empty : ∀ x, read [] ≠ .ok x)
    (heads : ∀ c, isSpace c = false → Local fun cs => read (c :: cs)) : Local read := by
  intro cs a rest taken
  obtain ⟨spaces, split, blank⟩ := exists_spaces cs
  rw [← skips] at taken
  cases skipped : skipSpace cs with
  | nil => exact absurd (skipped ▸ taken) (empty _)
  | cons c inner =>
    rw [skipped] at taken split
    obtain ⟨p, rfl, again⟩ := heads c (isSpace_of_skipSpace skipped) taken
    refine ⟨spaces ++ c :: p, by simp [split], fun q cut => ?_⟩
    rw [List.append_assoc, ← skips, skipSpace_append blank, skips]
    exact again q cut

end Local

theorem loop_of_more {step : σ → Reader (Step σ α)} {s t : σ} {cs mid : List Char}
    (first : step s cs = .ok (.more t, mid)) (fuel : Nat) :
    loop step (fuel + 1) s cs = loop step fuel t mid := by
  rw [loop, first]
  rfl

theorem loop_of_done {step : σ → Reader (Step σ α)} {s : σ} {a : α} {cs rest : List Char}
    (last : step s cs = .ok (.done a, rest)) (fuel : Nat) :
    loop step (fuel + 1) s cs = .ok (a, rest) := by
  rw [loop, last]
  rfl

/-- What every step keeps holds where the loop is done. -/
theorem loop_induct {step : σ → Reader (Step σ α)} {P : σ → Prop} {Q : α → Prop}
    (more : ∀ {s cs t mid}, P s → step s cs = .ok (.more t, mid) → P t)
    (done : ∀ {s cs a rest}, P s → step s cs = .ok (.done a, rest) → Q a) {fuel : Nat} {s : σ}
    {cs : List Char} {a : α} {rest : List Char} (start : P s)
    (ends : loop step fuel s cs = .ok (a, rest)) : Q a := by
  induction fuel generalizing s cs with
  | zero => cases ends
  | succ fuel ih =>
    obtain ⟨⟨outcome, mid⟩, first, later⟩ := bind_eq_ok_iff.mp ends
    cases outcome with
    | more t => exact ih (more start first) later
    | done b =>
      cases later
      exact done start first

/-- The steps from a state on come to an end, and every one before the last shortens the text. -/
inductive Runs (step : σ → Reader (Step σ α)) : σ → List Char → α → List Char → Prop
  | done {s : σ} {cs : List Char} {a : α} {rest : List Char}
      (last : step s cs = .ok (.done a, rest)) : Runs step s cs a rest
  | more {s t : σ} {cs mid : List Char} {a : α} {rest : List Char}
      (first : step s cs = .ok (.more t, mid)) (shorter : mid.length < cs.length)
      (later : Runs step t mid a rest) : Runs step s cs a rest

theorem Runs.loop_eq {step : σ → Reader (Step σ α)} {s : σ} {cs : List Char} {a : α}
    {rest : List Char} (runs : Runs step s cs a rest) {fuel : Nat} (enough : cs.length < fuel) :
    loop step fuel s cs = .ok (a, rest) := by
  induction runs generalizing fuel with
  | done last =>
    obtain ⟨fuel, rfl⟩ := Nat.exists_eq_add_one_of_ne_zero (Nat.ne_zero_of_lt enough)
    exact loop_of_done last fuel
  | more first shorter _ ih =>
    obtain ⟨fuel, rfl⟩ := Nat.exists_eq_add_one_of_ne_zero (Nat.ne_zero_of_lt enough)
    rw [loop_of_more first]
    exact ih (by omega)

theorem Runs.iterate_eq {step : σ → Reader (Step σ α)} {s : σ} {cs : List Char} {a : α}
    {rest : List Char} (runs : Runs step s cs a rest) : iterate step s cs = .ok (a, rest) :=
  runs.loop_eq (Nat.lt_succ_self _)

theorem runs_of_loop {step : σ → Reader (Step σ α)}
    (shortens : ∀ {s cs t mid}, step s cs = .ok (.more t, mid) → mid.length < cs.length)
    {fuel : Nat} {s : σ} {cs : List Char} {a : α} {rest : List Char}
    (ends : loop step fuel s cs = .ok (a, rest)) : Runs step s cs a rest := by
  induction fuel generalizing s cs with
  | zero => cases ends
  | succ fuel ih =>
    obtain ⟨⟨outcome, mid⟩, first, later⟩ := bind_eq_ok_iff.mp ends
    cases outcome with
    | more t => exact .more first (shortens first) (ih later)
    | done b =>
      cases later
      exact .done first

/-- The steps are local, and none of them goes on at the end of a text. -/
structure Advances (step : σ → Reader (Step σ α)) : Prop where
  steps : ∀ s, Local (step s)
  ends : ∀ s t rest, step s [] ≠ .ok (.more t, rest)

namespace Advances

variable {step : σ → Reader (Step σ α)}

theorem shortens (advances : Advances step) {s t : σ} {cs mid : List Char}
    (first : step s cs = .ok (.more t, mid)) : mid.length < cs.length :=
  (advances.steps s).length_lt (advances.ends s t []) first

theorem runs_iff (advances : Advances step) {s : σ} {cs : List Char} {a : α} {rest : List Char} :
    iterate step s cs = .ok (a, rest) ↔ Runs step s cs a rest :=
  ⟨runs_of_loop advances.shortens, Runs.iterate_eq⟩

theorem is_local (advances : Advances step) (s : σ) : Local (iterate step s) := by
  intro cs a rest ends
  have runs := advances.runs_iff.mp ends
  clear ends
  suffices again : ∃ p, cs = p ++ rest ∧ ∀ q, q <+: rest → Runs step s (p ++ q) a q by
    obtain ⟨p, split, again⟩ := again
    exact ⟨p, split, fun q cut => (again q cut).iterate_eq⟩
  induction runs with
  | done last =>
    obtain ⟨p, split, again⟩ := advances.steps _ last
    exact ⟨p, split, fun q cut => .done (again q cut)⟩
  | more first _ _ ih =>
    obtain ⟨r, rfl, later⟩ := ih
    obtain ⟨p, rfl, again⟩ := advances.steps _ first
    refine ⟨p ++ r, by simp, fun q cut => ?_⟩
    have both := again (r ++ q) (List.prefix_append_right_inj r |>.mpr cut)
    rw [List.append_assoc]
    exact .more both (advances.shortens both) (later q cut)

end Advances

end AppScaffold.Json
