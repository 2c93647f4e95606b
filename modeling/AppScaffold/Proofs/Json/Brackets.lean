import AppScaffold.Proofs.Json.Locality

namespace AppScaffold.Json

variable {α : Type}

/-- What stands before an element or a member: nothing behind the opening bracket, a comma later. -/
inductive Separated (first : Bool) (closing : Char) (cs : List Char) : List Char → Prop
  | start {c : Char} {inner : List Char} (start : first = true) (skipped : skipSpace cs = c :: inner)
      (more : c ≠ closing) : Separated first closing cs (c :: inner)
  | comma {inner : List Char} (later : first = false) (skipped : skipSpace cs = ',' :: inner) :
      Separated first closing cs inner

theorem length_skipSpace_le (cs : List Char) : (skipSpace cs).length ≤ cs.length :=
  (List.dropWhile_sublist isSpace).length_le

theorem length_lt_of_skipSpace {c : Char} {cs rest : List Char}
    (skipped : skipSpace cs = c :: rest) : rest.length < cs.length := by
  have skips := length_skipSpace_le cs
  rw [skipped, List.length_cons] at skips
  exact skips

theorem Separated.length_le {first : Bool} {closing : Char} {cs inner : List Char}
    (separated : Separated first closing cs inner) : inner.length ≤ cs.length := by
  have skips := length_skipSpace_le cs
  cases separated with
  | start _ skipped _ => exact skipped ▸ skips
  | comma _ skipped => exact Nat.le_of_lt (length_lt_of_skipSpace skipped)

theorem nextElement_cases {first more : Bool} {cs mid : List Char}
    (next : nextElement first cs = .ok (more, mid)) :
    more = false ∧ skipSpace cs = ']' :: mid ∨
      more = true ∧ ∃ inner, Separated first ']' cs inner ∧ skipSpace inner = mid := by
  unfold nextElement at next
  split at next
  · cases next
  rename_i c inner skipped
  split at next
  · rename_i close
    cases next
    exact .inl ⟨rfl, close ▸ skipped⟩
  rename_i open_
  split at next
  · rename_i start
    cases next
    refine .inr ⟨rfl, c :: inner, .start start skipped open_, ?_⟩
    rw [← skipped, skipSpace_skipSpace]
  rename_i later
  split at next
  · rename_i comma
    split at next
    · cases next
    split at next
    · cases next
    · rename_i behind _
      cases next
      exact .inr ⟨rfl, inner, .comma (Bool.eq_false_iff.mpr later) (comma ▸ skipped), behind⟩
  · cases next

theorem nextElement_of_end {first : Bool} {cs rest : List Char}
    (ended : nextElement first cs = .ok (false, rest)) : skipSpace cs = ']' :: rest := by
  rcases nextElement_cases ended with ⟨-, closed⟩ | ⟨more, -⟩
  · exact closed
  · cases more

theorem separated_of_nextElement {first : Bool} {cs mid : List Char}
    (next : nextElement first cs = .ok (true, mid)) :
    ∃ inner, Separated first ']' cs inner ∧ skipSpace inner = mid := by
  rcases nextElement_cases next with ⟨ended, -⟩ | ⟨-, more⟩
  · cases ended
  · exact more

theorem nextKey_cases {first : Bool} {cs mid : List Char} {key? : Option String}
    (next : nextKey first cs = .ok (key?, mid)) :
    key? = none ∧ skipSpace cs = '\x7d' :: mid ∨
      ∃ key inner quoted, key? = some key ∧ Separated first '\x7d' cs inner ∧
        skipSpace inner = '"' :: quoted ∧ readString quoted = .ok (key, mid) := by
  have string {cs : List Char}
      (read : (readString cs >>= fun t => pure (some t.1, t.2)) = .ok (key?, mid)) :
      ∃ key, key? = some key ∧ readString cs = .ok (key, mid) := by
    obtain ⟨⟨key, after⟩, string, same⟩ := bind_eq_ok_iff.mp read
    cases same
    exact ⟨key, rfl, string⟩
  unfold nextKey at next
  dsimp only at next
  split at next
  · cases next
  rename_i c inner skipped
  split at next
  · rename_i close
    cases next
    exact .inl ⟨rfl, close ▸ skipped⟩
  rename_i open_
  split at next
  · rename_i start
    split at next
    · rename_i quote
      obtain ⟨key, known, string⟩ := string next
      refine .inr ⟨key, c :: inner, inner, known, .start start skipped open_, ?_, string⟩
      rw [← skipped, skipSpace_skipSpace, skipped, quote]
    · cases next
  rename_i later
  split at next
  · rename_i comma
    split at next
    · cases next
    rename_i d quoted behind
    split at next
    · rename_i quote
      obtain ⟨key, known, string⟩ := string next
      have separated : Separated first '\x7d' cs inner :=
        .comma (Bool.eq_false_iff.mpr later) (comma ▸ skipped)
      exact .inr ⟨key, inner, quoted, known, separated, quote ▸ behind, string⟩
    split at next
    all_goals cases next
  · cases next

theorem nextKey_of_end {first : Bool} {cs rest : List Char}
    (ended : nextKey first cs = .ok (none, rest)) : skipSpace cs = '\x7d' :: rest := by
  rcases nextKey_cases ended with ⟨-, closed⟩ | ⟨key, -, -, known, -⟩
  · exact closed
  · cases known

theorem separated_of_nextKey {first : Bool} {cs mid : List Char} {key : String}
    (next : nextKey first cs = .ok (some key, mid)) :
    ∃ inner quoted, Separated first '\x7d' cs inner ∧ skipSpace inner = '"' :: quoted ∧
      readString quoted = .ok (key, mid) := by
  rcases nextKey_cases next with ⟨ended, -⟩ | ⟨k, inner, quoted, known, inside⟩
  · cases ended
  · cases known
    exact ⟨inner, quoted, inside⟩

/-- The elements of an array in a text, from its start on when `first`. -/
inductive Elements (item : Reader α) : Bool → List Char → List α → List Char → Prop
  | nil {first : Bool} {cs rest : List Char} (ended : nextElement first cs = .ok (false, rest)) :
      Elements item first cs [] rest
  | cons {first : Bool} {cs mid after rest : List Char} {a : α} {as : List α}
      (next : nextElement first cs = .ok (true, mid)) (read : item mid = .ok (a, after))
      (later : Elements item false after as rest) : Elements item first cs (a :: as) rest

inductive Members (value : Reader α) : Bool → List Char → List (String × α) → List Char → Prop
  | nil {first : Bool} {cs rest : List Char} (ended : nextKey first cs = .ok (none, rest)) :
      Members value first cs [] rest
  | cons {first : Bool} {cs behind mid after rest : List Char} {key : String} {v : α}
      {ms : List (String × α)} (next : nextKey first cs = .ok (some key, behind))
      (colon : readColon behind = .ok ((), mid)) (read : value mid = .ok (v, after))
      (later : Members value false after ms rest) : Members value first cs ((key, v) :: ms) rest

theorem elementStep_of_end {item : Reader α} {taken : List α} {cs rest : List Char}
    (ended : nextElement taken.isEmpty cs = .ok (false, rest)) :
    elementStep item taken cs = .ok (.done taken.reverse, rest) := by
  rw [elementStep, ended]
  rfl

theorem elementStep_of_more {item : Reader α} {taken : List α} {cs mid : List Char}
    (next : nextElement taken.isEmpty cs = .ok (true, mid)) :
    elementStep item taken cs = takeElement item taken mid := by
  rw [elementStep, next]
  rfl

theorem memberStep_of_end {σ : Type} {member : σ → String → Reader σ} {first : Bool}
    {cs rest : List Char} (ended : nextKey first cs = .ok (none, rest)) (s : σ) :
    memberStep member (first, s) cs = .ok (.done s, rest) := by
  rw [memberStep, ended]
  rfl

theorem memberStep_of_key {σ : Type} {member : σ → String → Reader σ} {first : Bool}
    {key : String} {cs mid : List Char} (next : nextKey first cs = .ok (some key, mid)) (s : σ) :
    memberStep member (first, s) cs =
      member s key mid >>= fun t => pure (.more (false, t.1), t.2) := by
  rw [memberStep, next]
  rfl

theorem elements_of_runs {item : Reader α} {taken bs : List α} {cs rest : List Char}
    (runs : Runs (elementStep item) taken cs bs rest) :
    ∃ as, bs = taken.reverse ++ as ∧ Elements item taken.isEmpty cs as rest := by
  induction runs with
  | done last =>
    obtain ⟨⟨more, mid⟩, next, last⟩ := bind_eq_ok_iff.mp last
    cases more with
    | true =>
      obtain ⟨_, _, last⟩ := bind_eq_ok_iff.mp last
      cases last
    | false =>
      cases last
      exact ⟨[], by simp, .nil next⟩
  | more first _ _ ih =>
    obtain ⟨as, rfl, later⟩ := ih
    obtain ⟨⟨more, mid⟩, next, first⟩ := bind_eq_ok_iff.mp first
    cases more with
    | true =>
      obtain ⟨⟨a, after⟩, read, first⟩ := bind_eq_ok_iff.mp first
      cases first
      exact ⟨a :: as, by simp, .cons next read later⟩
    | false => cases first

theorem Elements.runs {item : Reader α} (advances : Advances (elementStep item)) {first : Bool}
    {cs rest : List Char} {as : List α} (elements : Elements item first cs as rest)
    {taken : List α} (start : taken.isEmpty = first) :
    Runs (elementStep item) taken cs (taken.reverse ++ as) rest := by
  induction elements generalizing taken with
  | nil ended =>
    rw [List.append_nil]
    exact .done (elementStep_of_end (start ▸ ended))
  | @cons first cs mid after rest a as next read _ ih =>
    have step : elementStep item taken cs = .ok (.more (a :: taken), after) := by
      rw [elementStep_of_more (start ▸ next), takeElement, read]
      rfl
    have later : Runs (elementStep item) (a :: taken) after ((a :: taken).reverse ++ as) rest :=
      ih rfl
    rw [List.reverse_cons, List.append_assoc] at later
    exact .more step (advances.shortens step) later

theorem readElements_iff {item : Reader α} (advances : Advances (elementStep item))
    {cs rest : List Char} {as : List α} :
    readElements item cs = .ok (as, rest) ↔ Elements item true cs as rest := by
  rw [readElements, advances.runs_iff]
  constructor
  · intro runs
    obtain ⟨bs, rfl, elements⟩ := elements_of_runs runs
    exact elements
  · intro elements
    exact elements.runs advances rfl

section

variable {first : Bool} {cs rest : List Char}

theorem Elements.length_le {item : Reader α} (is_local : Local item) (some : ∀ x, item [] ≠ .ok x)
    {items : List α} (elements : Elements item first cs items rest) :
    items.length + rest.length ≤ cs.length := by
  induction elements with
  | nil ended =>
    have closed := length_lt_of_skipSpace (nextElement_of_end ended)
    rw [List.length_nil]
    omega
  | cons next read _ ih =>
    obtain ⟨inner, separated, rfl⟩ := separated_of_nextElement next
    have front := Nat.le_trans (length_skipSpace_le inner) separated.length_le
    have inside := is_local.length_lt (some _) read
    rw [List.length_cons]
    omega

theorem Members.length_le {value : Reader α} (is_local : Local value)
    (some : ∀ x, value [] ≠ .ok x) {members : List (String × α)}
    (written : Members value first cs members rest) :
    members.length + rest.length ≤ cs.length := by
  induction written with
  | nil ended =>
    have closed := length_lt_of_skipSpace (nextKey_of_end ended)
    rw [List.length_nil]
    omega
  | cons next colon read _ ih =>
    have front := (local_nextKey _).length_le next
    have between := local_readColon.length_le colon
    have inside := is_local.length_lt (some _) read
    rw [List.length_cons]
    omega

end

theorem Members.closing {value : Reader α} (is_local : Local value) {first : Bool}
    {cs rest : List Char} {members : List (String × α)}
    (written : Members value first cs members rest) : ∃ q, cs = q ++ '\x7d' :: rest := by
  induction written with
  | @nil first cs rest ended =>
    obtain ⟨spaces, split, -⟩ := exists_spaces cs
    exact ⟨spaces, nextKey_of_end ended ▸ split⟩
  | cons next colon read _ ih =>
    obtain ⟨q, rfl⟩ := ih
    obtain ⟨p, rfl, -⟩ := is_local read
    obtain ⟨between, rfl, -⟩ := local_readColon colon
    obtain ⟨front, rfl, -⟩ := local_nextKey _ next
    exact ⟨front ++ (between ++ (p ++ q)), by simp⟩

theorem Elements.transfer {β : Type} {item : Reader α} {other : Reader β}
    (reads : ∀ {cs a rest}, item cs = .ok (a, rest) → ∃ b, other cs = .ok (b, rest)) {first : Bool}
    {cs rest : List Char} {as : List α} (elements : Elements item first cs as rest) :
    ∃ bs, Elements other first cs bs rest := by
  induction elements with
  | nil ended => exact ⟨[], .nil ended⟩
  | cons next read _ ih =>
    obtain ⟨b, read⟩ := reads read
    obtain ⟨bs, later⟩ := ih
    exact ⟨b :: bs, .cons next read later⟩

theorem Members.transfer {β : Type} {value : Reader α} {other : Reader β}
    (reads : ∀ {cs a rest}, value cs = .ok (a, rest) → ∃ b, other cs = .ok (b, rest)) {first : Bool}
    {cs rest : List Char} {ms : List (String × α)} (members : Members value first cs ms rest) :
    ∃ ns, Members other first cs ns rest := by
  induction members with
  | nil ended => exact ⟨[], .nil ended⟩
  | cons next colon read _ ih =>
    obtain ⟨b, read⟩ := reads read
    obtain ⟨ns, later⟩ := ih
    exact ⟨_, .cons next colon read later⟩

end AppScaffold.Json
