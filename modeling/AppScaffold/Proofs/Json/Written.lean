import AppScaffold.Proofs.Json.Brackets

/-! Values as a text writes them. An object that is read keeps one value for each key; a written one
keeps every member, so that it can be told whether it repeats a key. -/

namespace AppScaffold.Json

variable {α : Type}

mutual

/-- No object inside the value repeats a key. -/
def Value.Distinct : Value → Prop
  | .null | .bool _ | .number _ | .string _ => True
  | .array items => DistinctItems items
  | .object members => (members.map Prod.fst).Nodup ∧ DistinctMembers members

def DistinctItems : List Value → Prop
  | [] => True
  | v :: vs => v.Distinct ∧ DistinctItems vs

def DistinctMembers : List (String × Value) → Prop
  | [] => True
  | (_, v) :: ms => v.Distinct ∧ DistinctMembers ms

end

/-- How a member joins those that stand before it in an object. -/
abbrev Joining := List (String × Value) → String × Value → List (String × Value)

def Joining.replace : Joining := fun members m => setMember m.1 m.2 members

def Joining.keep : Joining := fun members m => members ++ [m]

def joinStep (join : Joining) (value : Reader Value) (members : List (String × Value))
    (key : String) : Reader (List (String × Value)) := fun cs => do
  let ((), cs) ← readColon cs
  let (v, cs) ← value cs
  pure (join members (key, v), cs)

/-- A value with at most `depth` arrays and objects inside one another. -/
def readJoined (join : Joining) : Nat → Reader Value
  | 0, cs =>
    match skipSpace cs with
    | '[' :: rest => .error (Fault.next .tooDeep ('[' :: rest))
    | '\x7b' :: rest => .error (Fault.next .tooDeep ('\x7b' :: rest))
    | cs => readScalar cs
  | depth + 1, cs =>
    match skipSpace cs with
    | '[' :: rest => do
      let (items, rest) ← readElements (readJoined join depth) rest
      pure (.array items, rest)
    | '\x7b' :: rest => do
      let (members, rest) ← readMembers (joinStep join (readJoined join depth)) [] rest
      pure (.object members, rest)
    | cs => readScalar cs

theorem readValue_eq (depth : Nat) : readValue depth = readJoined .replace depth := by
  induction depth with
  | zero => rfl
  | succ depth ih =>
    funext cs
    simp only [readValue, readJoined, ih]
    rfl

def Value.written (text : String) : Except Error Value :=
  readDocument (readJoined .keep maxDepth) text

variable {join : Joining}

theorem joinStep_eq_ok_iff {value : Reader Value} {members ms : List (String × Value)}
    {key : String} {cs rest : List Char} :
    joinStep join value members key cs = .ok (ms, rest) ↔
      ∃ mid v, readColon cs = .ok ((), mid) ∧ value mid = .ok (v, rest) ∧
        ms = join members (key, v) := by
  constructor
  · intro read
    obtain ⟨⟨_, mid⟩, colon, read⟩ := bind_eq_ok_iff.mp read
    obtain ⟨⟨v, after⟩, inner, read⟩ := bind_eq_ok_iff.mp read
    cases read
    exact ⟨mid, v, colon, inner, rfl⟩
  · rintro ⟨mid, v, colon, inner, rfl⟩
    rw [joinStep, colon]
    show value mid >>= _ = _
    rw [inner]
    rfl

theorem members_of_runs {value : Reader Value} {state : Bool × List (String × Value)}
    {ms : List (String × Value)} {cs rest : List Char}
    (runs : Runs (memberStep (joinStep join value)) state cs ms rest) :
    ∃ new, ms = new.foldl join state.2 ∧ Members value state.1 cs new rest := by
  induction runs with
  | done last =>
    obtain ⟨⟨key, mid⟩, next, last⟩ := bind_eq_ok_iff.mp last
    cases key with
    | some key =>
      obtain ⟨_, _, last⟩ := bind_eq_ok_iff.mp last
      cases last
    | none =>
      cases last
      exact ⟨[], rfl, .nil next⟩
  | more first _ _ ih =>
    obtain ⟨new, rfl, later⟩ := ih
    obtain ⟨⟨key, mid⟩, next, first⟩ := bind_eq_ok_iff.mp first
    cases key with
    | some key =>
      obtain ⟨⟨ms, after⟩, read, first⟩ := bind_eq_ok_iff.mp first
      cases first
      obtain ⟨inner, v, colon, value, rfl⟩ := joinStep_eq_ok_iff.mp read
      exact ⟨(key, v) :: new, rfl, .cons next colon value later⟩
    | none => cases first

theorem Members.runs {value : Reader Value} (advances : Advances (memberStep (joinStep join value)))
    {first : Bool} {cs rest : List Char} {new : List (String × Value)}
    (members : Members value first cs new rest) (taken : List (String × Value)) :
    Runs (memberStep (joinStep join value)) (first, taken) cs (new.foldl join taken) rest := by
  induction members generalizing taken with
  | nil ended => exact .done (memberStep_of_end ended taken)
  | @cons first cs behind mid after rest key v ms next colon read _ ih =>
    have step : memberStep (joinStep join value) (first, taken) cs =
        .ok (.more (false, join taken (key, v)), after) := by
      rw [memberStep_of_key next, joinStep_eq_ok_iff.mpr ⟨mid, v, colon, read, rfl⟩]
      rfl
    exact .more step (advances.shortens step) (ih _)

theorem readMembers_iff {value : Reader Value}
    (advances : Advances (memberStep (joinStep join value))) {cs rest : List Char}
    {ms : List (String × Value)} :
    readMembers (joinStep join value) [] cs = .ok (ms, rest) ↔
      ∃ new, ms = new.foldl join [] ∧ Members value true cs new rest := by
  rw [readMembers, advances.runs_iff]
  constructor
  · exact members_of_runs
  · rintro ⟨new, rfl, members⟩
    exact members.runs advances []

theorem local_joinStep (join : Joining) {value : Reader Value} (is_local : Local value)
    (members : List (String × Value)) (key : String) : Local (joinStep join value members key) :=
  local_readColon.bind fun _ => is_local.bind fun v => .pure (join members (key, v))

theorem readJoined_skipSpace (join : Joining) (depth : Nat) (cs : List Char) :
    readJoined join depth (skipSpace cs) = readJoined join depth cs := by
  cases depth <;> simp only [readJoined, skipSpace_skipSpace]

theorem readJoined_nil (join : Joining) (depth : Nat) (x : Value × List Char) :
    readJoined join depth [] ≠ .ok x := by
  cases depth <;> exact nofun

inductive Opens (join : Joining) : Nat → List Char → Value → List Char → Prop
  | array {depth : Nat} {inner rest : List Char} {items : List Value}
      (elements : Elements (readJoined join depth) true inner items rest) :
      Opens join (depth + 1) ('[' :: inner) (.array items) rest
  | object {depth : Nat} {inner rest : List Char} {members : List (String × Value)}
      (written : Members (readJoined join depth) true inner members rest) :
      Opens join (depth + 1) ('\x7b' :: inner) (.object (members.foldl join [])) rest
  | scalar {depth : Nat} {c : Char} {cs rest : List Char} {v : Value} (list : c ≠ '[')
      (object : c ≠ '\x7b') (read : readScalar (c :: cs) = .ok (v, rest)) :
      Opens join depth (c :: cs) v rest

theorem readJoined_of_ne {c : Char} {cs inner : List Char} (skipped : skipSpace cs = c :: inner)
    (list : c ≠ '[') (object : c ≠ '\x7b') (depth : Nat) :
    readJoined join depth cs = readScalar (c :: inner) := by
  cases depth <;>
  · simp only [readJoined, skipped]
    split <;> simp_all

theorem readJoined_of_list {cs inner : List Char} (skipped : skipSpace cs = '[' :: inner)
    (depth : Nat) :
    readJoined join (depth + 1) cs =
      readElements (readJoined join depth) inner >>= fun t => pure (.array t.1, t.2) := by
  simp only [readJoined, skipped]

theorem readJoined_of_object {cs inner : List Char} (skipped : skipSpace cs = '\x7b' :: inner)
    (depth : Nat) :
    readJoined join (depth + 1) cs =
      readMembers (joinStep join (readJoined join depth)) [] inner >>= fun t =>
        pure (.object t.1, t.2) := by
  simp only [readJoined, skipped]

theorem local_readJoined (join : Joining) (depth : Nat) : Local (readJoined join depth) := by
  have scalar (depth : Nat) {c : Char} (other : isSpace c = false) (list : c ≠ '[')
      (object : c ≠ '\x7b') : Local fun cs => readJoined join depth (c :: cs) := by
    simp only [readJoined_of_ne (skipSpace_of_not_space other _) list object]
    exact local_readScalar.behind_cons nofun c
  induction depth with
  | zero =>
    refine .spaced (readJoined_skipSpace join 0) (readJoined_nil join 0) fun c other => ?_
    by_cases list : c = '['
    · subst list
      exact .error _
    by_cases object : c = '\x7b'
    · subst object
      exact .error _
    exact scalar 0 other list object
  | succ depth ih =>
    refine .spaced (readJoined_skipSpace join _) (readJoined_nil join _) fun c other => ?_
    by_cases list : c = '['
    · subst list
      simp only [readJoined_of_list (skipSpace_of_not_space other _)]
      have items := (advances_elementStep ih (readJoined_nil join depth)).is_local []
      exact items.bind fun items => .pure (Value.array items)
    by_cases object : c = '\x7b'
    · subst object
      simp only [readJoined_of_object (skipSpace_of_not_space other _)]
      have members := (advances_memberStep (local_joinStep join ih)).is_local (true, [])
      exact members.bind fun members => .pure (Value.object members)
    exact scalar _ other list object

theorem advances_elements (join : Joining) (depth : Nat) :
    Advances (elementStep (readJoined join depth)) :=
  advances_elementStep (local_readJoined join depth) (readJoined_nil join depth)

theorem advances_members (join : Joining) (depth : Nat) :
    Advances (memberStep (joinStep join (readJoined join depth))) :=
  advances_memberStep (local_joinStep join (local_readJoined join depth))

theorem opens_of_readJoined {depth : Nat} {cs rest : List Char} {v : Value}
    (read : readJoined join depth cs = .ok (v, rest)) : Opens join depth (skipSpace cs) v rest := by
  cases skipped : skipSpace cs with
  | nil =>
    rw [← readJoined_skipSpace, skipped] at read
    exact absurd read (readJoined_nil join depth _)
  | cons c inner =>
    by_cases list : c = '['
    · subst list
      cases depth with
      | zero =>
        simp only [readJoined, skipped] at read
        cases read
      | succ depth =>
        rw [readJoined_of_list skipped] at read
        obtain ⟨⟨items, after⟩, elements, read⟩ := bind_eq_ok_iff.mp read
        cases read
        exact .array ((readElements_iff (advances_elements join depth)).mp elements)
    by_cases object : c = '\x7b'
    · subst object
      cases depth with
      | zero =>
        simp only [readJoined, skipped] at read
        cases read
      | succ depth =>
        rw [readJoined_of_object skipped] at read
        obtain ⟨⟨members, after⟩, joined, read⟩ := bind_eq_ok_iff.mp read
        cases read
        obtain ⟨new, rfl, written⟩ := (readMembers_iff (advances_members join depth)).mp joined
        exact .object written
    rw [readJoined_of_ne skipped list object] at read
    exact .scalar list object read

theorem Opens.readJoined_eq {depth : Nat} {cs rest : List Char} {v : Value}
    (opens : Opens join depth (skipSpace cs) v rest) :
    readJoined join depth cs = .ok (v, rest) := by
  generalize skipped : skipSpace cs = text at opens
  cases opens with
  | array elements =>
    rw [readJoined_of_list skipped, (readElements_iff (advances_elements join _)).mpr elements]
    rfl
  | object written =>
    have read := (readMembers_iff (advances_members join _)).mpr ⟨_, rfl, written⟩
    rw [readJoined_of_object skipped, read]
    rfl
  | scalar list object read => rw [readJoined_of_ne skipped list object, read]

inductive Scalar : List Char → Value → List Char → Prop
  | null {cs rest : List Char} (word : readWord ['u', 'l', 'l'] cs = .ok ((), rest)) :
      Scalar ('n' :: cs) .null rest
  | yes {cs rest : List Char} (word : readWord ['r', 'u', 'e'] cs = .ok ((), rest)) :
      Scalar ('t' :: cs) (.bool true) rest
  | no {cs rest : List Char} (word : readWord ['a', 'l', 's', 'e'] cs = .ok ((), rest)) :
      Scalar ('f' :: cs) (.bool false) rest
  | string {cs rest : List Char} {s : String} (read : readString cs = .ok (s, rest)) :
      Scalar ('"' :: cs) (.string s) rest
  | negative {cs rest : List Char} {n : Number} (read : readNumber true cs = .ok (n, rest)) :
      Scalar ('-' :: cs) (.number n) rest
  | positive {c : Char} {cs rest : List Char} {n : Number} (digit : (digit? c).isSome)
      (read : readNumber false (c :: cs) = .ok (n, rest)) : Scalar (c :: cs) (.number n) rest

theorem scalar_of_readScalar {cs rest : List Char} {v : Value}
    (read : readScalar cs = .ok (v, rest)) : Scalar cs v rest := by
  cases cs with
  | nil => cases read
  | cons c cs =>
    simp only [readScalar] at read
    split at read
    · rename_i first
      obtain ⟨⟨_, after⟩, word, read⟩ := bind_eq_ok_iff.mp read
      cases read
      exact first ▸ .null word
    split at read
    · rename_i first
      obtain ⟨⟨_, after⟩, word, read⟩ := bind_eq_ok_iff.mp read
      cases read
      exact first ▸ .yes word
    split at read
    · rename_i first
      obtain ⟨⟨_, after⟩, word, read⟩ := bind_eq_ok_iff.mp read
      cases read
      exact first ▸ .no word
    split at read
    · rename_i first
      obtain ⟨⟨s, after⟩, string, read⟩ := bind_eq_ok_iff.mp read
      cases read
      exact first ▸ .string string
    split at read
    · rename_i first
      obtain ⟨⟨n, after⟩, number, read⟩ := bind_eq_ok_iff.mp read
      cases read
      exact first ▸ .negative number
    split at read
    · rename_i digit
      obtain ⟨⟨n, after⟩, number, read⟩ := bind_eq_ok_iff.mp read
      cases read
      exact .positive digit number
    · cases read

theorem Opens.transfer (other : Joining) {depth : Nat} {text rest : List Char} {v : Value}
    (opens : Opens join depth text v rest)
    (reads : ∀ d, depth = d + 1 → ∀ {cs v rest}, readJoined join d cs = .ok (v, rest) →
      ∃ u, readJoined other d cs = .ok (u, rest)) :
    ∃ u, Opens other depth text u rest := by
  cases opens with
  | array elements =>
    obtain ⟨items, elements⟩ := elements.transfer (reads _ rfl)
    exact ⟨_, .array elements⟩
  | object written =>
    obtain ⟨members, written⟩ := written.transfer (reads _ rfl)
    exact ⟨_, .object written⟩
  | scalar list object read => exact ⟨v, .scalar list object read⟩

/-- How members are joined decides what is read, but not whether something is. -/
theorem exists_readJoined {depth : Nat} {cs rest : List Char} {v : Value}
    (read : readJoined join depth cs = .ok (v, rest)) (other : Joining) :
    ∃ u, readJoined other depth cs = .ok (u, rest) := by
  induction depth generalizing cs v rest with
  | zero =>
    obtain ⟨u, opens⟩ := (opens_of_readJoined read).transfer other nofun
    exact ⟨u, opens.readJoined_eq⟩
  | succ depth ih =>
    obtain ⟨u, opens⟩ := (opens_of_readJoined read).transfer other
      fun d same => Nat.succ.inj same ▸ ih
    exact ⟨u, opens.readJoined_eq⟩

theorem foldl_keep (taken members : List (String × Value)) :
    members.foldl Joining.keep taken = taken ++ members := by
  induction members generalizing taken with
  | nil => simp
  | cons m members ih => simp [ih, Joining.keep]

theorem setMember_of_not_mem {key : String} {v : α} {members : List (String × α)}
    (absent : key ∉ members.map Prod.fst) : setMember key v members = members ++ [(key, v)] := by
  induction members with
  | nil => rfl
  | cons m members ih =>
    simp only [List.map_cons, List.mem_cons, not_or] at absent
    rw [setMember, if_neg (Ne.symm absent.1), ih absent.2, List.cons_append]

theorem foldl_replace {taken members : List (String × Value)}
    (distinct : ((taken ++ members).map Prod.fst).Nodup) :
    members.foldl Joining.replace taken = taken ++ members := by
  induction members generalizing taken with
  | nil => simp
  | cons m members ih =>
    have absent : m.1 ∉ taken.map Prod.fst := by
      rw [List.map_append, List.map_cons, List.nodup_append] at distinct
      intro present
      exact distinct.2.2 _ present _ List.mem_cons_self rfl
    have step : Joining.replace taken m = taken ++ [m] := setMember_of_not_mem absent
    rw [List.foldl_cons, step, ih (by simpa using distinct), List.append_assoc,
      List.singleton_append]

section

variable {reader other : Reader Value} {first : Bool} {cs rest : List Char}

theorem Elements.of_distinct
    (reads : ∀ {cs v rest}, reader cs = .ok (v, rest) → v.Distinct → other cs = .ok (v, rest))
    {items : List Value} (elements : Elements reader first cs items rest)
    (distinct : DistinctItems items) : Elements other first cs items rest := by
  induction elements with
  | nil ended => exact .nil ended
  | cons next read _ ih => exact .cons next (reads read distinct.1) (ih distinct.2)

theorem Members.of_distinct
    (reads : ∀ {cs v rest}, reader cs = .ok (v, rest) → v.Distinct → other cs = .ok (v, rest))
    {members : List (String × Value)} (written : Members reader first cs members rest)
    (distinct : DistinctMembers members) : Members other first cs members rest := by
  induction written with
  | nil ended => exact .nil ended
  | cons next colon read _ ih => exact .cons next colon (reads read distinct.1) (ih distinct.2)

end

theorem Opens.of_distinct {depth : Nat} {text rest : List Char} {v : Value}
    (opens : Opens .keep depth text v rest)
    (reads : ∀ d, depth = d + 1 → ∀ {cs v rest}, readJoined .keep d cs = .ok (v, rest) →
      v.Distinct → readJoined .replace d cs = .ok (v, rest))
    (distinct : v.Distinct) : Opens .replace depth text v rest := by
  cases opens with
  | array elements => exact .array (elements.of_distinct (reads _ rfl) distinct)
  | @object _ _ _ members written =>
    rw [foldl_keep, List.nil_append] at distinct ⊢
    have replaced : members.foldl Joining.replace [] = members := foldl_replace distinct.1
    rw [← replaced]
    exact .object (written.of_distinct (reads _ rfl) distinct.2)
  | scalar list object read => exact .scalar list object read

theorem readValue_of_distinct {depth : Nat} {cs rest : List Char} {v : Value}
    (read : readJoined .keep depth cs = .ok (v, rest)) (distinct : v.Distinct) :
    readValue depth cs = .ok (v, rest) := by
  rw [readValue_eq]
  induction depth generalizing cs v rest with
  | zero =>
    have opens := opens_of_readJoined read
    exact (opens.of_distinct nofun distinct).readJoined_eq
  | succ depth ih =>
    have opens := opens_of_readJoined read
    refine (opens.of_distinct (fun d same => ?_) distinct).readJoined_eq
    obtain rfl := Nat.succ.inj same
    exact ih

theorem braces_of_object {join : Joining} {depth : Nat} {core rest : List Char}
    {members : List (String × Value)} (opens : Opens join depth core (.object members) rest) :
    ∃ inner, core = '\x7b' :: inner ++ '\x7d' :: rest := by
  cases opens with
  | object written =>
    obtain ⟨inner, rfl⟩ := written.closing (local_readJoined join _)
    exact ⟨inner, rfl⟩
  | scalar list object read => cases scalar_of_readScalar read

theorem exists_braces {text : String} {members : List (String × Value)}
    (written : Value.written text = .ok (.object members)) :
    ∃ front inner back, text.toList = front ++ ('\x7b' :: inner ++ ['\x7d']) ++ back ∧
      (∀ c ∈ front ++ back, isSpace c = true) ∧
      Value.written (String.ofList ('\x7b' :: inner ++ ['\x7d'])) = .ok (.object members) := by
  obtain ⟨back, read, blank⟩ := readDocument_eq_ok_iff.mp written
  obtain ⟨p, split, again⟩ := local_readJoined .keep maxDepth read
  have alone := again [] List.nil_prefix
  rw [List.append_nil] at alone
  obtain ⟨front, front_split, front_blank⟩ := exists_spaces p
  obtain ⟨spaces, back_split, back_blank⟩ := exists_spaces back
  rw [blank, List.append_nil] at back_split
  obtain ⟨inner, core⟩ := braces_of_object (opens_of_readJoined alone)
  rw [← readJoined_skipSpace, core] at alone
  refine ⟨front, inner, back, by rw [split, front_split, core], fun c member => ?_, ?_⟩
  · rcases List.mem_append.mp member with left | right
    · exact front_blank c left
    · exact back_blank c (back_split ▸ right)
  · refine readDocument_eq_ok_iff.mpr ⟨[], ?_, rfl⟩
    rw [String.toList_ofList]
    exact alone

end AppScaffold.Json
