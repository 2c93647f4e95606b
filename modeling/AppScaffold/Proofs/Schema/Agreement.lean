import AppScaffold.Proofs.Json.Skipping
import AppScaffold.Proofs.Schema.Acceptance
import AppScaffold.Schema.Reader

/-! A text read straight into the form of a kind, and the value that the text writes fitted to that
kind. Where no object repeats a key, one succeeds where the other does, and with the same result. -/

namespace AppScaffold.Schema

open Json

variable {α β : Type}

/-- Reading ends where fitting does: with the same result, behind which `rest` is left, or in an
error. -/
inductive Agrees (rest : List Char) :
    Except Fault (α × List Char) → Except Mismatch α → Prop
  | ok (a : α) : Agrees rest (.ok (a, rest)) (.ok a)
  | error (f : Fault) (m : Mismatch) : Agrees rest (.error f) (.error m)

namespace Agrees

variable {rest mid : List Char} {read : Except Fault (α × List Char)} {fitted : Except Mismatch α}

theorem failed (fails : ∀ x, read ≠ .ok x) (m : Mismatch) : Agrees rest read (.error m) := by
  cases read with
  | error f => exact .error f m
  | ok x => exact absurd rfl (fails x)

theorem bind {next : α × List Char → Except Fault (β × List Char)} {more : α → Except Mismatch β}
    (first : Agrees mid read fitted) (later : ∀ a, Agrees rest (next (a, mid)) (more a)) :
    Agrees rest (read >>= next) (fitted >>= more) := by
  cases first with
  | ok a => exact later a
  | error f m => exact .error f m

theorem map (f : α → β) (first : Agrees rest read fitted) :
    Agrees rest (read >>= fun t => pure (f t.1, t.2)) (fitted >>= fun a => pure (f a)) :=
  first.bind fun a => .ok (f a)

theorem of_map {later : Except Mismatch β} {before after : β → α} {put : β → β}
    (joins : ∀ b, after (put b) = before b) (agrees : Agrees rest read (later.map before)) :
    Agrees rest read ((later >>= fun b => pure (put b)).map after) := by
  cases later with
  | error m => exact agrees
  | ok b =>
    show Agrees rest read (.ok (after (put b)))
    rw [joins]
    exact agrees

end Agrees

variable {c : Char} {cs inner rest : List Char}

theorem readOther_ne_ok (wanted : String) (cs : List Char) (x : α × List Char) :
    readOther wanted cs ≠ .ok x := by
  unfold readOther
  split
  · exact nofun
  · exact nofun
  · intro same
    obtain ⟨_, _, same⟩ := bind_eq_ok_iff.mp same
    cases same

theorem readText_ne_ok (skipped : skipSpace cs = c :: inner) (other : c ≠ '"')
    (x : Value × List Char) : readText cs ≠ .ok x := by
  unfold readText
  split
  · rename_i same
    exact absurd (List.cons.inj (skipped.symm.trans same)).1 other
  · exact readOther_ne_ok _ _ x

theorem readWordOf_ne_ok (skipped : skipSpace cs = c :: inner) (sign : c ≠ '-')
    (digit : digit? c = none) (name : String) (limit : Nat) (x : Value × List Char) :
    readWordOf name limit cs ≠ .ok x := by
  unfold readWordOf
  split
  · rename_i same
    exact absurd (List.cons.inj (skipped.symm.trans same)).1 sign
  · have other : startsDigit (skipSpace cs) = false := by simp [skipped, startsDigit, digit]
    simp only [other]
    exact readOther_ne_ok _ _ x

def Kind.mayOpen : Kind → Char → Bool
  | .any, _ => true
  | .text, c => c == '"'
  | .word _ _, c => c == '-' || (digit? c).isSome
  | .list _, c | .set, c => c == '['
  | .table, c => c == '\x7b'
  | .record _, c => c == '[' || c == '\x7b'

theorem readWordOf_of_digit (skipped : skipSpace cs = c :: inner) (digit : (digit? c).isSome)
    (name : String) (limit : Nat) :
    readWordOf name limit cs = readFitted (fitWord name limit) false (c :: inner) := by
  unfold readWordOf
  split
  · rename_i same
    exact absurd (List.cons.inj (skipped.symm.trans same)).1 (ne_of_digit digit rfl)
  · simp [skipped, startsDigit, digit]

theorem readShape_ne_ok {k : Kind} (skipped : skipSpace cs = c :: inner)
    (other : k.mayOpen c = false) (inside : Option (Kind → Reader Value)) (value : Reader Value)
    (x : Value × List Char) : readShape inside value k cs ≠ .ok x := by
  have head {d : Char} {rest : List Char} (same : skipSpace cs = d :: rest) : c = d :=
    (List.cons.inj (skipped.symm.trans same)).1
  cases k with
  | any => cases other
  | text => exact readText_ne_ok skipped (by simpa [Kind.mayOpen] using other) x
  | word name limit =>
    simp only [Kind.mayOpen, Bool.or_eq_false_iff, beq_eq_false_iff_ne] at other
    obtain ⟨sign, digit⟩ := other
    exact readWordOf_ne_ok skipped sign (by simpa using digit) name limit x
  | list | set | table =>
    simp only [readShape]
    split
    · rename_i same
      simp [Kind.mayOpen, head same] at other
    · exact readOther_ne_ok _ _ x
  | record r =>
    simp only [readShape]
    split
    · rename_i same
      simp [Kind.mayOpen, head same] at other
    · rename_i same
      simp [Kind.mayOpen, head same] at other
    · exact readOther_ne_ok _ _ x

/-- Every kind of value that is written without repeating a key is read as it fits. -/
def Reads (depth : Nat) (read : Kind → Reader Value) : Prop :=
  ∀ ⦃cs v rest⦄, readJoined .keep depth cs = .ok (v, rest) → v.Distinct →
    ∀ k, Agrees rest (read k cs) (k.fit v)

variable {depth : Nat} {read : Kind → Reader Value} {first : Bool}

theorem Reads.loop_elements (reads : Reads depth read) {items : List Value}
    (elements : Elements (readJoined .keep depth) first cs items rest)
    (distinct : DistinctItems items) (k : Kind) {taken : List Value}
    (start : taken.isEmpty = first) {fuel : Nat} (enough : items.length ≤ fuel) :
    Agrees rest (loop (elementStep (read k)) (fuel + 1) taken cs)
      ((k.fitItems items).map (taken.reverse ++ ·)) := by
  induction elements generalizing taken fuel with
  | nil ended =>
    rw [loop_of_done (elementStep_of_end (start ▸ ended))]
    simpa [Kind.fitItems, Except.map] using Agrees.ok taken.reverse
  | @cons _ _ mid after _ v items next inner _ ih =>
    obtain ⟨fuel, rfl⟩ := Nat.exists_eq_add_one_of_ne_zero (Nat.ne_zero_of_lt enough)
    have element := reads inner distinct.1 k
    rw [loop, elementStep_of_more (start ▸ next), takeElement, Kind.fitItems]
    generalize read k mid = x at element
    generalize k.fit v = y at element
    cases element with
    | error f m => exact .error f m
    | ok w =>
      have later : Agrees _ (loop (elementStep (read k)) (fuel + 1) (w :: taken) after) _ :=
        ih distinct.2 rfl (Nat.le_of_succ_le_succ enough)
      exact later.of_map fun ws => by simp

theorem map_nil_append (fitted : Except Mismatch (List α)) : fitted.map ([] ++ ·) = fitted := by
  cases fitted <;> rfl

theorem Reads.elements (reads : Reads depth read) {items : List Value}
    (elements : Elements (readJoined .keep depth) true cs items rest)
    (distinct : DistinctItems items) (k : Kind) :
    Agrees rest (readElements (read k) cs) (k.fitItems items) := by
  have bound := elements.length_le (local_readJoined .keep depth) (readJoined_nil .keep depth)
  have enough : items.length ≤ cs.length := by omega
  rw [← map_nil_append (k.fitItems items)]
  exact reads.loop_elements elements distinct k rfl enough

theorem null_iff_opens {join : Joining} {v : Value} (opens : Opens join depth cs v rest) :
    (∃ inner, cs = 'n' :: inner ∧ v = .null ∧ readWord ['u', 'l', 'l'] inner = .ok ((), rest)) ∨
      (∀ inner, cs ≠ 'n' :: inner) ∧ v ≠ .null := by
  cases opens with
  | array => exact .inr ⟨by simp, by simp⟩
  | object => exact .inr ⟨by simp, by simp⟩
  | scalar list object read =>
    cases scalar_of_readScalar read with
    | null word => exact .inl ⟨_, rfl, rfl, word⟩
    | yes | no | string | negative => exact .inr ⟨by simp, by simp⟩
    | positive digit =>
      have other := ne_of_digit digit (d := 'n') rfl
      exact .inr ⟨by simp [other], by simp⟩

theorem Reads.field (reads : Reads depth read) {v : Value}
    (written : readJoined .keep depth cs = .ok (v, rest)) (distinct : v.Distinct) (f : Field) :
    Agrees rest (readField read f cs) (f.orNull v (f.kind.fit v)) := by
  have opens := opens_of_readJoined written
  rw [← readJoined_skipSpace] at written
  have whole := reads written distinct f.kind
  rcases null_iff_opens opens with ⟨inner, null, rfl, word⟩ | ⟨other, some⟩
  · unfold readField Field.orNull
    rw [null] at whole ⊢
    cases f.ifNull with
    | none => exact whole
    | some w =>
      show Agrees rest (readWord ['u', 'l', 'l'] inner >>= fun t => pure (w, t.2)) (.ok w)
      rw [word]
      exact .ok w
  · have plain : f.orNull v (f.kind.fit v) = f.kind.fit v := by
      unfold Field.orNull
      split
      · exact absurd rfl some
      · rfl
    rw [plain]
    unfold readField
    split
    · rename_i same
      exact absurd same (other _)
    · exact whole

theorem endElements_ne_ok {mid : List Char} (next : nextElement first cs = .ok (true, mid))
    (x : Unit × List Char) : endElements cs ≠ .ok x := by
  have more {rest : List Char} : skipSpace cs ≠ ']' :: rest := by
    obtain ⟨inner, separated, -⟩ := separated_of_nextElement next
    intro closed
    cases separated with
    | start _ skipped more => exact more (List.cons.inj (skipped.symm.trans closed)).1
    | comma _ skipped => cases skipped.symm.trans closed
  unfold endElements
  split
  · exact nofun
  · rename_i closed
    exact absurd closed more
  · split
    all_goals exact nofun
  · exact nofun

theorem Reads.fields (reads : Reads depth read) (r : Record) {items : List Value}
    (elements : Elements (readJoined .keep depth) first cs items rest)
    (distinct : DistinctItems items) {index : Nat} (start : (index == 0) = first)
    (fields : List Field) :
    Agrees rest (readFields read r index fields cs) (Kind.fitFields r index fields items) := by
  induction elements generalizing index fields with
  | nil ended =>
    cases fields with
    | nil =>
      simp only [readFields, endElements, nextElement_of_end ended]
      exact .ok []
    | cons f fs =>
      simp only [readFields, start, ended, Kind.fitFields, bind, Except.bind]
      cases fitEnd r index (f :: fs) with
      | ok vs => exact .ok vs
      | error m => exact .error _ m
  | @cons _ cs mid after _ v items next inner _ ih =>
    cases fields with
    | nil =>
      refine .failed (fun x same => ?_) _
      obtain ⟨⟨_, after⟩, ended, _⟩ := bind_eq_ok_iff.mp same
      exact endElements_ne_ok next _ ended
    | cons f fs =>
      rw [readFields, start, next, Kind.fitFields]
      refine (reads.field inner distinct.1 f).bind fun w => ?_
      exact (ih distinct.2 rfl fs).map (w :: ·)

section

variable {r : Record} {key : String} {found : List (String × Value)} {behind mid after : List Char}

theorem fieldStep_of_unknown (unknown : r.field? key = none)
    (colon : readColon behind = .ok ((), mid)) (skips : skipValue mid = .ok ((), after)) :
    fieldStep read r found key behind = .ok (found, after) := by
  simp only [fieldStep, unknown, colon]
  show skipValue mid >>= _ = _
  rw [skips]
  rfl

theorem fieldStep_of_known {f : Field} (known : r.field? key = some f)
    (absent : key ∉ found.map Prod.fst) (colon : readColon behind = .ok ((), mid)) :
    fieldStep read r found key behind =
      readField read f mid >>= fun t => pure ((key, t.1) :: found, t.2) := by
  have fresh : found.any (·.1 == key) = false := by
    rw [List.any_eq_false]
    intro m member same
    exact absent (beq_iff_eq.mp same ▸ List.mem_map_of_mem member)
  simp only [fieldStep, known, fresh, colon]
  rfl

end

theorem Reads.loop_members (reads : Reads depth read) (r : Record)
    {members : List (String × Value)}
    (written : Members (readJoined .keep depth) first cs members rest)
    (distinct : DistinctMembers members) {found : List (String × Value)}
    (apart : (members.map Prod.fst ++ found.map Prod.fst).Nodup) {fuel : Nat}
    (enough : members.length ≤ fuel) :
    Agrees rest (loop (memberStep (fieldStep read r)) (fuel + 1) (first, found) cs)
      ((Kind.fitMembers r members).map (·.reverse ++ found)) := by
  induction written generalizing found fuel with
  | @nil first cs rest ended =>
    rw [loop_of_done (memberStep_of_end ended found)]
    exact .ok found
  | @cons first cs behind mid after rest key v members next colon inner _ ih =>
    obtain ⟨fuel, rfl⟩ := Nat.exists_eq_add_one_of_ne_zero (Nat.ne_zero_of_lt enough)
    have enough := Nat.le_of_succ_le_succ enough
    rw [List.map_cons, List.cons_append] at apart
    obtain ⟨absent, rest_apart⟩ := List.nodup_cons.mp apart
    rw [loop, memberStep_of_key next, Kind.fitMembers]
    cases known : r.field? key with
    | none =>
      rw [fieldStep_of_unknown known colon (skipValue_of_readJoined inner)]
      exact ih distinct.2 rest_apart enough
    | some f =>
      -- No key comes twice among the fields found and those to come, so none is refused.
      have fresh : key ∉ found.map Prod.fst := fun present =>
        absent (List.mem_append_right _ present)
      have field := reads.field inner distinct.1 f
      rw [fieldStep_of_known known fresh colon]
      generalize readField read f mid = x at field
      generalize fitted : f.orNull v (f.kind.fit v) = y at field
      cases field with
      | error fault m =>
        simp only [fitted]
        exact .error fault m
      | ok w =>
        have still_apart : (members.map Prod.fst ++ ((key, w) :: found).map Prod.fst).Nodup :=
          List.perm_middle.nodup_iff.mpr apart
        have later : Agrees _
            (loop (memberStep (fieldStep read r)) (fuel + 1) (false, (key, w) :: found) after) _ :=
          ih distinct.2 still_apart enough
        simp only [fitted]
        exact later.of_map fun ms => by simp

theorem Reads.record (reads : Reads depth read) (r : Record) {members : List (String × Value)}
    (written : Members (readJoined .keep depth) true cs members rest)
    (distinct : (Value.object members).Distinct) :
    Agrees rest (readRecord read r cs) ((Kind.record r).fit (.object members)) := by
  have enough : members.length ≤ cs.length := by
    have bound := written.length_le (local_readJoined .keep depth) (readJoined_nil .keep depth)
    omega
  have apart : (members.map Prod.fst ++ ([] : List (String × Value)).map Prod.fst).Nodup := by
    simpa using distinct.1
  have loops := reads.loop_members r written distinct.2 apart enough
  rw [Kind.fit, readRecord, readMembers, iterate]
  generalize loop (memberStep (fieldStep read r)) (cs.length + 1) (true, []) cs = x at loops
  cases fits : Kind.fitMembers r members with
  | error m =>
    rw [fits] at loops
    cases loops
    exact .error _ m
  | ok fitted =>
    rw [fits] at loops
    cases loops
    have keys : (fitted.reverse.map Prod.fst).Nodup := by
      rw [List.map_reverse, (List.reverse_perm _).nodup_iff, map_fst_fitMembers fits]
      exact distinct.1.filter _
    have same : r.assemble (fitted.reverse ++ []) = r.assemble fitted := by
      rw [List.append_nil]
      exact r.assemble_perm (List.reverse_perm fitted) keys
    simp only [bind, Except.bind, pure, Except.pure, same]
    cases r.assemble fitted with
    | ok v => exact .ok v
    | error m => exact .error _ m

theorem loop_table {text : Reader Value}
    (reads : ∀ {cs v rest}, readJoined .keep depth cs = .ok (v, rest) →
      Agrees rest (text cs) (Kind.text.fit v))
    {members : List (String × Value)}
    (written : Members (readJoined .keep depth) first cs members rest)
    {taken : List (String × Value)} (apart : ((taken ++ members).map Prod.fst).Nodup) {fuel : Nat}
    (enough : members.length ≤ fuel) :
    Agrees rest (loop (memberStep (setStep text)) (fuel + 1) (first, taken) cs)
      ((Kind.fitEntries members).map (taken ++ ·)) := by
  induction written generalizing taken fuel with
  | @nil first cs rest ended =>
    rw [loop_of_done (memberStep_of_end ended taken), Kind.fitEntries, Except.map, List.append_nil]
    exact .ok taken
  | @cons first cs behind mid after rest key v members next colon inner _ ih =>
    obtain ⟨fuel, rfl⟩ := Nat.exists_eq_add_one_of_ne_zero (Nat.ne_zero_of_lt enough)
    have enough := Nat.le_of_succ_le_succ enough
    have absent : key ∉ taken.map Prod.fst := by
      rw [List.map_append, List.map_cons, List.nodup_append] at apart
      intro present
      exact apart.2.2 _ present _ List.mem_cons_self rfl
    have entry := reads inner
    have step : setStep text taken key behind =
        text mid >>= fun t => pure (taken ++ [(key, t.1)], t.2) := by
      simp only [setStep, colon, setMember_of_not_mem absent]
      rfl
    rw [loop, memberStep_of_key next, step, Kind.fitEntries]
    generalize text mid = x at entry
    generalize Kind.text.fit v = y at entry
    cases entry with
    | error f m => exact .error f m
    | ok w =>
      have still_apart : ((taken ++ [(key, w)] ++ members).map Prod.fst).Nodup := by
        simpa using apart
      have later : Agrees _
          (loop (memberStep (setStep text)) (fuel + 1) (false, taken ++ [(key, w)]) after) _ :=
        ih still_apart enough
      exact later.of_map fun ms => by simp

theorem agrees_table {text : Reader Value}
    (reads : ∀ {cs v rest}, readJoined .keep depth cs = .ok (v, rest) →
      Agrees rest (text cs) (Kind.text.fit v))
    {members : List (String × Value)}
    (written : Members (readJoined .keep depth) true cs members rest)
    (distinct : (members.map Prod.fst).Nodup) :
    Agrees rest (readMembers (setStep text) [] cs) (Kind.fitEntries members) := by
  have bound := written.length_le (local_readJoined .keep depth) (readJoined_nil .keep depth)
  have enough : members.length ≤ cs.length := by omega
  rw [← map_nil_append (Kind.fitEntries members)]
  have apart : ((([] : List (String × Value)) ++ members).map Prod.fst).Nodup := distinct
  exact loop_table reads written apart enough

theorem agrees_text {join : Joining} {v : Value}
    (opens : Opens join depth (skipSpace cs) v rest) :
    Agrees rest (readText cs) (Kind.text.fit v) := by
  generalize skipped : skipSpace cs = text at opens
  have other {c : Char} {inner : List Char} (same : text = c :: inner) (unquoted : c ≠ '"')
      (m : Mismatch) : Agrees rest (readText cs) (.error m) :=
    .failed (readText_ne_ok (skipped.trans same) unquoted) m
  cases opens with
  | array => exact other rfl (by decide) _
  | object => exact other rfl (by decide) _
  | scalar list object read =>
    cases scalar_of_readScalar read with
    | null => exact other rfl (by decide) _
    | yes => exact other rfl (by decide) _
    | no => exact other rfl (by decide) _
    | string read =>
      simp only [readText, skipped, read]
      exact .ok _
    | negative => exact other rfl (by decide) _
    | positive digit => exact other rfl (ne_of_digit digit rfl) _

theorem agrees_word {join : Joining} {v : Value} (name : String) (limit : Nat)
    (opens : Opens join depth (skipSpace cs) v rest) :
    Agrees rest (readWordOf name limit cs) ((Kind.word name limit).fit v) := by
  generalize skipped : skipSpace cs = text at opens
  have other {c : Char} {inner : List Char} (same : text = c :: inner) (sign : c ≠ '-')
      (digit : digit? c = none) (m : Mismatch) : Agrees rest (readWordOf name limit cs) (.error m) :=
    .failed (readWordOf_ne_ok (skipped.trans same) sign digit name limit) m
  have fitted {negative : Bool} {text : List Char} {n : Number}
      (read : readNumber negative text = .ok (n, rest)) :
      Agrees rest (readFitted (fitWord name limit) negative text)
        ((Kind.word name limit).fit (.number n)) := by
    simp only [readFitted, read, Kind.fit, bind, Except.bind]
    cases fitWord name limit n with
    | ok v => exact .ok v
    | error m => exact .error _ m
  cases opens with
  | array => exact other rfl (by decide) rfl _
  | object => exact other rfl (by decide) rfl _
  | scalar list object read =>
    cases scalar_of_readScalar read with
    | null => exact other rfl (by decide) rfl _
    | yes => exact other rfl (by decide) rfl _
    | no => exact other rfl (by decide) rfl _
    | string => exact other rfl (by decide) rfl _
    | negative read =>
      simp only [readWordOf, skipped]
      exact fitted read
    | positive digit read =>
      rw [readWordOf_of_digit skipped digit]
      exact fitted read

def inside : Nat → Option (Kind → Reader Value)
  | 0 => none
  | depth + 1 => some (Kind.read depth)

theorem Kind.read_eq (depth : Nat) (k : Kind) :
    k.read depth = readShape (inside depth) (readValue depth) k := by
  cases depth <;> rfl

theorem Kind.fit_any (v : Value) : Kind.any.fit v = .ok v := by
  cases v <;> rw [Kind.fit]

theorem agrees_scalar {v : Value} (skipped : skipSpace cs = c :: inner) (list : c ≠ '[')
    (object : c ≠ '\x7b') (scalar : readScalar (c :: inner) = .ok (v, rest)) (k : Kind) :
    Agrees rest (k.read depth cs) (k.fit v) := by
  have opens : Opens .keep depth (skipSpace cs) v rest := skipped ▸ .scalar list object scalar
  have other (closed : k.mayOpen c = false) (m : Mismatch) :
      Agrees rest (readShape (inside depth) (readValue depth) k cs) (.error m) :=
    .failed (readShape_ne_ok skipped closed _ _) m
  rw [Kind.read_eq]
  cases k with
  | any =>
    rw [readShape, readValue_eq, readJoined_of_ne skipped list object, scalar, Kind.fit_any]
    exact .ok v
  | text => exact agrees_text opens
  | word name limit => exact agrees_word name limit opens
  | list item =>
    have closed : (Kind.list item).mayOpen c = false := by simpa [Kind.mayOpen] using list
    cases scalar_of_readScalar scalar <;> exact other closed _
  | set =>
    have closed : Kind.set.mayOpen c = false := by simpa [Kind.mayOpen] using list
    cases scalar_of_readScalar scalar <;> exact other closed _
  | table =>
    have closed : Kind.table.mayOpen c = false := by simpa [Kind.mayOpen] using object
    cases scalar_of_readScalar scalar <;> exact other closed _
  | record r =>
    have closed : (Kind.record r).mayOpen c = false := by simp [Kind.mayOpen, list, object]
    cases scalar_of_readScalar scalar <;> exact other closed _

section

variable (reads : Reads depth (Kind.read depth))
include reads

theorem agrees_array {items : List Value} (skipped : skipSpace cs = '[' :: inner)
    (elements : Elements (readJoined .keep depth) true inner items rest)
    (distinct : DistinctItems items) (k : Kind) :
    Agrees rest (k.read (depth + 1) cs) (k.fit (.array items)) := by
  have opens : Opens .keep (depth + 1) (skipSpace cs) (.array items) rest :=
    skipped ▸ .array elements
  rw [Kind.read_eq]
  cases k with
  | any =>
    have value := readValue_of_distinct opens.readJoined_eq distinct
    rw [readShape, value, Kind.fit_any]
    exact .ok _
  | text => exact agrees_text opens
  | word name limit => exact agrees_word name limit opens
  | list item =>
    simp only [readShape, skipped, inside, readInside, Kind.fit]
    exact (reads.elements elements distinct item).map Value.array
  | set =>
    simp only [readShape, skipped, inside, readInside, Kind.fit]
    exact (reads.elements elements distinct .text).map Value.array
  | table => exact .failed (readShape_ne_ok skipped rfl _ _) _
  | record r =>
    simp only [readShape, skipped, inside, readInside, Kind.fit]
    exact (reads.fields r elements distinct rfl r.fields).map Value.array

theorem agrees_object {members : List (String × Value)} (skipped : skipSpace cs = '\x7b' :: inner)
    (written : Members (readJoined .keep depth) true inner members rest)
    (distinct : (Value.object members).Distinct) (k : Kind) :
    Agrees rest (k.read (depth + 1) cs) (k.fit (.object members)) := by
  have opens : Opens .keep (depth + 1) (skipSpace cs) (.object members) rest := by
    have object : Opens .keep (depth + 1) ('\x7b' :: inner)
        (.object (members.foldl Joining.keep [])) rest :=
      .object written
    rw [foldl_keep, List.nil_append] at object
    exact skipped ▸ object
  rw [Kind.read_eq]
  cases k with
  | any =>
    have value := readValue_of_distinct opens.readJoined_eq distinct
    rw [readShape, value, Kind.fit_any]
    exact .ok _
  | text => exact agrees_text opens
  | word name limit => exact agrees_word name limit opens
  | list item => exact .failed (readShape_ne_ok skipped rfl _ _) _
  | set => exact .failed (readShape_ne_ok skipped rfl _ _) _
  | table =>
    have texts {cs rest : List Char} {v : Value}
        (read : readJoined .keep depth cs = .ok (v, rest)) :
        Agrees rest (readText cs) (Kind.text.fit v) :=
      agrees_text (opens_of_readJoined read)
    simp only [readShape, skipped, inside, readInside, Kind.fit]
    exact (agrees_table texts written distinct.1).map Value.object
  | record r =>
    simp only [readShape, skipped, inside, readInside]
    exact reads.record r written distinct

end

theorem agrees_of_opens {text : List Char} {v : Value} (opens : Opens .keep depth text v rest)
    (reads : ∀ d, depth = d + 1 → Reads d (Kind.read d)) (skipped : skipSpace cs = text)
    (distinct : v.Distinct) (k : Kind) : Agrees rest (k.read depth cs) (k.fit v) := by
  cases opens with
  | array elements => exact agrees_array (reads _ rfl) skipped elements distinct k
  | object written =>
    rw [foldl_keep, List.nil_append] at distinct ⊢
    exact agrees_object (reads _ rfl) skipped written distinct k
  | scalar list object scalar => exact agrees_scalar skipped list object scalar k

theorem reads_read (depth : Nat) : Reads depth (Kind.read depth) := by
  induction depth with
  | zero =>
    intro cs v rest read distinct k
    exact agrees_of_opens (opens_of_readJoined read) nofun rfl distinct k
  | succ depth ih =>
    intro cs v rest read distinct k
    refine agrees_of_opens (opens_of_readJoined read) (fun d same => ?_) rfl distinct k
    obtain rfl := Nat.succ.inj same
    exact ih

end AppScaffold.Schema
