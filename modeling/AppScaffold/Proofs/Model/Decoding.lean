import AppScaffold.Model.Completion
import AppScaffold.Proofs.Schema.Agreement

/-! Answers of a language model and specification documents. An answer is trimmed, looked at, read
as a value and fitted; a document is read straight into the form of a specification. Where no object
of the text repeats a key, both lead to the same specification or to none. -/

namespace AppScaffold

open Json Schema Text

theorem Schema.Kind.parse_toOption {text : String} {v : Value}
    (written : Value.written text = .ok v) (distinct : v.Distinct) (k : Kind) :
    (k.parse text).toOption = (k.fit v).toOption := by
  obtain ⟨rest, read, blank⟩ := readDocument_eq_ok_iff.mp written
  have agrees := reads_read maxDepth read distinct k
  simp only [Kind.parse, readDocument]
  generalize k.read maxDepth text.toList = x at agrees
  generalize k.fit v = y at agrees
  cases agrees with
  | ok w =>
    simp only [blank]
    rfl
  | error f m => rfl

theorem Json.Value.parse_of_written {text : String} {v : Value}
    (written : Value.written text = .ok v) (distinct : v.Distinct) : Value.parse text = .ok v := by
  obtain ⟨rest, read, blank⟩ := readDocument_eq_ok_iff.mp written
  exact readDocument_eq_ok_iff.mpr ⟨rest, readValue_of_distinct read distinct, blank⟩

theorem Json.Value.exists_written {text : String} {v : Value} (parsed : Value.parse text = .ok v) :
    ∃ u, Value.written text = .ok u := by
  obtain ⟨rest, read, blank⟩ := readDocument_eq_ok_iff.mp parsed
  rw [readValue_eq] at read
  obtain ⟨u, read⟩ := exists_readJoined read .keep
  exact ⟨u, readDocument_eq_ok_iff.mpr ⟨rest, read, blank⟩⟩

theorem Json.Value.written_of_parse {text : String} {v : Value} (parsed : Value.parse text = .ok v)
    (distinct : ∀ u, Value.written text = .ok u → u.Distinct) :
    Value.written text = .ok v ∧ v.Distinct := by
  obtain ⟨u, written⟩ := Value.exists_written parsed
  have once := distinct u written
  have same := (Value.parse_of_written written once).symm.trans parsed
  obtain rfl := Except.ok.inj same
  exact ⟨written, once⟩

theorem AppSpecification.parse_toOption {text : String} {v : Value}
    (written : Value.written text = .ok v) (distinct : v.Distinct) :
    (AppSpecification.parse text).toOption = (AppSpecification.ofValue v).toOption := by
  have same := Kind.parse_toOption written distinct (.record .specification)
  rw [AppSpecification.parse, AppSpecification.ofValue, toOption_map, toOption_map, same,
    Kind.ofValue, toOption_mapError]

theorem isBlank_of_isSpace {c : Char} (space : isSpace c = true) : isBlank c = true := by
  simp only [isSpace, Bool.or_eq_true, beq_iff_eq] at space
  rcases space with ((rfl | rfl) | rfl) | rfl <;> decide

theorem trimChars_enclosed {front back inner : List Char} {opening closing : Char}
    (blank : ∀ c ∈ front ++ back, isBlank c = true) (opens : isBlank opening = false)
    (closes : isBlank closing = false) :
    trimChars (front ++ (opening :: inner ++ [closing]) ++ back) =
      opening :: inner ++ [closing] := by
  have before : ∀ c ∈ front, isBlank c = true := fun c member =>
    blank c (List.mem_append_left back member)
  have behind : ∀ c ∈ back.reverse, isBlank c = true := fun c member =>
    blank c (List.mem_append_right front (List.mem_reverse.mp member))
  have started : (front ++ (opening :: inner ++ [closing]) ++ back).dropWhile isBlank =
      opening :: inner ++ [closing] ++ back := by
    rw [List.append_assoc, List.dropWhile_append_of_pos before]
    exact List.dropWhile_cons_of_neg (by simp [opens])
  have ended : (opening :: inner ++ [closing] ++ back).reverse.dropWhile isBlank =
      closing :: (opening :: inner).reverse := by
    rw [List.reverse_append, List.dropWhile_append_of_pos behind, List.reverse_append]
    exact List.dropWhile_cons_of_neg (by simp [closes])
  rw [trimChars, started, ended, List.reverse_cons, List.reverse_reverse]

theorem decodeCompletion_enclosed {front back inner : List Char} {v : Value} {answer : String}
    (split : answer.toList = front ++ ('\x7b' :: inner ++ ['\x7d']) ++ back)
    (blank : ∀ c ∈ front ++ back, isBlank c = true)
    (parsed : Value.parse (String.ofList ('\x7b' :: inner ++ ['\x7d'])) = .ok v) :
    decodeCompletion answer =
      (AppSpecification.ofValue v).mapError fun e => .schemaMismatch (.json e) := by
  have trimmed : trimChars answer.toList = '\x7b' :: inner ++ ['\x7d'] := by
    rw [split]
    exact trimChars_enclosed blank rfl rfl
  have braces : looksLikeObject ('\x7b' :: inner ++ ['\x7d']) = true := by
    rw [looksLikeObject, List.getLast?_concat]
    rfl
  simp only [decodeCompletion, trimmed, braces, parsed]
  rfl

/-- An answer that is an object without repeated keys, with any white space around it, is decoded
to the specification that its text is read as, or does not match the schema where the text is read
as none. -/
theorem decodeCompletion_agrees {text front back : String} {members : List (String × Value)}
    (parsed : Value.parse text = .ok (.object members))
    (distinct : ∀ v, Value.written text = .ok v → v.Distinct)
    (before : isBlankText front = true) (behind : isBlankText back = true) :
    (∀ s, decodeCompletion (front ++ text ++ back) = .ok s ↔ AppSpecification.parse text = .ok s) ∧
      ∀ e, AppSpecification.parse text = .error e →
        ∃ d, decodeCompletion (front ++ text ++ back) = .error (.schemaMismatch d) := by
  obtain ⟨written, once⟩ := Value.written_of_parse parsed distinct
  obtain ⟨left, inner, right, split, spaces, alone⟩ := exists_braces written
  have around : (front ++ text ++ back).toList =
      (front.toList ++ left) ++ ('\x7b' :: inner ++ ['\x7d']) ++ (right ++ back.toList) := by
    simp [split]
  have blank : ∀ c ∈ (front.toList ++ left) ++ (right ++ back.toList), isBlank c = true := by
    intro c member
    simp only [List.mem_append] at member spaces
    rcases member with (outside | inside) | (inside | outside)
    · exact List.all_eq_true.mp before c outside
    · exact isBlank_of_isSpace (spaces c (.inl inside))
    · exact isBlank_of_isSpace (spaces c (.inr inside))
    · exact List.all_eq_true.mp behind c outside
  have decoded := decodeCompletion_enclosed around blank (Value.parse_of_written alone once)
  have same := AppSpecification.parse_toOption written once
  rw [decoded]
  refine ⟨fun s => ?_, fun e failed => ?_⟩
  · rw [mapError_eq_ok_iff, ← toOption_eq_some_iff, ← toOption_eq_some_iff, same]
  · rw [failed] at same
    cases fitted : AppSpecification.ofValue (.object members) with
    | ok s =>
      rw [fitted] at same
      cases same
    | error d => exact ⟨.json d, rfl⟩

def notedAnswer : String :=
  " \x7b\"appName\": \"T\", \"note\": \x7b\"by\": null\x7d,\n" ++
    "\"dependencies\": [\"b\", \"a\"], \"screens\": []\x7d\n"

def notedMembers : List (String × Value) :=
  [("appName", .string "T"), ("note", .object [("by", .null)]),
    ("dependencies", .array [.string "b", .string "a"]), ("screens", .array [])]

theorem decodeCompletion_agrees_notedAnswer :
    Value.parse notedAnswer = .ok (.object notedMembers) ∧
      (AppSpecification.parse notedAnswer).toOption.map (·.dependencies.names) = some ["b", "a"] ∧
      ∀ s, decodeCompletion ("\u00a0\n" ++ notedAnswer ++ "\u2028") = .ok s ↔
        AppSpecification.parse notedAnswer = .ok s := by
  have written : Value.written notedAnswer = .ok (.object notedMembers) :=
    toOption_eq_some_iff.mp (by decide +kernel)
  have distinct : (Value.object notedMembers).Distinct := by
    simp [notedMembers, Value.Distinct, DistinctItems, DistinctMembers]
  have parsed := Value.parse_of_written written distinct
  have every : ∀ v, Value.written notedAnswer = .ok v → v.Distinct := by
    intro v same
    obtain rfl := Except.ok.inj (written.symm.trans same)
    exact distinct
  exact ⟨parsed, by decide +kernel, (decodeCompletion_agrees parsed every rfl rfl).1⟩

/-- The schema passes over a number that is too large under a key it does not know, so that the text
is read as a specification; as a value it cannot be read. -/
example :
    let text := "\x7b\"appName\":\"\",\"dependencies\":[],\"screens\":[],\"x\":1e999\x7d"
    (AppSpecification.parse text).toOption.isSome ∧ ¬ (decodeCompletion text).toOption.isSome := by
  decide +kernel

end AppScaffold
