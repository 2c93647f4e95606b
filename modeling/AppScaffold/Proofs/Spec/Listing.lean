import AppScaffold.Proofs.Schema.Agreement
import AppScaffold.Proofs.Spec.RoundTrip

namespace AppScaffold

open Json Schema

namespace Json

def replaceMember (key : String) (v : Value) (members : List (String × Value)) :
    List (String × Value) :=
  members.map fun m => if m.1 = key then (key, v) else m

namespace Value

def texts? : Value → Option (List String)
  | .array items => items.mapM asText?
  | _ => none

def dependencyNames? : Value → Option (List String)
  | .object members => (members.lookup "dependencies").bind texts?
  | .array (_ :: names :: _) => names.texts?
  | _ => none

def withDependencies (names : List String) : Value → Value
  | .object members =>
    .object (replaceMember "dependencies" (.array (names.map .string)) members)
  | .array (appName :: _ :: rest) => .array (appName :: .array (names.map .string) :: rest)
  | v => v

end Value

theorem lookup_replaceMember (key k : String) (v : Value) (members : List (String × Value)) :
    (replaceMember key v members).lookup k =
      if k = key then (members.lookup key).map fun _ => v else members.lookup k := by
  induction members with
  | nil => simp [replaceMember]
  | cons m members ih =>
    obtain ⟨l, w⟩ := m
    rw [replaceMember] at ih ⊢
    by_cases here : l = key
    · subst here
      by_cases same : k = l
      · simp [same]
      · simp [List.lookup_cons, ih, same, beq_false_of_ne same]
    · by_cases same : k = key
      · subst same
        simp [List.lookup_cons, ih, here, beq_false_of_ne (Ne.symm here)]
      · by_cases first : k = l
        · simp [here, first]
        · simp [List.lookup_cons, ih, here, same, beq_false_of_ne first]

theorem texts?_map (names : List String) :
    (Value.array (names.map .string)).texts? = some names := by
  rw [Value.texts?]
  induction names with
  | nil => rfl
  | cons name names ih => simp [Value.asText?, ih]

theorem exists_names {items : List Value} (texts : ∀ v ∈ items, IsText v) :
    ∃ names : List String, items = names.map .string := by
  induction items with
  | nil => exact ⟨[], rfl⟩
  | cons v items ih =>
    obtain ⟨⟨name, rfl⟩, others⟩ := List.forall_mem_cons.mp texts
    obtain ⟨names, rfl⟩ := ih others
    exact ⟨name :: names, rfl⟩

end Json

namespace Schema

theorem fit_set (names : List String) :
    Kind.set.fit (.array (names.map .string)) = .ok (.array (names.map .string)) := by
  show ((Kind.fitItems .text (names.map .string)).bind _ : Except Mismatch Value) = _
  rw [fitItems_texts]
  rfl

theorem fit_set_eq_ok {v form : Value} (fits : Kind.set.fit v = .ok form) :
    ∃ names : List String, v = .array (names.map .string) ∧ form = .array (names.map .string) := by
  have accepted : Kind.set.Accepts v := ⟨form, fits⟩
  rw [Kind.accepts_set] at accepted
  obtain ⟨items, rfl, texts⟩ := accepted
  obtain ⟨names, rfl⟩ := exists_names texts
  rw [fit_set] at fits
  exact ⟨names, rfl, (Except.ok.inj fits).symm⟩

variable {r : Record} {f : Field} {key : String} {members found : List (String × Value)}

theorem lookup_fitMembers (known : r.field? key = some f)
    (fits : Kind.fitMembers r members = .ok found) {form : Value}
    (taken : found.lookup key = some form) :
    ∃ v, members.lookup key = some v ∧ f.orNull v (f.kind.fit v) = .ok form := by
  induction members generalizing found with
  | nil =>
    cases fits
    cases taken
  | cons m members ih =>
    obtain ⟨l, v⟩ := m
    rw [Kind.fitMembers] at fits
    by_cases here : key = l
    · subst here
      rw [known] at fits
      obtain ⟨w, first, rest⟩ := bind_eq_ok_iff.mp fits
      obtain ⟨ws, -, same⟩ := bind_eq_ok_iff.mp rest
      obtain rfl := pure_eq_ok_iff.mp same
      rw [List.lookup_cons_self] at taken
      obtain rfl := Option.some.inj taken
      exact ⟨v, List.lookup_cons_self, first⟩
    · rw [List.lookup_cons, beq_false_of_ne here]
      split at fits
      · exact ih fits taken
      · obtain ⟨w, -, rest⟩ := bind_eq_ok_iff.mp fits
        obtain ⟨ws, others, same⟩ := bind_eq_ok_iff.mp rest
        obtain rfl := pure_eq_ok_iff.mp same
        rw [List.lookup_cons, beq_false_of_ne here] at taken
        exact ih others taken

theorem fitMembers_replaceMember {v form : Value} (known : r.field? key = some f)
    (fitted : f.orNull v (f.kind.fit v) = .ok form)
    (fits : Kind.fitMembers r members = .ok found) :
    Kind.fitMembers r (replaceMember key v members) = .ok (replaceMember key form found) := by
  induction members generalizing found with
  | nil =>
    cases fits
    rfl
  | cons m members ih =>
    obtain ⟨l, u⟩ := m
    rw [replaceMember] at ih ⊢
    rw [Kind.fitMembers] at fits
    rw [List.map_cons]
    by_cases here : l = key
    · subst here
      rw [known] at fits
      obtain ⟨w, -, rest⟩ := bind_eq_ok_iff.mp fits
      obtain ⟨ws, others, same⟩ := bind_eq_ok_iff.mp rest
      obtain rfl := pure_eq_ok_iff.mp same
      rw [if_pos rfl, Kind.fitMembers, known]
      exact bind_eq_ok_iff.mpr ⟨form, fitted, bind_eq_ok_iff.mpr ⟨_, ih others, by
        simp [replaceMember, pure, Except.pure]⟩⟩
    · rw [if_neg here, Kind.fitMembers]
      split at fits
      · exact ih fits
      · obtain ⟨w, first, rest⟩ := bind_eq_ok_iff.mp fits
        obtain ⟨ws, others, same⟩ := bind_eq_ok_iff.mp rest
        obtain rfl := pure_eq_ok_iff.mp same
        exact bind_eq_ok_iff.mpr ⟨w, first, bind_eq_ok_iff.mpr ⟨_, ih others, by
          simp [replaceMember, here, pure, Except.pure]⟩⟩

theorem assemble_specification_iff {form : Value} :
    Record.specification.assemble found = .ok form ↔ ∃ appName names screens,
      found.lookup "appName" = some appName ∧ found.lookup "dependencies" = some names ∧
        found.lookup "screens" = some screens ∧ form = .array [appName, names, screens] := by
  simp only [Record.assemble, Record.fields, Field.required, List.mapM_cons, List.mapM_nil,
    Field.take]
  cases found.lookup "appName" <;> cases found.lookup "dependencies" <;>
    cases found.lookup "screens" <;>
    simp [bind, Except.bind, pure, Except.pure, eq_comm]

theorem orNull_required (key : String) (k : Kind) (v : Value) (fitted : Except Mismatch Value) :
    (Field.required key k).orNull v fitted = fitted := by
  cases v <;> rfl

theorem fitFields_required_iff {k : Kind} {index : Nat} {fields : List Field}
    {items forms : List Value} :
    Kind.fitFields r index (.required key k :: fields) items = .ok forms ↔
      ∃ v vs form rest, items = v :: vs ∧ forms = form :: rest ∧ k.fit v = .ok form ∧
        Kind.fitFields r (index + 1) fields vs = .ok rest := by
  constructor
  · intro fits
    cases items with
    | nil => cases fits
    | cons v vs =>
      rw [Kind.fitFields, orNull_required] at fits
      obtain ⟨form, first, others⟩ := bind_eq_ok_iff.mp fits
      obtain ⟨rest, later, same⟩ := bind_eq_ok_iff.mp others
      exact ⟨v, vs, form, rest, rfl, (pure_eq_ok_iff.mp same).symm, first, later⟩
  · rintro ⟨v, vs, form, rest, rfl, rfl, first, later⟩
    rw [Kind.fitFields, orNull_required]
    exact bind_eq_ok_iff.mpr ⟨form, first, bind_eq_ok_iff.mpr ⟨rest, later, rfl⟩⟩

theorem fitFields_end_iff {index : Nat} {items forms : List Value} :
    Kind.fitFields r index [] items = .ok forms ↔ items = [] ∧ forms = [] := by
  cases items <;> simp [Kind.fitFields, fitEnd, eq_comm]

theorem fitFields_specification_iff {items forms : List Value} :
    Kind.fitFields .specification 0 Record.specification.fields items = .ok forms ↔
      ∃ u v w appName names screens, items = [u, v, w] ∧ forms = [appName, names, screens] ∧
        Kind.text.fit u = .ok appName ∧ Kind.set.fit v = .ok names ∧
        (Kind.list (.record .screen)).fit w = .ok screens := by
  simp only [Record.fields, fitFields_required_iff, fitFields_end_iff]
  constructor
  · rintro ⟨u, _, appName, _, rfl, rfl, first, v, _, names, _, rfl, rfl, second, w, _, screens, _,
      rfl, rfl, third, rfl, rfl⟩
    exact ⟨u, v, w, appName, names, screens, rfl, rfl, first, second, third⟩
  · rintro ⟨u, v, w, appName, names, screens, rfl, rfl, first, second, third⟩
    exact ⟨u, _, appName, _, rfl, rfl, first, v, _, names, _, rfl, rfl, second, w, _, screens, _,
      rfl, rfl, third, rfl, rfl⟩

/-- A specification's list of dependencies is a list of names, and any other list of names could
stand in its place. -/
theorem fit_specification {v form : Value} (fits : (Kind.record .specification).fit v = .ok form) :
    ∃ appName screens names, form = .array [appName, .array (names.map .string), screens] ∧
      v.dependencyNames? = some names ∧
      ∀ others, (v.withDependencies others).dependencyNames? = some others ∧
        (Kind.record .specification).fit (v.withDependencies others) =
          .ok (.array [appName, .array (others.map .string), screens]) := by
  have known : Record.specification.field? "dependencies" = some (.required "dependencies" .set) :=
    rfl
  cases v with
  | object members =>
    rw [Kind.fit] at fits
    obtain ⟨found, each, assembled⟩ := bind_eq_ok_iff.mp fits
    obtain ⟨appName, list, screens, first, second, third, rfl⟩ :=
      assemble_specification_iff.mp assembled
    obtain ⟨w, stands, fitted⟩ := lookup_fitMembers known each second
    rw [orNull_required] at fitted
    obtain ⟨names, rfl, rfl⟩ := fit_set_eq_ok fitted
    refine ⟨appName, screens, names, rfl, ?_, fun others => ⟨?_, ?_⟩⟩
    · simp [Value.dependencyNames?, stands, texts?_map]
    · simp [Value.withDependencies, Value.dependencyNames?, lookup_replaceMember, stands,
        texts?_map]
    · have replaced := fitMembers_replaceMember known
        ((orNull_required _ _ _ _).trans (fit_set others)) each
      rw [Value.withDependencies, Kind.fit]
      refine bind_eq_ok_iff.mpr ⟨_, replaced, assemble_specification_iff.mpr
        ⟨appName, _, screens, ?_, ?_, ?_, rfl⟩⟩
      · simp [lookup_replaceMember, first]
      · simp [lookup_replaceMember, second]
      · simp [lookup_replaceMember, third]
  | array items =>
    rw [Kind.fit] at fits
    obtain ⟨forms, each, same⟩ := bind_eq_ok_iff.mp fits
    obtain ⟨u, v, w, appName, list, screens, rfl, rfl, first, second, third⟩ :=
      fitFields_specification_iff.mp each
    obtain rfl := pure_eq_ok_iff.mp same
    obtain ⟨names, rfl, rfl⟩ := fit_set_eq_ok second
    refine ⟨appName, screens, names, rfl, texts?_map names, fun others =>
      ⟨texts?_map others, ?_⟩⟩
    rw [Value.withDependencies, Kind.fit]
    exact bind_eq_ok_iff.mpr ⟨_, fitFields_specification_iff.mpr
      ⟨u, _, w, appName, _, screens, rfl, rfl, first, fit_set others, third⟩, rfl⟩
  | _ => cases fits

theorem readText_eq_ok {cs rest : List Char} {v : Value} (read : readText cs = .ok (v, rest)) :
    IsText v := by
  unfold readText at read
  split at read
  · obtain ⟨⟨s, mid⟩, -, same⟩ := bind_eq_ok_iff.mp read
    cases same
    exact ⟨s, rfl⟩
  · exact absurd read (readOther_ne_ok _ _ _)

theorem readElements_forall {α : Type} {item : Reader α} {p : α → Prop}
    (each : ∀ {cs a rest}, item cs = .ok (a, rest) → p a) {cs rest : List Char} {as : List α}
    (read : readElements item cs = .ok (as, rest)) : ∀ a ∈ as, p a := by
  refine loop_induct (P := fun taken => ∀ a ∈ taken, p a) (Q := fun as => ∀ a ∈ as, p a)
    ?_ ?_ (by simp) read
  · intro taken cs t mid held step
    obtain ⟨⟨more, inner⟩, -, rest⟩ := bind_eq_ok_iff.mp step
    cases more with
    | false => cases rest
    | true =>
      obtain ⟨⟨a, after⟩, element, same⟩ := bind_eq_ok_iff.mp rest
      cases same
      exact List.forall_mem_cons.mpr ⟨each element, held⟩
  · intro taken cs as mid held step
    obtain ⟨⟨more, inner⟩, -, rest⟩ := bind_eq_ok_iff.mp step
    cases more with
    | true =>
      obtain ⟨_, -, same⟩ := bind_eq_ok_iff.mp rest
      cases same
    | false =>
      cases rest
      simpa using held

theorem read_text (depth : Nat) : Kind.read depth .text = readText := by
  cases depth <;> rfl

theorem read_set_eq_ok {depth : Nat} {cs rest : List Char} {v : Value}
    (read : Kind.read depth .set cs = .ok (v, rest)) :
    ∃ names : List String, v = .array (names.map .string) := by
  cases depth with
  | zero =>
    simp only [Kind.read, readShape, readInside] at read
    split at read
    · cases read
    · exact absurd read (readOther_ne_ok _ _ _)
  | succ depth =>
    simp only [Kind.read, readShape, readInside] at read
    split at read
    · obtain ⟨⟨items, mid⟩, elements, same⟩ := bind_eq_ok_iff.mp read
      cases same
      obtain ⟨names, rfl⟩ := exists_names (readElements_forall
        (fun element => readText_eq_ok (read_text depth ▸ element)) elements)
      exact ⟨names, rfl⟩
    · exact absurd read (readOther_ne_ok _ _ _)

variable {read : Kind → Reader Value}

theorem readField_required (key : String) (k : Kind) (cs : List Char) :
    readField read (.required key k) cs = read k (skipSpace cs) := rfl

/-- What is found for a field was read for it. -/
def ReadFor (read : Kind → Reader Value) (r : Record) (found : List (String × Value)) : Prop :=
  ∀ m ∈ found, ∀ f, r.field? m.1 = some f →
    ∃ inner behind, readField read f inner = .ok (m.2, behind)

theorem ReadFor.fieldStep {cs rest : List Char} {before : List (String × Value)}
    (held : ReadFor read r before)
    (step : fieldStep read r before key cs = .ok (found, rest)) : ReadFor read r found := by
  unfold Schema.fieldStep at step
  split at step
  · obtain ⟨_, -, skipped⟩ := bind_eq_ok_iff.mp step
    obtain ⟨_, -, same⟩ := bind_eq_ok_iff.mp skipped
    cases same
    exact held
  · rename_i f known
    split at step
    · cases step
    · obtain ⟨_, -, field⟩ := bind_eq_ok_iff.mp step
      obtain ⟨_, first, same⟩ := bind_eq_ok_iff.mp field
      cases same
      refine List.forall_mem_cons.mpr ⟨fun g other => ?_, held⟩
      obtain rfl := Option.some.inj (known.symm.trans other)
      exact ⟨_, _, first⟩

theorem readFor_readMembers {cs rest : List Char}
    (fields : readMembers (fieldStep read r) [] cs = .ok (found, rest)) : ReadFor read r found := by
  refine loop_induct (P := fun (state : Bool × List (String × Value)) => ReadFor read r state.2)
    (Q := ReadFor read r) ?_ ?_ (by simp [ReadFor]) fields
  · intro state cs t mid held step
    obtain ⟨⟨next, inner⟩, -, continued⟩ := bind_eq_ok_iff.mp step
    cases next with
    | none => cases continued
    | some key =>
      obtain ⟨_, member, same⟩ := bind_eq_ok_iff.mp continued
      cases same
      exact held.fieldStep member
  · intro state cs members mid held step
    obtain ⟨⟨next, inner⟩, -, continued⟩ := bind_eq_ok_iff.mp step
    cases next with
    | none =>
      cases continued
      exact held
    | some key =>
      obtain ⟨_, -, same⟩ := bind_eq_ok_iff.mp continued
      cases same

theorem readFields_required {k : Kind} {index : Nat} {fields : List Field} {cs rest : List Char}
    {forms : List Value}
    (taken : readFields read r index (.required key k :: fields) cs = .ok (forms, rest)) :
    ∃ form others, forms = form :: others ∧ (∃ inner behind, read k inner = .ok (form, behind)) ∧
      ∃ mid, readFields read r (index + 1) fields mid = .ok (others, rest) := by
  rw [readFields] at taken
  obtain ⟨⟨more, inner⟩, -, continued⟩ := bind_eq_ok_iff.mp taken
  cases more with
  | false => cases continued
  | true =>
    obtain ⟨⟨form, mid⟩, first, continued⟩ := bind_eq_ok_iff.mp continued
    obtain ⟨⟨others, behind⟩, later, same⟩ := bind_eq_ok_iff.mp continued
    cases same
    rw [readField_required] at first
    exact ⟨form, others, rfl, ⟨_, _, first⟩, mid, later⟩

theorem readFields_end {index : Nat} {cs rest : List Char} {forms : List Value}
    (taken : readFields read r index [] cs = .ok (forms, rest)) : forms = [] := by
  obtain ⟨_, -, same⟩ := bind_eq_ok_iff.mp taken
  cases same
  rfl

/-- Whatever a specification is read from, its list of dependencies is a list of names. -/
theorem read_specification {depth : Nat} {cs rest : List Char} {form : Value}
    (taken : Kind.read depth (.record .specification) cs = .ok (form, rest)) :
    ∃ (appName screens : Value) (names : List String),
      form = .array [appName, .array (names.map .string), screens] := by
  cases depth with
  | zero =>
    simp only [Kind.read, readShape, readInside] at taken
    split at taken
    · cases taken
    · cases taken
    · exact absurd taken (readOther_ne_ok _ _ _)
  | succ depth =>
    simp only [Kind.read, readShape, readInside] at taken
    split at taken
    · obtain ⟨⟨forms, mid⟩, fields, same⟩ := bind_eq_ok_iff.mp taken
      cases same
      obtain ⟨appName, _, rfl, -, _, fields⟩ := readFields_required fields
      obtain ⟨list, _, rfl, ⟨_, _, listed⟩, _, fields⟩ := readFields_required fields
      obtain ⟨screens, _, rfl, -, _, fields⟩ := readFields_required fields
      obtain rfl := readFields_end fields
      obtain ⟨names, rfl⟩ := read_set_eq_ok listed
      exact ⟨appName, screens, names, rfl⟩
    · obtain ⟨⟨found, mid⟩, fields, continued⟩ := bind_eq_ok_iff.mp taken
      dsimp only at continued
      split at continued
      · rename_i assembled
        cases continued
        obtain ⟨appName, list, screens, -, stands, -, rfl⟩ :=
          assemble_specification_iff.mp assembled
        obtain ⟨front, back, rfl, -⟩ := List.lookup_eq_some_iff.mp stands
        obtain ⟨_, _, listed⟩ := readFor_readMembers fields ("dependencies", list) (by simp) _ rfl
        rw [readField_required] at listed
        obtain ⟨names, rfl⟩ := read_set_eq_ok listed
        exact ⟨appName, screens, names, rfl⟩
      · cases continued
    · exact absurd taken (readOther_ne_ok _ _ _)

end Schema

end AppScaffold
