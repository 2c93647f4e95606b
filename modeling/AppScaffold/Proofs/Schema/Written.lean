import AppScaffold.Schema.Check
import AppScaffold.Spec.Encode

namespace AppScaffold.Schema

open Json

/-- A field of a record, what is written for it, and the form that it is brought to. -/
structure Slot where
  field : Field
  written : Option Value
  form : Value

namespace Slot

def members (s : Slot) : List (String × Value) := member? s.field.key s.written

def found (s : Slot) : List (String × Value) :=
  member? s.field.key (s.written.map fun _ => s.form)

def Fits (s : Slot) : Prop :=
  match s.written with
  | some v => s.field.orNull v (s.field.kind.fit v) = .ok s.form
  | none => s.field.ifAbsent = some s.form

end Slot

theorem nodup_keys_fields (r : Record) : (r.fields.map Field.key).Nodup := by
  cases r <;> decide

theorem find?_key_of_nodup {fields : List Field} {f : Field} (present : f ∈ fields)
    (distinct : (fields.map Field.key).Nodup) : fields.find? (·.key == f.key) = some f := by
  induction fields with
  | nil => cases present
  | cons g gs ih =>
    rw [List.map_cons, List.nodup_cons] at distinct
    rcases List.mem_cons.mp present with rfl | later
    · simp
    · have other : g.key ≠ f.key := by
        intro same
        exact distinct.1 (same ▸ List.mem_map_of_mem later)
      rw [List.find?_cons_of_neg (by simpa using other)]
      exact ih later distinct.2

theorem Record.field?_key {r : Record} {f : Field} (present : f ∈ r.fields) :
    r.field? f.key = some f :=
  find?_key_of_nodup present (nodup_keys_fields r)

theorem fitMembers_written {r : Record} {slots : List Slot}
    (fields : ∀ s ∈ slots, s.field ∈ r.fields) (fits : ∀ s ∈ slots, s.Fits) :
    Kind.fitMembers r (slots.flatMap Slot.members) = .ok (slots.flatMap Slot.found) := by
  induction slots with
  | nil => rfl
  | cons s slots ih =>
    have rest := ih (fun t member => fields t (List.mem_cons_of_mem _ member))
      (fun t member => fits t (List.mem_cons_of_mem _ member))
    have known := Record.field?_key (fields s List.mem_cons_self)
    have first := fits s List.mem_cons_self
    rw [List.flatMap_cons, List.flatMap_cons]
    cases written : s.written with
    | none => simpa [Slot.members, Slot.found, written, member?] using rest
    | some v =>
      simp only [Slot.Fits, written] at first
      simp only [Slot.members, Slot.found, written, member?, Option.map_some, List.cons_append,
        List.nil_append, Kind.fitMembers, known, first]
      show (Kind.fitMembers r (slots.flatMap Slot.members)).bind _ = _
      rw [rest]
      rfl

theorem lookup_found_of_not_mem {slots : List Slot} {key : String}
    (absent : key ∉ slots.map (·.field.key)) : (slots.flatMap Slot.found).lookup key = none := by
  induction slots with
  | nil => rfl
  | cons s slots ih =>
    simp only [List.map_cons, List.mem_cons, not_or] at absent
    have other : (key == s.field.key) = false := beq_eq_false_iff_ne.mpr absent.1
    rw [List.flatMap_cons, List.lookup_append, ih absent.2]
    cases written : s.written <;> simp [Slot.found, written, member?, List.lookup_cons, other]

theorem lookup_found {slots : List Slot} {s : Slot} (present : s ∈ slots)
    (distinct : (slots.map (·.field.key)).Nodup) :
    (slots.flatMap Slot.found).lookup s.field.key = s.written.map fun _ => s.form := by
  induction slots with
  | nil => cases present
  | cons t slots ih =>
    rw [List.map_cons, List.nodup_cons] at distinct
    rw [List.flatMap_cons, List.lookup_append]
    rcases List.mem_cons.mp present with rfl | later
    · rw [lookup_found_of_not_mem distinct.1]
      cases written : s.written <;> simp [Slot.found, written, member?]
    · have other : (s.field.key == t.field.key) = false := by
        refine beq_eq_false_iff_ne.mpr fun same => distinct.1 ?_
        exact same ▸ List.mem_map_of_mem later
      rw [ih later distinct.2]
      cases written : t.written <;> simp [Slot.found, written, member?, List.lookup_cons, other]

theorem take_found {slots : List Slot} {s : Slot} (present : s ∈ slots)
    (distinct : (slots.map (·.field.key)).Nodup) (fits : s.Fits) :
    s.field.take (slots.flatMap Slot.found) = .ok s.form := by
  rw [Field.take, lookup_found present distinct]
  cases written : s.written with
  | none =>
    simp only [Slot.Fits, written] at fits
    simp [fits]
  | some v => simp

theorem mapM_take {found : List (String × Value)} {slots : List Slot}
    (taken : ∀ s ∈ slots, s.field.take found = .ok s.form) :
    (slots.map Slot.field).mapM (Field.take found) = .ok (slots.map Slot.form) := by
  induction slots with
  | nil => rfl
  | cons s slots ih =>
    have rest := ih (fun t member => taken t (List.mem_cons_of_mem _ member))
    rw [List.map_cons, List.mapM_cons, taken s List.mem_cons_self, rest]
    rfl

/-- An object that names the fields it has, with values that fit, is brought to the list of their
forms. -/
theorem Kind.fit_written {r : Record} (slots : List Slot)
    (fields : slots.map Slot.field = r.fields) (fits : ∀ s ∈ slots, s.Fits) :
    (Kind.record r).fit (.object (slots.flatMap Slot.members)) =
      .ok (.array (slots.map Slot.form)) := by
  have present : ∀ s ∈ slots, s.field ∈ r.fields := by
    intro s member
    exact fields ▸ List.mem_map_of_mem member
  have distinct : (slots.map (·.field.key)).Nodup := by
    have keys := nodup_keys_fields r
    rwa [← fields, List.map_map] at keys
  have taken := mapM_take fun s member => take_found member distinct (fits s member)
  rw [Kind.fit]
  show (Kind.fitMembers r _).bind _ = _
  rw [fitMembers_written present fits]
  show (r.fields.mapM (Field.take _)).bind _ = _
  rw [← fields, taken]
  rfl

end AppScaffold.Schema
