import AppScaffold.Proofs.Except
import AppScaffold.Proofs.Schema.Written
import Mathlib.Logic.Basic

namespace AppScaffold

open Json

namespace Json

/-- Whatever stands under the key is as `p` says. -/
def Allows (members : List (String × Value)) (key : String) (p : Value → Prop) : Prop :=
  ∀ v, (key, v) ∈ members → p v

def Has (members : List (String × Value)) (key : String) (p : Value → Prop) : Prop :=
  key ∈ members.map Prod.fst ∧ Allows members key p

def IsText (v : Value) : Prop := ∃ s, v = .string s

def OrNull (p : Value → Prop) (v : Value) : Prop := v = .null ∨ p v

def ListOf (p : Value → Prop) (v : Value) : Prop := ∃ items, v = .array items ∧ ∀ w ∈ items, p w

variable {members : List (String × Value)} {key : String} {p q : Value → Prop}

theorem allows_congr (same : ∀ v, (key, v) ∈ members → (p v ↔ q v)) :
    Allows members key p ↔ Allows members key q :=
  forall₂_congr same

theorem has_congr (same : ∀ v, (key, v) ∈ members → (p v ↔ q v)) :
    Has members key p ↔ Has members key q :=
  and_congr_right' (allows_congr same)

theorem orNull_congr {v : Value} (same : p v ↔ q v) : OrNull p v ↔ OrNull q v :=
  or_congr_right same

theorem listOf_congr {v : Value} (same : ∀ items, v = .array items → ∀ w ∈ items, (p w ↔ q w)) :
    ListOf p v ↔ ListOf q v :=
  exists_congr fun items => and_congr_right fun array => forall₂_congr (same items array)

end Json

namespace Schema

def Kind.Accepts (k : Kind) (v : Value) : Prop := ∃ form, k.fit v = .ok form

def Field.Accepts (f : Field) (v : Value) : Prop := ∃ form, f.orNull v (f.kind.fit v) = .ok form

namespace Kind

variable {k : Kind}

theorem accepts_any (v : Value) : Kind.any.Accepts v := by
  cases v <;> exact ⟨_, rfl⟩

@[simp] theorem accepts_text : Kind.text.Accepts = IsText := by
  funext v
  rw [eq_iff_iff]
  constructor
  · rintro ⟨form, fits⟩
    cases v with
    | string s => exact ⟨s, rfl⟩
    | _ => cases fits
  · rintro ⟨s, rfl⟩
    exact ⟨_, rfl⟩

theorem exists_fitItems_iff {items : List Value} :
    (∃ forms, fitItems k items = .ok forms) ↔ ∀ w ∈ items, k.Accepts w := by
  induction items with
  | nil => simp [fitItems]
  | cons w items ih =>
    rw [List.forall_mem_cons, ← ih, fitItems]
    exact exists_pair_eq_ok_iff

@[simp] theorem accepts_list : (Kind.list k).Accepts = ListOf k.Accepts := by
  funext v
  rw [eq_iff_iff]
  constructor
  · rintro ⟨form, fits⟩
    cases v with
    | array items =>
      obtain ⟨forms, each, -⟩ := bind_eq_ok_iff.mp fits
      exact ⟨items, rfl, exists_fitItems_iff.mp ⟨forms, each⟩⟩
    | _ => cases fits
  · rintro ⟨items, rfl, each⟩
    obtain ⟨forms, fits⟩ := exists_fitItems_iff.mpr each
    exact ⟨_, bind_eq_ok_iff.mpr ⟨forms, fits, rfl⟩⟩

@[simp] theorem accepts_set : Kind.set.Accepts = ListOf IsText := by
  rw [← accepts_text, ← accepts_list]
  funext v
  rw [eq_iff_iff]
  cases v with
  | array items => rfl
  | _ => constructor <;> rintro ⟨form, fits⟩ <;> cases fits

end Kind

namespace Field

variable {f : Field} {v : Value}

theorem accepts_iff : f.Accepts v ↔ v = .null ∧ f.ifNull.isSome = true ∨ f.kind.Accepts v := by
  cases v with
  | null => cases meaning : f.ifNull <;> simp [Accepts, Kind.Accepts, orNull, meaning]
  | _ => simp [Accepts, Kind.Accepts, orNull]

/-- What the members of an object say about a field fits it. -/
def HeldBy (f : Field) (members : List (String × Value)) : Prop :=
  (f.ifAbsent = none → f.key ∈ members.map Prod.fst) ∧ Allows members f.key f.Accepts

variable {members : List (String × Value)} {key : String} {k : Kind}

theorem heldBy_required : (required key k).HeldBy members ↔ Has members key k.Accepts :=
  and_congr (forall_prop_of_true rfl) (allows_congr fun _ _ => by simp [accepts_iff, required])

theorem heldBy_defaulted {absent : Value} :
    (defaulted key k absent).HeldBy members ↔ Allows members key k.Accepts := by
  rw [HeldBy, and_iff_right nofun]
  exact allows_congr fun _ _ => by simp [accepts_iff, defaulted]

theorem heldBy_optional :
    (optional key k).HeldBy members ↔ Allows members key (OrNull k.Accepts) := by
  rw [HeldBy, and_iff_right nofun]
  exact allows_congr fun _ _ => by simp [accepts_iff, optional, OrNull]

theorem heldBy_listOrNull :
    (listOrNull key k).HeldBy members ↔ Allows members key (OrNull (ListOf k.Accepts)) := by
  rw [HeldBy, and_iff_right nofun]
  exact allows_congr fun _ _ => by simp [accepts_iff, listOrNull, OrNull]

theorem allows_any : Allows members key Kind.any.Accepts := fun v _ => Kind.accepts_any v

theorem allows_orNull_any : Allows members key (OrNull Kind.any.Accepts) :=
  fun v _ => .inr (Kind.accepts_any v)

end Field

theorem exists_mapM_iff {α β ε : Type} {f : α → Except ε β} {as : List α} :
    (∃ bs, as.mapM f = .ok bs) ↔ ∀ a ∈ as, ∃ b, f a = .ok b := by
  induction as with
  | nil => simp [pure, Except.pure]
  | cons a as ih =>
    rw [List.forall_mem_cons, ← ih, List.mapM_cons]
    exact exists_pair_eq_ok_iff

variable {r : Record} {members : List (String × Value)}

theorem exists_fitMembers_iff :
    (∃ found, Kind.fitMembers r members = .ok found) ↔
      ∀ m ∈ members, ∀ f, r.field? m.1 = some f → f.Accepts m.2 := by
  induction members with
  | nil => simp [Kind.fitMembers]
  | cons m members ih =>
    obtain ⟨key, v⟩ := m
    rw [List.forall_mem_cons, ← ih, Kind.fitMembers]
    cases known : r.field? key with
    | none => simp
    | some f =>
      simp only [Option.some.injEq, forall_eq']
      exact exists_pair_eq_ok_iff

theorem map_fst_fitMembers {found : List (String × Value)}
    (fits : Kind.fitMembers r members = .ok found) :
    found.map Prod.fst = (members.map Prod.fst).filter fun key => (r.field? key).isSome := by
  induction members generalizing found with
  | nil =>
    obtain rfl : [] = found := Except.ok.inj fits
    rfl
  | cons m members ih =>
    obtain ⟨key, v⟩ := m
    rw [Kind.fitMembers] at fits
    cases known : r.field? key with
    | none =>
      rw [known] at fits
      simp [known, ih fits]
    | some f =>
      rw [known] at fits
      obtain ⟨form, -, rest⟩ := bind_eq_ok_iff.mp fits
      obtain ⟨others, later, same⟩ := bind_eq_ok_iff.mp rest
      obtain rfl := pure_eq_ok_iff.mp same
      simp [known, ih later]

theorem lookup_perm {α : Type} {ms ns : List (String × α)} (perm : ms.Perm ns)
    (distinct : (ms.map Prod.fst).Nodup) (key : String) : ms.lookup key = ns.lookup key := by
  induction perm with
  | nil => rfl
  | cons m _ ih =>
    rw [List.map_cons, List.nodup_cons] at distinct
    rw [List.lookup_cons, List.lookup_cons, ih distinct.2]
  | swap m n ms =>
    obtain ⟨k, v⟩ := m
    obtain ⟨l, w⟩ := n
    have apart : l ≠ k := by
      simp only [List.map_cons, List.nodup_cons, List.mem_cons, not_or] at distinct
      exact distinct.1.1
    by_cases first : key = l
    · simp [List.lookup_cons, first, beq_false_of_ne apart]
    · simp [List.lookup_cons, beq_false_of_ne first]
  | trans first _ ih ih' =>
    exact (ih distinct).trans (ih' ((first.map Prod.fst).nodup distinct))

theorem Record.assemble_perm (r : Record) {ms ns : List (String × Value)} (perm : ms.Perm ns)
    (distinct : (ms.map Prod.fst).Nodup) : r.assemble ms = r.assemble ns := by
  have take : Field.take ms = Field.take ns := by
    funext f
    rw [Field.take, Field.take, lookup_perm perm distinct]
  rw [assemble, assemble, take]

theorem exists_take_iff {f : Field} {found : List (String × Value)} :
    (∃ v, f.take found = .ok v) ↔ (f.ifAbsent = none → f.key ∈ found.map Prod.fst) := by
  have present : f.key ∈ found.map Prod.fst ↔ (found.lookup f.key).isSome = true := by
    rw [List.lookup_isSome_iff, List.mem_map]
    exact exists_congr fun m => and_congr_right' (eq_comm.trans beq_iff_eq.symm)
  rw [Field.take, present]
  cases found.lookup f.key <;> cases f.ifAbsent <;> simp

/-- An object fits a record if each field is held by its members. -/
theorem accepts_record_iff :
    (Kind.record r).Accepts (.object members) ↔ ∀ f ∈ r.fields, f.HeldBy members := by
  have keyed {f : Field} (field : f ∈ r.fields) : (r.field? f.key).isSome = true := by
    rw [Record.field?_key field]
    rfl
  have assembled {found : List (String × Value)} (fits : Kind.fitMembers r members = .ok found) :
      (∃ forms, r.fields.mapM (Field.take found) = .ok forms) ↔
        ∀ f ∈ r.fields, f.ifAbsent = none → f.key ∈ members.map Prod.fst := by
    rw [exists_mapM_iff]
    refine forall₂_congr fun f field => ?_
    rw [exists_take_iff, map_fst_fitMembers fits, List.mem_filter, and_iff_left (keyed field)]
  have fitted : (∃ found, Kind.fitMembers r members = .ok found) ↔
      ∀ f ∈ r.fields, Allows members f.key f.Accepts := by
    rw [exists_fitMembers_iff]
    constructor
    · intro each f field v member
      exact each (f.key, v) member f (Record.field?_key field)
    · rintro each ⟨key, v⟩ member f known
      obtain rfl : f.key = key := by simpa using List.find?_some known
      exact each f (List.mem_of_find?_eq_some known) v member
  constructor
  · rintro ⟨form, fits⟩ f field
    obtain ⟨found, held, rest⟩ := bind_eq_ok_iff.mp fits
    obtain ⟨forms, taken, -⟩ := bind_eq_ok_iff.mp rest
    exact ⟨(assembled held).mp ⟨forms, taken⟩ f field, fitted.mp ⟨found, held⟩ f field⟩
  · intro held
    obtain ⟨found, fits⟩ := fitted.mpr fun f field => (held f field).2
    obtain ⟨forms, taken⟩ := (assembled fits).mpr fun f field => (held f field).1
    exact ⟨_, bind_eq_ok_iff.mpr ⟨found, fits, bind_eq_ok_iff.mpr ⟨forms, taken, rfl⟩⟩⟩

theorem accepts_record_iff_of_named {v : Value} (named : ∀ items, v ≠ .array items) :
    (Kind.record r).Accepts v ↔
      ∃ members, v = .object members ∧ ∀ f ∈ r.fields, f.HeldBy members := by
  constructor
  · intro accepted
    cases v with
    | array items => exact absurd rfl (named items)
    | object members => exact ⟨members, rfl, accepts_record_iff.mp accepted⟩
    | _ =>
      obtain ⟨form, fits⟩ := accepted
      cases fits
  · rintro ⟨members, rfl, held⟩
    exact accepts_record_iff.mpr held

end Schema

end AppScaffold
