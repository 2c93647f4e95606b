import AppScaffold.Proofs.Spec.Grammar
import Mathlib.Logic.Relation

/-! Values that are spelled differently and say the same. The order of the members of a record,
members that the record has no fields for, and the ways to leave a field out make no difference to
the form that a value is brought to, nor to whether there is one, at whatever depth they are. -/

namespace AppScaffold

open Json Schema

/-- Two computations with the same result, or without any. -/
def Alike {ε α : Type} (x y : Except ε α) : Prop := x.toOption = y.toOption

namespace Alike

variable {ε α β : Type} {x y : Except ε α}

theorem of_eq (same : x = y) : Alike x y := congrArg Except.toOption same

theorem ok_iff (alike : Alike x y) {a : α} : x = .ok a ↔ y = .ok a := by
  rw [← toOption_eq_some_iff, alike, toOption_eq_some_iff]

theorem bind (alike : Alike x y) {f g : α → Except ε β}
    (more : ∀ a, x = .ok a → Alike (f a) (g a)) : Alike (x >>= f) (y >>= g) := by
  cases x with
  | error e =>
    cases y with
    | error d => rfl
    | ok b => cases alike
  | ok a =>
    obtain rfl : y = .ok a := alike.ok_iff.mp rfl
    exact more a rfl

end Alike

namespace Schema

namespace Record

/-- The lists that may be absent, null or empty alike. -/
def listKeys : Record → List String
  | .screen => ["state", "effects"]
  | .component => ["children"]
  | .effect => ["dependencies"]
  | _ => []

def optionalKeys : Record → List String
  | .component => ["content", "data", "style"] ++ Component.textKeys
  | .binding => ["initialValue"]
  | _ => []

end Record

/-- One thing in a value of the kind is spelled differently. -/
inductive Respelled : Kind → Value → Value → Prop
  | item {k : Kind} {v w : Value} (front back : List Value) (inner : Respelled k v w) :
    Respelled (.list k) (.array (front ++ v :: back)) (.array (front ++ w :: back))
  | member {r : Record} {f : Field} {key : String} {v w : Value}
    (front back : List (String × Value)) (known : r.field? key = some f)
    (inner : Respelled f.kind v w) :
    Respelled (.record r) (.object (front ++ (key, v) :: back))
      (.object (front ++ (key, w) :: back))
  /-- A field of a record that is given as a list. -/
  | place {r : Record} {f : Field} {v w : Value} (front back : List Value)
    (known : r.fields[front.length]? = some f) (inner : Respelled f.kind v w) :
    Respelled (.record r) (.array (front ++ v :: back)) (.array (front ++ w :: back))
  | permuted {r : Record} {ms ns : List (String × Value)} (perm : ms.Perm ns)
    (distinct : (ms.map Prod.fst).Nodup) : Respelled (.record r) (.object ms) (.object ns)
  | extended {r : Record} {key : String} (front back : List (String × Value)) (v : Value)
    (unknown : r.field? key = none) :
    Respelled (.record r) (.object (front ++ back)) (.object (front ++ (key, v) :: back))
  | emptied {r : Record} {key : String} (front back : List (String × Value))
    (known : key ∈ r.listKeys) :
    Respelled (.record r) (.object (front ++ (key, .null) :: back))
      (.object (front ++ (key, .array []) :: back))
  | nulled {r : Record} {key : String} (front back : List (String × Value))
    (known : key ∈ r.listKeys ++ r.optionalKeys) (absent : key ∉ (front ++ back).map Prod.fst) :
    Respelled (.record r) (.object (front ++ back)) (.object (front ++ (key, .null) :: back))

theorem Respelled.ne_null {k : Kind} {v w : Value} (respelled : Respelled k v w) :
    v ≠ .null ∧ w ≠ .null := by
  cases respelled <;> simp

section Lists

variable {k : Kind} {v w : Value}

theorem Kind.alike_fitItems (alike : Alike (k.fit v) (k.fit w)) (front back : List Value) :
    Alike (fitItems k (front ++ v :: back)) (fitItems k (front ++ w :: back)) := by
  induction front with
  | nil =>
    rw [List.nil_append, List.nil_append, fitItems, fitItems]
    exact alike.bind fun _ _ => .of_eq rfl
  | cons u front ih =>
    rw [List.cons_append, List.cons_append, fitItems, fitItems]
    exact Alike.bind rfl fun _ _ => ih.bind fun _ _ => rfl

end Lists

theorem Field.orNull_of_ne_null {f : Field} {v : Value} (given : v ≠ .null)
    (fitted : Except Mismatch Value) : f.orNull v fitted = fitted := by
  cases v with
  | null => exact absurd rfl given
  | _ => rfl

theorem Record.orNull_of_listKeys {r : Record} {key : String} (known : key ∈ r.listKeys) :
    ∃ f, r.field? key = some f ∧
      f.orNull .null (f.kind.fit .null) = f.orNull (.array []) (f.kind.fit (.array [])) := by
  cases r with
  | screen =>
    rcases List.mem_cons.mp known with rfl | last
    · exact ⟨_, rfl, rfl⟩
    · obtain rfl := List.mem_singleton.mp last
      exact ⟨_, rfl, rfl⟩
  | component =>
    obtain rfl := List.mem_singleton.mp known
    exact ⟨_, rfl, rfl⟩
  | effect =>
    obtain rfl := List.mem_singleton.mp known
    exact ⟨_, rfl, rfl⟩
  | _ => cases known

theorem Record.ifAbsent_of_keys {r : Record} {key : String}
    (known : key ∈ r.listKeys ++ r.optionalKeys) :
    ∃ f form, r.field? key = some f ∧ f.orNull .null (f.kind.fit .null) = .ok form ∧
      f.ifAbsent = some form := by
  simp only [listKeys, optionalKeys, Component.textKeys, List.mem_append] at known
  cases r with
  | screen =>
    simp only [List.mem_cons, List.not_mem_nil, or_false] at known
    rcases known with rfl | rfl <;> exact ⟨_, _, rfl, rfl, rfl⟩
  | binding =>
    obtain rfl : key = "initialValue" := by simpa using known
    exact ⟨_, _, rfl, rfl, rfl⟩
  | effect =>
    obtain rfl : key = "dependencies" := by simpa using known
    exact ⟨_, _, rfl, rfl, rfl⟩
  | component =>
    simp only [List.mem_cons, List.mem_append, List.not_mem_nil, or_false, or_assoc] at known
    rcases known with
      rfl | rfl | rfl | rfl | rfl | rfl | rfl | rfl | rfl | rfl | rfl | rfl | rfl <;>
      exact ⟨_, _, rfl, rfl, rfl⟩
  | _ => simp at known

section Members

variable {r : Record}

theorem Kind.fitMembers_append (front back : List (String × Value)) :
    fitMembers r (front ++ back) =
      fitMembers r front >>= fun xs => (fitMembers r back).map (xs ++ ·) := by
  induction front with
  | nil =>
    rw [List.nil_append, fitMembers]
    cases fitMembers r back <;> rfl
  | cons m front ih =>
    obtain ⟨key, v⟩ := m
    rw [List.cons_append, fitMembers, fitMembers, ih]
    cases r.field? key with
    | none => rfl
    | some f =>
      dsimp only
      cases f.orNull v (f.kind.fit v) with
      | error e => rfl
      | ok w =>
        cases fitMembers r front with
        | error e => rfl
        | ok xs => cases fitMembers r back <;> rfl

theorem Kind.fitMembers_append_eq_ok_iff (front back : List (String × Value))
    {xs : List (String × Value)} :
    fitMembers r (front ++ back) = .ok xs ↔
      ∃ ys zs, fitMembers r front = .ok ys ∧ fitMembers r back = .ok zs ∧ ys ++ zs = xs := by
  rw [fitMembers_append, bind_eq_ok_iff]
  simp only [map_eq_ok_iff, exists_and_left]

theorem Kind.alike_fitMembers {key : String} {v w : Value} (front back : List (String × Value))
    (alike : ∀ f, r.field? key = some f →
      Alike (f.orNull v (f.kind.fit v)) (f.orNull w (f.kind.fit w))) :
    Alike (fitMembers r (front ++ (key, v) :: back))
      (fitMembers r (front ++ (key, w) :: back)) := by
  have one : Alike (fitMembers r ((key, v) :: back)) (fitMembers r ((key, w) :: back)) := by
    rw [fitMembers, fitMembers]
    cases known : r.field? key with
    | none => rfl
    | some f => exact (alike f known).bind fun _ _ => rfl
  rw [fitMembers_append, fitMembers_append]
  exact Alike.bind rfl fun _ _ => one.bind fun _ _ => rfl

theorem Kind.alike_record {ms ns : List (String × Value)}
    (alike : Alike (fitMembers r ms) (fitMembers r ns)) :
    Alike ((Kind.record r).fit (.object ms)) ((Kind.record r).fit (.object ns)) := by
  rw [fit, fit]
  exact alike.bind fun _ _ => rfl

theorem Kind.fitMembers_extended {key : String} (front back : List (String × Value)) (v : Value)
    (unknown : r.field? key = none) :
    fitMembers r (front ++ (key, v) :: back) = fitMembers r (front ++ back) := by
  have one : fitMembers r ((key, v) :: back) = fitMembers r back := by
    rw [fitMembers, unknown]
  rw [fitMembers_append, fitMembers_append, one]

theorem Kind.fitMembers_perm {ms ns xs : List (String × Value)} (perm : ms.Perm ns)
    (fits : fitMembers r ms = .ok xs) : ∃ ys, fitMembers r ns = .ok ys ∧ xs.Perm ys := by
  induction perm generalizing xs with
  | nil => exact ⟨xs, fits, .refl xs⟩
  | cons m _ ih =>
    obtain ⟨first, rest, head, tail, rfl⟩ := (fitMembers_append_eq_ok_iff [m] _).mp fits
    obtain ⟨others, later, same⟩ := ih tail
    exact ⟨first ++ others,
      (fitMembers_append_eq_ok_iff [m] _).mpr ⟨first, others, head, later, rfl⟩,
      same.append_left first⟩
  | swap m n ms =>
    obtain ⟨first, rest, head, tail, rfl⟩ := (fitMembers_append_eq_ok_iff [n] _).mp fits
    obtain ⟨second, others, next, later, rfl⟩ := (fitMembers_append_eq_ok_iff [m] _).mp tail
    have behind := (fitMembers_append_eq_ok_iff [n] ms).mpr ⟨first, others, head, later, rfl⟩
    have swapped := (fitMembers_append_eq_ok_iff [m] (n :: ms)).mpr ⟨second, _, next, behind, rfl⟩
    refine ⟨_, swapped, ?_⟩
    rw [← List.append_assoc, ← List.append_assoc]
    exact List.perm_append_comm.append_right others
  | trans _ _ ih ih' =>
    obtain ⟨ys, between, first⟩ := ih fits
    obtain ⟨zs, after, second⟩ := ih' between
    exact ⟨zs, after, first.trans second⟩

theorem Kind.alike_permuted {ms ns : List (String × Value)} (perm : ms.Perm ns)
    (distinct : (ms.map Prod.fst).Nodup) :
    Alike ((Kind.record r).fit (.object ms)) ((Kind.record r).fit (.object ns)) := by
  rw [fit, fit]
  cases fits : fitMembers r ms with
  | ok xs =>
    obtain ⟨ys, others, same⟩ := fitMembers_perm perm fits
    have keys : (xs.map Prod.fst).Nodup := by
      rw [map_fst_fitMembers fits]
      exact distinct.filter _
    rw [others]
    exact .of_eq (r.assemble_perm same keys)
  | error m =>
    cases others : fitMembers r ns with
    | error _ => rfl
    | ok ys =>
      obtain ⟨xs, again, -⟩ := fitMembers_perm perm.symm others
      cases fits.symm.trans again

theorem lookup_of_absent {key : String} {ms : List (String × Value)}
    (absent : key ∉ ms.map Prod.fst) : ms.lookup key = none := by
  rw [List.lookup_eq_none_iff]
  intro m member
  rw [bne_iff_ne]
  intro same
  exact absent (same ▸ List.mem_map_of_mem member)

theorem mapM_congr {ε α β : Type} {f g : α → Except ε β} {as : List α}
    (same : ∀ a ∈ as, f a = g a) : as.mapM f = as.mapM g := by
  induction as with
  | nil => rfl
  | cons a as ih =>
    rw [List.forall_mem_cons] at same
    rw [List.mapM_cons, List.mapM_cons, same.1, ih same.2]

theorem Record.assemble_append_cons {key : String} {form : Value} {f : Field}
    {front back : List (String × Value)} (known : r.field? key = some f)
    (meaning : f.ifAbsent = some form) (absent : key ∉ (front ++ back).map Prod.fst) :
    r.assemble (front ++ (key, form) :: back) = r.assemble (front ++ back) := by
  have take : ∀ g ∈ r.fields,
      g.take (front ++ (key, form) :: back) = g.take (front ++ back) := by
    intro g field
    by_cases own : g.key = key
    · obtain rfl : f = g := by
        rw [← own, field?_key field] at known
        exact (Option.some.inj known).symm
      have missing := lookup_of_absent absent
      have before : front.lookup key = none := by
        rw [List.lookup_append] at missing
        exact (Option.or_eq_none_iff.mp missing).1
      simp [Field.take, own, meaning, missing, List.lookup_append, before]
    · simp [Field.take, List.lookup_append, List.lookup_cons, beq_false_of_ne own]
  rw [assemble, assemble, mapM_congr take]

theorem Kind.alike_nulled {key : String} (front back : List (String × Value))
    (known : key ∈ r.listKeys ++ r.optionalKeys) (absent : key ∉ (front ++ back).map Prod.fst) :
    Alike ((Kind.record r).fit (.object (front ++ back)))
      ((Kind.record r).fit (.object (front ++ (key, .null) :: back))) := by
  obtain ⟨f, form, field, null, meaning⟩ := Record.ifAbsent_of_keys known
  have one : fitMembers r ((key, .null) :: back) = (fitMembers r back).map ((key, form) :: ·) := by
    rw [fitMembers, field]
    dsimp only
    rw [null]
    cases fitMembers r back <;> rfl
  rw [fit, fit, fitMembers_append, fitMembers_append, one]
  cases before : fitMembers r front with
  | error e => rfl
  | ok xs =>
    cases behind : fitMembers r back with
    | error e => rfl
    | ok ys =>
      have missing : key ∉ (xs ++ ys).map Prod.fst := by
        rw [List.map_append, map_fst_fitMembers before, map_fst_fitMembers behind,
          ← List.filter_append, ← List.map_append]
        exact fun member => absent (List.mem_filter.mp member).1
      exact .of_eq (r.assemble_append_cons field meaning missing).symm

end Members

theorem Kind.alike_fitFields {r : Record} {f : Field} {v w : Value}
    (alike : Alike (f.orNull v (f.kind.fit v)) (f.orNull w (f.kind.fit w))) {fields : List Field}
    (index : Nat) (front back : List Value) (known : fields[front.length]? = some f) :
    Alike (fitFields r index fields (front ++ v :: back))
      (fitFields r index fields (front ++ w :: back)) := by
  induction front generalizing fields index with
  | nil =>
    cases fields with
    | nil => cases known
    | cons g fields =>
      obtain rfl : g = f := Option.some.inj known
      rw [List.nil_append, List.nil_append, fitFields, fitFields]
      exact alike.bind fun _ _ => rfl
  | cons u front ih =>
    cases fields with
    | nil => cases known
    | cons g fields =>
      rw [List.cons_append, List.cons_append, fitFields, fitFields]
      exact Alike.bind rfl fun _ _ => (ih (index + 1) known).bind fun _ _ => rfl

theorem Respelled.alike_fit {k : Kind} {v w : Value} (respelled : Respelled k v w) :
    Alike (k.fit v) (k.fit w) := by
  induction respelled with
  | item front back inner ih =>
    rw [Kind.fit, Kind.fit]
    exact (Kind.alike_fitItems ih front back).bind fun _ _ => rfl
  | @member r f key v w front back known inner ih =>
    apply Kind.alike_record
    apply Kind.alike_fitMembers
    intro g field
    obtain rfl : f = g := Option.some.inj (known.symm.trans field)
    rw [Field.orNull_of_ne_null inner.ne_null.1, Field.orNull_of_ne_null inner.ne_null.2]
    exact ih
  | @place r f v w front back known inner ih =>
    have alike : Alike (f.orNull v (f.kind.fit v)) (f.orNull w (f.kind.fit w)) := by
      rw [Field.orNull_of_ne_null inner.ne_null.1, Field.orNull_of_ne_null inner.ne_null.2]
      exact ih
    rw [Kind.fit, Kind.fit]
    exact (Kind.alike_fitFields alike 0 front back known).bind fun _ _ => rfl
  | permuted perm distinct => exact Kind.alike_permuted perm distinct
  | extended front back v unknown =>
    rw [Kind.fit, Kind.fit, Kind.fitMembers_extended front back v unknown]
    rfl
  | emptied front back known =>
    obtain ⟨f, field, same⟩ := Record.orNull_of_listKeys known
    apply Kind.alike_record
    apply Kind.alike_fitMembers
    intro g other
    obtain rfl : f = g := Option.some.inj (field.symm.trans other)
    exact .of_eq same
  | nulled front back known absent => exact Kind.alike_nulled front back known absent

theorem eqvGen_inside {k l : Kind} (around : Value → Value)
    (inside : ∀ v w, Respelled k v w → Respelled l (around v) (around w)) {v w : Value}
    (respelled : Relation.EqvGen (Respelled k) v w) :
    Relation.EqvGen (Respelled l) (around v) (around w) := by
  induction respelled with
  | rel v w change => exact .rel _ _ (inside v w change)
  | refl v => exact .refl _
  | symm v w _ ih => exact ih.symm
  | trans u v w _ _ first second => exact first.trans _ _ _ second

theorem eqvGen_listed (r : Record) (key : String) {f : Field} {k : Kind} {v w : Value}
    (front back : List (String × Value)) (before behind : List Value)
    (known : r.field? key = some f) (list : f.kind = .list k)
    (respelled : Relation.EqvGen (Respelled k) v w) :
    Relation.EqvGen (Respelled (.record r))
      (.object (front ++ (key, .array (before ++ v :: behind)) :: back))
      (.object (front ++ (key, .array (before ++ w :: behind)) :: back)) := by
  have inside (v w : Value) (inner : Respelled k v w) : Respelled (.record r)
      (.object (front ++ (key, .array (before ++ v :: behind)) :: back))
      (.object (front ++ (key, .array (before ++ w :: behind)) :: back)) := by
    apply Respelled.member front back known
    rw [list]
    exact .item before behind inner
  exact eqvGen_inside _ inside respelled

theorem alike_fit_of_eqvGen {k : Kind} {v w : Value}
    (respelled : Relation.EqvGen (Respelled k) v w) : Alike (k.fit v) (k.fit w) := by
  induction respelled with
  | rel v w change => exact change.alike_fit
  | refl v => rfl
  | symm v w _ ih => exact ih.symm
  | trans u v w _ _ first second => exact first.trans second

end Schema

/-- A document and another that differs in any number of such changes, at any depth, are read as the
same specification, or neither is. -/
theorem AppSpecification.ofValue_respelled {v w : Value}
    (respelled : Relation.EqvGen (Respelled (.record .specification)) v w) (s : AppSpecification) :
    ofValue v = .ok s ↔ ofValue w = .ok s := by
  have alike := alike_fit_of_eqvGen respelled
  rw [ofValue, ofValue, map_eq_ok_iff, map_eq_ok_iff]
  apply exists_congr
  intro form
  rw [Kind.ofValue, Kind.ofValue, mapError_eq_ok_iff, mapError_eq_ok_iff, alike.ok_iff]

def plainCard : Value :=
  .object [("type", .string "Card"), ("children", .array [.object [("content", .bool true)]])]

def plainScreen : Value :=
  .object [("path", .string "/"), ("name", .string "Home"), ("components", .array [plainCard]),
    ("state", .array [])]

def plainDocument : Value :=
  .object [("screens", .array [plainScreen]), ("dependencies", .array [.string "axios"]),
    ("appName", .string "Tasks")]

theorem respelled_plainCard :
    Relation.EqvGen (Respelled (.record .component)) tolerantCard plainCard := by
  have bare : Respelled (.record .component) (.object [("content", .bool true)])
      (.object [("content", .bool true), ("children", .null)]) :=
    .nulled [("content", .bool true)] [] (by decide) (by decide)
  have nested := eqvGen_listed .component "children" []
    [("type", .string "Card"), ("alt", .null)] [] [] rfl rfl (.symm _ _ (.rel _ _ bare))
  have shorter : Respelled (.record .component)
      (.object [("children", .array [.object [("content", .bool true)]]), ("type", .string "Card")])
      (.object [("children", .array [.object [("content", .bool true)]]), ("type", .string "Card"),
        ("alt", .null)]) :=
    .nulled [_, ("type", .string "Card")] [] (by decide) (by decide)
  have swapped : Respelled (.record .component)
      (.object [("children", .array [.object [("content", .bool true)]]), ("type", .string "Card")])
      plainCard :=
    .permuted (.swap _ _ _) (by decide)
  exact nested.trans _ _ _ ((Relation.EqvGen.rel _ _ shorter).symm.trans _ _ _ (.rel _ _ swapped))

theorem respelled_plainScreen :
    Relation.EqvGen (Respelled (.record .screen))
      (.object [("name", .string "Home"), ("path", .string "/"), ("state", .null),
        ("components", .array [tolerantCard])]) plainScreen := by
  have nested := eqvGen_listed .screen "components"
    [("name", .string "Home"), ("path", .string "/"), ("state", .null)] [] [] [] rfl rfl
    respelled_plainCard
  have emptied : Respelled (.record .screen)
      (.object [("name", .string "Home"), ("path", .string "/"), ("state", .null),
        ("components", .array [plainCard])])
      (.object [("name", .string "Home"), ("path", .string "/"), ("state", .array []),
        ("components", .array [plainCard])]) :=
    .emptied [("name", .string "Home"), ("path", .string "/")] _ (by decide)
  have ordered : Respelled (.record .screen)
      (.object [("name", .string "Home"), ("path", .string "/"), ("state", .array []),
        ("components", .array [plainCard])]) plainScreen :=
    .permuted ((List.Perm.swap _ _ _).trans (.cons _ (.cons _ (.swap _ _ _)))) (by decide)
  exact nested.trans _ _ _ (.trans _ _ _ (.rel _ _ emptied) (.rel _ _ ordered))

theorem AppSpecification.ofValue_plainDocument :
    Relation.EqvGen (Respelled (.record .specification)) tolerantDocument plainDocument ∧
      ∀ s, ofValue tolerantDocument = .ok s ↔ ofValue plainDocument = .ok s := by
  have respelled : Relation.EqvGen (Respelled (.record .specification))
      tolerantDocument plainDocument := by
    have nested := eqvGen_listed .specification "screens"
      [("appName", .string "Tasks"), ("dependencies", .array [.string "axios"]),
        ("author", .array [.null])] [] [] [] rfl rfl respelled_plainScreen
    have shorter : Respelled (.record .specification)
        (.object [("appName", .string "Tasks"), ("dependencies", .array [.string "axios"]),
          ("screens", .array [plainScreen])])
        (.object [("appName", .string "Tasks"), ("dependencies", .array [.string "axios"]),
          ("author", .array [.null]), ("screens", .array [plainScreen])]) :=
      .extended [("appName", .string "Tasks"), ("dependencies", .array [.string "axios"])] _ _
        (by decide)
    have reversed : Respelled (.record .specification)
        (.object [("appName", .string "Tasks"), ("dependencies", .array [.string "axios"]),
          ("screens", .array [plainScreen])]) plainDocument :=
      .permuted (List.reverse_perm _).symm (by decide)
    exact nested.trans _ _ _
      ((Relation.EqvGen.rel _ _ shorter).symm.trans _ _ _ (.rel _ _ reversed))
  exact ⟨respelled, ofValue_respelled respelled⟩

end AppScaffold
