import AppScaffold.Text.Case

namespace AppScaffold.Text

theorem toNat_ofNat {n : Nat} (valid : n.isValidChar) : (Char.ofNat n).toNat = n := by
  rw [Char.ofNat, dif_pos valid]
  rfl

/-- The code points of capital letters and of the characters beyond ASCII. -/
def IsUpperImage (n : Nat) : Prop :=
  (0x41 ≤ n ∧ n ≤ 0x5a) ∨ (0x80 ≤ n ∧ n < 0xd800) ∨ (0xdfff < n ∧ n < 0x110000)

instance (n : Nat) : Decidable (IsUpperImage n) := inferInstanceAs (Decidable (_ ∨ _))

theorem IsUpperImage.toNat_ofNat {n : Nat} (image : IsUpperImage n) : (Char.ofNat n).toNat = n := by
  apply Text.toNat_ofNat
  rcases image with capital | low | high
  · exact .inl (by omega)
  · exact .inl (by omega)
  · exact .inr high

def CaseRange.RisesTo (r : CaseRange) : Prop :=
  IsUpperImage r.image ∧ IsUpperImage (r.image + (r.last - r.first)) ∧
    ∀ bound ∈ [0x5b, 0x80, 0xd800, 0xe000], bound ≤ r.image ∨ r.image + (r.last - r.first) < bound

instance (r : CaseRange) : Decidable r.RisesTo := inferInstanceAs (Decidable (_ ∧ _))

theorem CaseRange.find?_some {n m : Nat} {table : List CaseRange}
    (found : find? n table = some m) :
    ∃ r ∈ table, r.first ≤ n ∧ n ≤ r.last ∧ (n - r.first) % r.step = 0 ∧
      m = r.image + (n - r.first) := by
  induction table with
  | nil => cases found
  | cons r rs ih =>
    rw [find?] at found
    split at found
    · cases found
    · rename_i above
      split at found
      · rename_i inside
        rw [Bool.and_eq_true, decide_eq_true_eq, beq_iff_eq] at inside
        cases found
        exact ⟨r, List.mem_cons_self, Nat.le_of_not_lt above, inside.1, inside.2, rfl⟩
      · obtain ⟨s, member, place⟩ := ih found
        exact ⟨s, List.mem_cons_of_mem _ member, place⟩

theorem upperTable_rises : ∀ r ∈ upperTable, r.RisesTo := by
  decide +kernel

theorem upperSequences_rise : ∀ entry ∈ upperSequences, ∀ n ∈ entry.2, IsUpperImage n := by
  decide +kernel

theorem isUpperImage_of_find? {n m : Nat} (found : CaseRange.find? n upperTable = some m) :
    IsUpperImage m := by
  obtain ⟨r, member, low, high, -, rfl⟩ := CaseRange.find?_some found
  obtain ⟨first, last, apart⟩ := upperTable_rises r member
  have capital := apart 0x5b (by decide)
  have ascii := apart 0x80 (by decide)
  have surrogates := apart 0xd800 (by decide)
  have beyond := apart 0xe000 (by decide)
  simp only [IsUpperImage] at first last ⊢
  omega

/-- A character of an upper case is a capital letter or beyond ASCII, or nothing has changed. -/
theorem mem_upperChar {c d : Char} (member : d ∈ upperChar c) :
    IsUpperImage d.toNat ∨ (d = c ∧ CaseRange.find? c.toNat upperTable = none) := by
  rw [upperChar] at member
  cases single : CaseRange.find? c.toNat upperTable with
  | some n =>
    simp only [single, List.mem_singleton] at member
    have image := isUpperImage_of_find? single
    rw [member, image.toNat_ofNat]
    exact .inl image
  | none =>
    simp only [single] at member
    split at member
    · rename_i found
      obtain ⟨n, among, rfl⟩ := List.mem_map.mp member
      have image := upperSequences_rise _ (List.mem_of_find?_eq_some found) n among
      rw [image.toNat_ofNat]
      exact .inl image
    · exact .inr ⟨List.mem_singleton.mp member, rfl⟩

theorem not_mem_upperChar {d : Char} (small : 0x61 ≤ d.toNat ∧ d.toNat ≤ 0x7a) (c : Char) :
    d ∉ upperChar c := by
  intro member
  rcases mem_upperChar member with image | ⟨rfl, unchanged⟩
  · simp only [IsUpperImage] at image
    omega
  · rw [upperTable, CaseRange.find?, if_neg (by simp; omega), if_pos (by simp; omega)] at unchanged
    cases unchanged

theorem eq_of_mem_upperChar {c d : Char} (sign : d.toNat < 0x41) (member : d ∈ upperChar c) :
    d = c := by
  rcases mem_upperChar member with image | ⟨same, -⟩
  · simp only [IsUpperImage] at image
    omega
  · exact same

end AppScaffold.Text
