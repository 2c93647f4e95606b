import AppScaffold.Proofs.Text.Case
import AppScaffold.Text.Blank

namespace AppScaffold.Text

def CaseRange.top (r : CaseRange) : Nat := r.image + (r.last - r.first)

/-- No image of `r` is a code point of `s`: they lie apart, or every image lies between two of the
code points. -/
def CaseRange.clears (r s : CaseRange) : Bool :=
  Nat.blt r.top s.first || Nat.blt s.last r.image ||
    ((r.step == 2 || r.first == r.last) && s.step == 2 && (r.image + s.first) % 2 == 1)

def lowerGaps : List (Nat × Nat) :=
  [(0x9, 0xd), (0x20, 0x20), (0x85, 0x85), (0xa0, 0xa0), (0x130, 0x130), (0x1680, 0x1680),
    (0x2000, 0x205f), (0x3000, 0x3000), (0xd800, 0xdfff)]

def CaseRange.misses (r : CaseRange) : Bool :=
  Nat.blt r.top 0x110000 && lowerGaps.all fun g => Nat.blt r.top g.1 || Nat.blt g.2 r.image

-- Every range is compared with every other one, so the comparison is one that evaluates quickly.
theorem lowerTable_clears : lowerTable.all (fun r => lowerTable.all r.clears) = true := by
  decide +kernel

theorem lowerTable_misses : lowerTable.all CaseRange.misses = true := by
  decide +kernel

theorem CaseRange.ne_of_clears {r s : CaseRange} (apart : r.clears s = true) {n m : Nat}
    (first : r.first ≤ n) (last : n ≤ r.last) (step : (n - r.first) % r.step = 0)
    (least : s.first ≤ m) (most : m ≤ s.last) (stride : (m - s.first) % s.step = 0) :
    r.image + (n - r.first) ≠ m := by
  simp only [clears, top, Bool.or_eq_true, Bool.and_eq_true, beq_iff_eq, Nat.blt_eq] at apart
  rintro rfl
  rcases apart with (below | above) | ⟨⟨double | single, two⟩, odd⟩
  · omega
  · omega
  · rw [double] at step
    rw [two] at stride
    omega
  · rw [two] at stride
    omega

theorem find?_image {n m : Nat} (found : CaseRange.find? n lowerTable = some m) :
    CaseRange.find? m lowerTable = none := by
  obtain ⟨r, member, first, last, step, image⟩ := CaseRange.find?_some found
  cases again : CaseRange.find? m lowerTable with
  | none => rfl
  | some k =>
    obtain ⟨s, other, least, most, stride, -⟩ := CaseRange.find?_some again
    have apart := List.all_eq_true.mp (List.all_eq_true.mp lowerTable_clears r member) s other
    exact absurd image.symm (CaseRange.ne_of_clears apart first last step least most stride)

theorem image_outside {n m : Nat} (found : CaseRange.find? n lowerTable = some m) :
    m < 0x110000 ∧ ∀ g ∈ lowerGaps, m < g.1 ∨ g.2 < m := by
  obtain ⟨r, member, first, last, -, rfl⟩ := CaseRange.find?_some found
  have misses := List.all_eq_true.mp lowerTable_misses r member
  simp only [CaseRange.misses, CaseRange.top, Bool.and_eq_true, List.all_eq_true, Bool.or_eq_true,
    Nat.blt_eq] at misses
  refine ⟨by omega, fun g gap => ?_⟩
  have bounds := misses.2 g gap
  omega

theorem toNat_ofNat_image {n m : Nat} (found : CaseRange.find? n lowerTable = some m) :
    (Char.ofNat m).toNat = m := by
  obtain ⟨bound, outside⟩ := image_outside found
  have surrogates := outside (0xd800, 0xdfff) (by decide)
  apply toNat_ofNat
  rcases surrogates with low | high
  · exact .inl low
  · exact .inr ⟨high, bound⟩

theorem isBlank_image {n m : Nat} (found : CaseRange.find? n lowerTable = some m) :
    isBlank (Char.ofNat m) = false := by
  have outside := (image_outside found).2
  simp only [lowerGaps, List.forall_mem_cons] at outside
  simp only [isBlank, toNat_ofNat_image found, Bool.or_eq_false_iff, Bool.and_eq_false_iff,
    decide_eq_false_iff_not, beq_eq_false_iff_ne]
  omega

/-- A character that is its own lower case, wherever it stands. -/
structure Lowered (c : Char) : Prop where
  same : lowerChar c = [c]
  plain : c ≠ 'Σ'

theorem lowerChar_of_unlisted {c : Char} (unlisted : CaseRange.find? c.toNat lowerTable = none)
    (other : c ≠ 'İ') : lowerChar c = [c] := by
  rw [lowerChar, unlisted]
  simp [other]

theorem lowered_of_unlisted {c : Char} (unlisted : CaseRange.find? c.toNat lowerTable = none)
    (other : c ≠ 'İ') : Lowered c := by
  refine ⟨lowerChar_of_unlisted unlisted other, ?_⟩
  rintro rfl
  exact absurd unlisted (by decide)

theorem lowered_image {n m : Nat} (found : CaseRange.find? n lowerTable = some m) :
    Lowered (Char.ofNat m) := by
  have number := toNat_ofNat_image found
  apply lowered_of_unlisted
  · rw [number]
    exact find?_image found
  · intro same
    have dotted := (image_outside found).2 (0x130, 0x130) (by decide)
    rw [same] at number
    have : 'İ'.toNat = 0x130 := rfl
    omega

theorem mem_lowerChar {c d : Char} (member : d ∈ lowerChar c) :
    Lowered d ∧ (isBlank d = true → d = c) := by
  rw [lowerChar] at member
  cases found : CaseRange.find? c.toNat lowerTable with
  | some m =>
    rw [found] at member
    rw [List.mem_singleton.mp member, isBlank_image found]
    exact ⟨lowered_image found, nofun⟩
  | none =>
    rw [found] at member
    by_cases dotted : c = 'İ'
    · subst dotted
      have parts : d = 'i' ∨ d = '\u0307' := by simpa using member
      rcases parts with rfl | rfl
      · exact ⟨⟨by decide, by decide⟩, by decide⟩
      · exact ⟨⟨by decide, by decide⟩, by decide⟩
    · have same : d = c := by simpa [dotted] using member
      subst same
      exact ⟨lowered_of_unlisted found dotted, fun _ => rfl⟩

theorem lowerChar_ne_nil (c : Char) : lowerChar c ≠ [] := by
  rw [lowerChar]
  split
  · exact List.cons_ne_nil _ _
  · split
    · exact List.cons_ne_nil _ _
    · exact List.cons_ne_nil _ _

/-- Every character of a lower case comes from one of the text, which it is itself if it is
blank. -/
theorem mem_lowerFrom {before cs : List Char} {d : Char} (member : d ∈ lowerFrom before cs) :
    Lowered d ∧ (isBlank d = true → d ∈ cs) := by
  induction cs generalizing before with
  | nil => cases member
  | cons c cs ih =>
    rw [lowerFrom, List.mem_append] at member
    rcases member with here | later
    · split at here
      · split at here
        · rw [List.mem_singleton.mp here]
          exact ⟨⟨by decide, by decide⟩, fun blank => absurd blank (by decide)⟩
        · rw [List.mem_singleton.mp here]
          exact ⟨⟨by decide, by decide⟩, fun blank => absurd blank (by decide)⟩
      · obtain ⟨settled, unchanged⟩ := mem_lowerChar here
        exact ⟨settled, fun blank => unchanged blank ▸ List.mem_cons_self⟩
    · obtain ⟨settled, kept⟩ := ih later
      exact ⟨settled, fun blank => List.mem_cons_of_mem _ (kept blank)⟩

theorem lowerFrom_of_lowered {cs : List Char} (lowered : ∀ c ∈ cs, Lowered c) (before : List Char) :
    lowerFrom before cs = cs := by
  induction cs generalizing before with
  | nil => rfl
  | cons c cs ih =>
    rw [List.forall_mem_cons] at lowered
    rw [lowerFrom, beq_false_of_ne lowered.1.plain, lowered.1.same, ih lowered.2]
    rfl

theorem lowerFrom_eq_nil_iff {before cs : List Char} : lowerFrom before cs = [] ↔ cs = [] := by
  cases cs with
  | nil => exact iff_of_true rfl rfl
  | cons c cs =>
    refine iff_of_false ?_ (List.cons_ne_nil c cs)
    rw [lowerFrom, List.append_eq_nil_iff]
    rintro ⟨here, -⟩
    split at here
    · cases here
    · exact lowerChar_ne_nil c here

theorem lowered_of_mem_lower {s : String} {c : Char} (member : c ∈ (lower s).toList) : Lowered c := by
  rw [lower, String.toList_ofList] at member
  exact (mem_lowerFrom member).1

theorem mem_of_isBlank_of_mem_lower {s : String} {c : Char} (member : c ∈ (lower s).toList)
    (blank : isBlank c = true) : c ∈ s.toList := by
  rw [lower, String.toList_ofList] at member
  exact (mem_lowerFrom member).2 blank

theorem lower_lower (s : String) : lower (lower s) = lower s := by
  apply String.toList_injective
  rw [lower, String.toList_ofList]
  exact lowerFrom_of_lowered (fun c member => lowered_of_mem_lower member) []

theorem lower_eq_empty_iff {s : String} : lower s = "" ↔ s = "" := by
  rw [← String.toList_eq_nil_iff, lower, String.toList_ofList, lowerFrom_eq_nil_iff,
    String.toList_eq_nil_iff]

end AppScaffold.Text
