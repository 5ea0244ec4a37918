-- SUMMARY: A numeral at the end of a line is read as an integer, and as nothing else.
import DexTrail.Toml.DateTime
import DexTrail.Toml.Number

/-!
# Reading printed numbers

A value that starts with a digit may be a date, a time, a float or an integer, and is tried as
each of these in turn. Digits that go on to the end of their line are none of the first three,
since what would tell one of them from an integer is not there.
-/

namespace DexTrail.Toml

/-! ## Digits -/

/-- A run of digits goes on to the end of its line. -/
theorem Number.digitRun_line {ds : List Char} (hdigits : ∀ d ∈ ds, d.isDigit) (rest : List Char) :
    digitRun Char.isDigit (ds ++ '\n' :: rest) = (ds, '\n' :: rest) := by
  induction ds with
  | nil =>
    rw [List.nil_append, digitRun.eq_def]
    split
    · next heq =>
      cases heq
      rfl
    · next heq =>
      cases heq
      rfl
    · next heq => cases heq
  | cons d ds ih =>
    obtain ⟨hd, hds⟩ := List.forall_mem_cons.1 hdigits
    rw [List.cons_append, digitRun.eq_2, if_pos hd, ih hds]
    rintro more heq
    cases ds with
    | nil => cases (List.cons.inj heq).1
    | cons e es =>
      have he := hds e List.mem_cons_self
      rw [(List.cons.inj heq).1] at he
      cases he

/-! ## Dates and times -/

/-- Digits up to the end of a line are followed by none of the marks of dates and times. -/
theorem DateTime.mark?_of_digits? {ds rest after : List Char} (hdigits : ∀ d ∈ ds, d.isDigit)
    {n m : Nat} (h : digits? n (ds ++ '\n' :: rest) = some (m, after)) {c : Char}
    (hc : c.isDigit = false) (hline : c ≠ '\n') : mark? c after = none := by
  unfold digits? at h
  dsimp only at h
  split at h
  · next htaken =>
    simp only [Bool.and_eq_true, beq_iff_eq, List.all_eq_true] at htaken
    cases h
    have hle : n ≤ ds.length := by
      refine Nat.le_of_not_lt fun hlt => ?_
      have hmem : '\n' ∈ (ds ++ '\n' :: rest).take n := by
        obtain ⟨k, hk⟩ : ∃ k, n - ds.length = k + 1 := ⟨n - ds.length - 1, by omega⟩
        rw [List.take_append, List.mem_append, hk]
        exact .inr List.mem_cons_self
      cases htaken.2 _ hmem
    rw [List.drop_append_of_le_length hle]
    cases hdrop : ds.drop n with
    | nil => exact if_neg fun heq => hline heq.symm
    | cons d es =>
      have hd : d.isDigit := hdigits d (List.mem_of_mem_drop (hdrop ▸ List.mem_cons_self))
      refine if_neg ?_
      rintro rfl
      rw [hc] at hd
      cases hd
  · cases h

/-- Digits up to the end of a line are neither a date nor a time. -/
theorem DateTime.any?_digits {ds : List Char} (hdigits : ∀ d ∈ ds, d.isDigit) (rest : List Char) :
    any? (ds ++ '\n' :: rest) = none := by
  have hdate : date? (ds ++ '\n' :: rest) = none := by
    unfold date?
    cases h : digits? 4 (ds ++ '\n' :: rest) with
    | none => rfl
    | some found =>
      have hmark : mark? '-' found.2 = none := mark?_of_digits? hdigits h (by decide) (by decide)
      simp [hmark]
  have htime : time? (ds ++ '\n' :: rest) = none := by
    unfold time?
    cases h : within? 0 23 (ds ++ '\n' :: rest) with
    | none => rfl
    | some found =>
      have hmark : mark? ':' found.2 = none :=
        mark?_of_digits? hdigits (Option.filter_eq_some_iff.1 h).1 (by decide) (by decide)
      simp [hmark]
  rw [any?, hdate]
  dsimp only
  rw [htime, Option.map_none]

/-! ## Numerals -/

open Decimal (writeNat isDigit_of_mem_writeNat)

theorem Number.sign_of_isDigit {d : Char} (h : d.isDigit) (ds : List Char) :
    sign (d :: ds) = (false, d :: ds) := by
  unfold sign
  split
  · next heq =>
    cases heq
    cases h
  · next heq =>
    cases heq
    cases h
  · rfl

theorem Number.whole?_writeNat (n : Nat) (rest : List Char) :
    whole? (writeNat n ++ '\n' :: rest) = some (⟨false, writeNat n⟩, '\n' :: rest) := by
  obtain ⟨d, ds, hn⟩ := List.exists_cons_of_ne_nil (Decimal.writeNat_ne_nil n)
  have hdigit : d.isDigit := isDigit_of_mem_writeNat (hn ▸ List.mem_cons_self)
  have hrun := digitRun_line (fun c hc => isDigit_of_mem_writeNat (n := n) hc) rest
  unfold whole?
  rw [hn] at hrun ⊢
  rw [List.cons_append, sign_of_isDigit hdigit]
  dsimp only
  split
  · next more heq =>
    -- only the numeral of zero starts with a zero
    obtain ⟨rfl, rfl⟩ := List.cons.inj heq
    rcases Nat.eq_zero_or_pos n with rfl | hpos
    · cases hn
      rfl
    · exact absurd (hn ▸ rfl) (Decimal.head?_writeNat hpos)
  · rw [← List.cons_append, digits?, hrun]
    rfl

/-- A numeral without a fraction and an exponent is no float. -/
theorem Number.float?_writeNat (n : Nat) (rest : List Char) :
    float? (writeNat n ++ '\n' :: rest) = none := by
  have hend : (('\n' :: rest).length == ('\n' :: rest).length) = true := beq_self_eq_true _
  rw [float?, whole?_writeNat]
  exact if_pos hend

theorem Number.value_writeNat (n : Nat) : (⟨false, writeNat n⟩ : Whole).value = n :=
  congrArg Int.ofNat Nat.ofDigitChars_ten_toDigits

/-- A numeral that fits is read as its number, in base ten. -/
theorem Number.integer?_writeNat {n : Nat} (h : (n : Int) ≤ Int64.maxValue.toInt)
    (rest : List Char) :
    integer? (writeNat n ++ '\n' :: rest) = some ((n : Int), '\n' :: rest) := by
  have hrange : inRange n := by
    have hmin : Int64.minValue.toInt ≤ 0 := by decide
    simp only [inRange, Bool.and_eq_true, decide_eq_true_eq]
    exact ⟨by omega, h⟩
  -- what stands after a zero at the start is no mark of another base
  have hsecond {c : Char} {more : List Char} (hc : c.isDigit = false) (hline : c ≠ '\n') :
      writeNat n ++ '\n' :: rest ≠ '0' :: c :: more := by
    intro heq
    cases hn : writeNat n with
    | nil => exact Decimal.writeNat_ne_nil n hn
    | cons d ds =>
      cases ds with
      | nil =>
        rw [hn] at heq
        exact hline (List.cons.inj (List.cons.inj heq).2).1.symm
      | cons e es =>
        rw [hn] at heq
        have he : e.isDigit :=
          isDigit_of_mem_writeNat (hn ▸ List.mem_cons_of_mem d List.mem_cons_self)
        rw [(List.cons.inj (List.cons.inj heq).2).1, hc] at he
        cases he
  rw [integer?.eq_4, whole?_writeNat]
  · dsimp only
    rw [value_writeNat, if_pos hrange]
  · exact fun more => hsecond (by decide) (by decide)
  · exact fun more => hsecond (by decide) (by decide)
  · exact fun more => hsecond (by decide) (by decide)

end DexTrail.Toml
