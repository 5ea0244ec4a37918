-- SUMMARY: Whole numbers written in decimal, and the two rules by which they are read.

/-!
# Decimal numerals

Numbers are written in their shortest form: no leading zero, no plus sign, no
minus zero. Documents are read by the strict rule, `Decimal.read?`, which takes
exactly the written forms (`Decimal.read?_write`). Arguments and environment
values are read by the lax rule, `Decimal.readLax?`, which also takes a plus
sign and leading zeros.
-/

namespace DexTrail.Decimal

/-- The shortest decimal numeral of a natural number. -/
def writeNat (n : Nat) : List Char := Nat.toDigits 10 n

/-- The shortest decimal numeral of an integer. -/
def write : Int → List Char
  | .ofNat n => writeNat n
  | .negSucc n => '-' :: writeNat (n + 1)

/-- The numeral as a string. -/
def text (n : Int) : String := String.ofList (write n)

/-- The value of a nonempty string of digits. -/
def digits? (cs : List Char) : Option Nat :=
  if cs.isEmpty || !cs.all Char.isDigit then none else some (Nat.ofDigitChars 10 cs 0)

/-- The value of a numeral in shortest form, and of nothing else. -/
def read? : List Char → Option Int
  | '-' :: cs =>
    if cs.head? = some '0' then none else (digits? cs).map fun n => -(n : Int)
  | cs => if cs.head? = some '0' ∧ cs ≠ ['0'] then none else (digits? cs).map fun n => (n : Int)

/-- The value of a numeral with an optional sign and any leading zeros. -/
def readLax? : List Char → Option Int
  | '-' :: cs => (digits? cs).map fun n => -(n : Int)
  | '+' :: cs => (digits? cs).map fun n => (n : Int)
  | cs => (digits? cs).map fun n => (n : Int)

/-- The value of an unsigned numeral with an optional plus sign and any leading zeros. -/
def readLaxNat? : List Char → Option Nat
  | '+' :: cs => digits? cs
  | cs => digits? cs

/-! ## Machine words -/

/-- A signed 32-bit value, when the integer is one. -/
def toInt32? (n : Int) : Option Int32 :=
  if Int32.minValue.toInt ≤ n ∧ n ≤ Int32.maxValue.toInt then some (Int32.ofInt n) else none

/-- An unsigned 32-bit value, when the integer is one. -/
def toUInt32? (n : Int) : Option UInt32 :=
  if 0 ≤ n ∧ n < (UInt32.size : Int) then some (UInt32.ofNat n.toNat) else none

/-- An unsigned 64-bit value, when the number is one. -/
def toUInt64? (n : Nat) : Option UInt64 :=
  if n < UInt64.size then some (UInt64.ofNat n) else none

theorem toInt32?_toInt (n : Int32) : toInt32? n.toInt = some n := by
  rw [toInt32?, if_pos ⟨Int32.minValue_le_toInt n, Int32.toInt_le n⟩, Int32.ofInt_toInt]

/-! ## Written numerals are read back -/

theorem writeNat_ne_nil (n : Nat) : writeNat n ≠ [] := Nat.toDigits_ne_nil

theorem isDigit_of_mem_writeNat {n : Nat} {c : Char} (h : c ∈ writeNat n) : c.isDigit :=
  Nat.isDigit_of_mem_toDigits (by decide) (by decide) h

theorem digits?_writeNat (n : Nat) : digits? (writeNat n) = some n := by
  have hall : (writeNat n).all Char.isDigit = true :=
    List.all_eq_true.2 fun c hc => isDigit_of_mem_writeNat hc
  have hne : (writeNat n).isEmpty = false := by
    simpa using writeNat_ne_nil n
  simp only [digits?, hne, hall, Bool.not_true, Bool.or_self, Bool.false_eq_true, if_false]
  exact congrArg some Nat.ofDigitChars_ten_toDigits

/-- A numeral starts with a zero only when it is the numeral of zero. -/
theorem head?_writeNat {n : Nat} (h : 0 < n) : (writeNat n).head? ≠ some '0' := by
  induction n using Nat.strongRecOn with
  | _ n ih =>
    by_cases hn : n < 10
    · rw [writeNat, Nat.toDigits_of_lt_base hn]
      have : n = 1 ∨ n = 2 ∨ n = 3 ∨ n = 4 ∨ n = 5 ∨ n = 6 ∨ n = 7 ∨ n = 8 ∨ n = 9 := by omega
      rcases this with rfl | rfl | rfl | rfl | rfl | rfl | rfl | rfl | rfl <;> decide
    · have hlt : n / 10 < n := Nat.div_lt_self h (by decide)
      have hpos : 0 < n / 10 := Nat.div_pos (by omega) (by decide)
      rw [writeNat, Nat.toDigits_of_base_le (by decide) (by omega), List.head?_append]
      have := ih (n / 10) hlt hpos
      rw [writeNat] at this
      cases hd : (Nat.toDigits 10 (n / 10)).head? with
      | none => exact absurd (List.head?_eq_none_iff.1 hd) Nat.toDigits_ne_nil
      | some d => simpa [hd] using this

theorem read?_write (n : Int) : read? (write n) = some n := by
  cases n with
  | ofNat n =>
    rw [write]
    have hd := digits?_writeNat n
    have hminus : ∀ cs, writeNat n ≠ '-' :: cs := fun cs h => by
      have := isDigit_of_mem_writeNat (n := n) (c := '-') (by simp [h])
      simp [Char.isDigit] at this
    rw [read?.eq_2 _ fun cs h => hminus cs h, if_neg, hd]
    · rfl
    · rintro ⟨h0, hne⟩
      rcases Nat.eq_zero_or_pos n with rfl | hpos
      · exact hne rfl
      · exact head?_writeNat hpos h0
  | negSucc n =>
    rw [write, read?, if_neg (head?_writeNat (Nat.succ_pos n)), digits?_writeNat]
    rfl

end DexTrail.Decimal
