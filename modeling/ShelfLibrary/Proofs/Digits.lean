import Mathlib.Tactic
import ShelfLibrary.Json.Reader

/-!
# Digits that are read back

The digits of a number, with zeros before them or after them, denote the number that they should,
and a reader that takes digits stops where they end.
-/

namespace ShelfLibrary

/-! ## What digits denote -/

@[simp]
theorem natOfDigits_nil : natOfDigits [] = 0 := rfl

@[simp]
theorem natOfDigits_zero : natOfDigits ['0'] = 0 := rfl

theorem natOfDigits_eq_ofDigitChars (digits : List Char) :
    natOfDigits digits = Nat.ofDigitChars 10 digits 0 := by
  simp only [natOfDigits, Nat.ofDigitChars, Nat.mul_comm]

theorem natOfDigits_append (front back : List Char) :
    natOfDigits (front ++ back) = 10 ^ back.length * natOfDigits front + natOfDigits back := by
  simp only [natOfDigits_eq_ofDigitChars, Nat.ofDigitChars_append]
  exact Nat.ofDigitChars_eq_ofDigitChars_zero

@[simp]
theorem natOfDigits_toDigits (n : Nat) : natOfDigits (Nat.toDigits 10 n) = n := by
  rw [natOfDigits_eq_ofDigitChars, Nat.ofDigitChars_toDigits (by norm_num) (by norm_num)]

@[simp]
theorem natOfDigits_replicate_zero (count : Nat) : natOfDigits (List.replicate count '0') = 0 := by
  rw [natOfDigits_eq_ofDigitChars, Nat.ofDigitChars_replicate_zero, Nat.mul_zero]

@[simp]
theorem natOfDigits_paddedDigits (width n : Nat) : natOfDigits (paddedDigits 10 width n) = n := by
  simp [paddedDigits, natOfDigits_append]

theorem toNat_of_isDigit {c : Char} (isDigit : c.isDigit) : 48 ≤ c.toNat ∧ c.toNat ≤ 57 := by
  simp only [Char.isDigit, Bool.and_eq_true, decide_eq_true_eq] at isDigit
  exact isDigit

theorem natOfDigits_lt_of_all_isDigit {digits : List Char} (decimal : digits.all Char.isDigit) :
    natOfDigits digits < 10 ^ digits.length := by
  induction digits using List.reverseRecOn with
  | nil => simp
  | append_singleton front last ih =>
      simp only [List.all_append, Bool.and_eq_true, List.all_cons, List.all_nil] at decimal
      have below := ih decimal.1
      have small : last.toNat - '0'.toNat < 10 := by
        have := toNat_of_isDigit decimal.2.1
        have : '0'.toNat = 48 := rfl
        omega
      have single : natOfDigits [last] = last.toNat - '0'.toNat := by simp [natOfDigits]
      rw [natOfDigits_append, single]
      simp only [List.length_append, List.length_cons, List.length_nil, Nat.zero_add, pow_succ,
        pow_zero]
      omega

/-! ## The digits that are written -/

theorem all_isDigit_toDigits (n : Nat) : (Nat.toDigits 10 n).all Char.isDigit := by
  rw [List.all_eq_true]
  exact fun c held => Nat.isDigit_of_mem_toDigits (by norm_num) (by norm_num) held

theorem all_isDigit_paddedDigits (width n : Nat) :
    (paddedDigits 10 width n).all Char.isDigit := by
  simp [paddedDigits, all_isDigit_toDigits]

theorem length_paddedDigits {width n : Nat} (positive : 0 < width) (fits : n < 10 ^ width) :
    (paddedDigits 10 width n).length = width := by
  have short := (Nat.length_toDigits_le_iff (by norm_num) positive).mpr fits
  simp only [paddedDigits, List.length_append, List.length_replicate]
  omega

theorem length_toDigits {width n : Nat} (positive : 0 < width) (least : 10 ^ (width - 1) ≤ n)
    (fits : n < 10 ^ width) : (Nat.toDigits 10 n).length = width := by
  have upper := (Nat.length_toDigits_le_iff (by norm_num) positive).mpr fits
  have nonempty : 0 < (Nat.toDigits 10 n).length := Nat.length_toDigits_pos
  by_contra different
  have shorter : (Nat.toDigits 10 n).length ≤ width - 1 := by omega
  have := (Nat.length_toDigits_le_iff (by norm_num) (by omega)).mp shorter
  omega

/-- The digits of a positive number begin with another digit than zero. -/
theorem toDigits_eq_cons {n : Nat} (positive : 0 < n) :
    ∃ first rest, Nat.toDigits 10 n = first :: rest ∧ first.isDigit ∧ first ≠ '0' := by
  induction n using Nat.strong_induction_on with
  | h n ih =>
      rw [Nat.toDigits_eq_if (by norm_num)]
      split
      · rename_i small
        refine ⟨n.digitChar, [], rfl, ?_, ?_⟩
        · rw [Nat.isDigit_digitChar]
          simpa using small
        · simp only [ne_eq, Nat.digitChar_eq_zero]
          omega
      · obtain ⟨first, rest, written, isDigit, nonzero⟩ := ih (n / 10) (by omega) (by omega)
        exact ⟨first, rest ++ [(n % 10).digitChar], by rw [written]; rfl, isDigit, nonzero⟩

/-! ## Where a reader of digits stops -/

/-- Whether a text goes on with something other than a digit, or ends. -/
def IsPastDigits (rest : List Char) : Prop :=
  ∀ c ∈ rest.head?, c.isDigit = false

@[simp]
theorem isPastDigits_nil : IsPastDigits [] := by
  simp [IsPastDigits]

@[simp]
theorem isPastDigits_cons (c : Char) (rest : List Char) :
    IsPastDigits (c :: rest) ↔ c.isDigit = false := by
  simp [IsPastDigits]

theorem isPastDigits_point (rest : List Char) : IsPastDigits ('.' :: rest) :=
  (isPastDigits_cons _ _).mpr (by decide)

theorem takeWhile_isDigit_append {digits rest : List Char} (decimal : digits.all Char.isDigit)
    (past : IsPastDigits rest) : (digits ++ rest).takeWhile Char.isDigit = digits := by
  induction digits with
  | nil =>
      cases rest with
      | nil => rfl
      | cons c rest => simp [(isPastDigits_cons c rest).mp past]
  | cons c digits ih =>
      simp only [List.all_cons, Bool.and_eq_true] at decimal
      simp only [List.cons_append, List.takeWhile_cons, decimal.1, if_true, ih decimal.2]

theorem dropWhile_isDigit_append {digits rest : List Char} (decimal : digits.all Char.isDigit)
    (past : IsPastDigits rest) : (digits ++ rest).dropWhile Char.isDigit = rest := by
  induction digits with
  | nil =>
      cases rest with
      | nil => rfl
      | cons c rest => simp [(isPastDigits_cons c rest).mp past]
  | cons c digits ih =>
      simp only [List.all_cons, Bool.and_eq_true] at decimal
      simp only [List.cons_append, List.dropWhile_cons, decimal.1, if_true, ih decimal.2]

theorem Json.readDigits_append {digits rest : List Char} (decimal : digits.all Char.isDigit)
    (past : IsPastDigits rest) : Json.readDigits (digits ++ rest) = (digits, rest) := by
  rw [Json.readDigits, takeWhile_isDigit_append decimal past, dropWhile_isDigit_append decimal past]

end ShelfLibrary
