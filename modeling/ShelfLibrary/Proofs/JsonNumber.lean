import ShelfLibrary.Double.Text
import ShelfLibrary.Proofs.Decimal

/-!
# Numbers that are read back

Whole numbers and finite doubles are read back from their texts, whatever follows that is no part of
a number.
-/

namespace ShelfLibrary.Json

/-- Whether a text goes on with something that is no part of a number, or ends. -/
def IsPastNumber (rest : List Char) : Prop :=
  ∀ c ∈ rest.head?, c.isDigit = false ∧ c ≠ '.' ∧ c ≠ 'e' ∧ c ≠ 'E'

/-- Whether digits can stand before the point of a number: there are some, and no zero before
others. -/
structure IsWhole (digits : List Char) : Prop where
  /-- There is a digit. -/
  nonempty : digits ≠ []
  /-- They are digits. -/
  decimal : digits.all Char.isDigit
  /-- A zero in front stands alone. -/
  leading : digits.head? = some '0' → digits = ['0']

theorem isWhole_toDigits (n : Nat) : IsWhole (Nat.toDigits 10 n) where
  nonempty := Nat.toDigits_ne_nil
  decimal := all_isDigit_toDigits n
  leading := by
    intro zero
    rcases Nat.eq_zero_or_pos n with rfl | positive
    · rfl
    · obtain ⟨first, rest, written, -, nonzero⟩ := toDigits_eq_cons positive
      simp [written, nonzero] at zero

theorem isWhole_cons {first : Char} {digits : List Char}
    (decimal : (first :: digits).all Char.isDigit)
    (nonzero : first ≠ '0') : IsWhole (first :: digits) where
  nonempty := List.cons_ne_nil _ _
  decimal := decimal
  leading := fun zero => absurd (Option.some.inj zero) nonzero

theorem readUnsigned_append {negative : Bool} {whole tail : List Char} (isWhole : IsWhole whole)
    (past : IsPastDigits tail) :
    readUnsigned negative (whole ++ tail) = (do
      let (fraction, rest) ← readFraction? tail
      let (exponent, rest) ← readExponent? rest
      let digits := natOfDigits (whole ++ fraction)
      let value : Int := if negative then -(digits : Int) else digits
      if fraction.isEmpty && exponent.isNone && isWholeRange value &&
        !(negative && digits == 0) then
        return (.int value, rest)
      let d ← Double.ofDecimal? negative digits (exponent.getD 0 - fraction.length)
      return (.float d, rest)) := by
  unfold readUnsigned
  rw [readDigits_append isWhole.decimal past]
  cases whole with
  | nil => exact absurd rfl isWhole.nonempty
  | cons c digits =>
    by_cases zero : c = '0'
    · subst zero
      obtain rfl : digits = [] := by simpa using isWhole.leading rfl
      rfl
    · simp [zero]


theorem IsPastNumber.isPastDigits {rest : List Char} (past : IsPastNumber rest) :
    IsPastDigits rest := fun c held => (past c held).1

theorem readFraction?_of_isPastNumber {rest : List Char} (past : IsPastNumber rest) :
    readFraction? rest = some ([], rest) := by
  cases rest with
  | nil => rfl
  | cons c rest =>
      have point : c ≠ '.' := (past c rfl).2.1
      simp [readFraction?, point]

theorem readFraction?_append {digits rest : List Char} (nonempty : digits ≠ [])
    (decimal : digits.all Char.isDigit) (past : IsPastDigits rest) :
    readFraction? ('.' :: (digits ++ rest)) = some (digits, rest) := by
  simp [readFraction?, readDigits_append decimal past, nonempty]

theorem readExponent?_of_isPastNumber {rest : List Char} (past : IsPastNumber rest) :
    readExponent? rest = some (none, rest) := by
  cases rest with
  | nil => rfl
  | cons c rest =>
      have mark := (past c rfl).2.2
      simp [readExponent?, mark]

/-- An exponent of either sign. -/
theorem readExponent?_append (negative : Bool) {digits rest : List Char} (nonempty : digits ≠ [])
    (decimal : digits.all Char.isDigit) (past : IsPastDigits rest) :
    readExponent? ('e' :: (if negative then '-' else '+') :: (digits ++ rest)) =
      some (some (if negative then -(natOfDigits digits : Int) else natOfDigits digits), rest) := by
  cases negative <;> simp [readExponent?, readDigits_append decimal past, nonempty]

theorem readNumber_cons_minus (rest : List Char) :
    readNumber ('-' :: rest) = readUnsigned true rest := rfl

theorem readNumber_of_readUnsigned {cs : List Char} {found : Json × List Char}
    (read : readUnsigned false cs = some found) : readNumber cs = some found := by
  unfold readNumber
  split
  · simp [readUnsigned, readDigits, Char.isDigit] at read
  · exact read

/-! ## Whole numbers -/

theorem readUnsigned_toDigits (negative : Bool) (n : Nat) {rest : List Char}
    (range : isWholeRange (if negative then -(n : Int) else n)) (signed : negative → n ≠ 0)
    (past : IsPastNumber rest) :
    readUnsigned negative (Nat.toDigits 10 n ++ rest) =
      some (.int (if negative then -(n : Int) else n), rest) := by
  rw [readUnsigned_append (isWhole_toDigits n) past.isPastDigits]
  simp only [readFraction?_of_isPastNumber past, readExponent?_of_isPastNumber past,
    Option.bind_eq_bind, Option.bind_some, List.append_nil, natOfDigits_toDigits]
  cases negative with
  | false => simp_all
  | true => simp_all

theorem readNumber_intText {n : Int} {rest : List Char} (range : isWholeRange n)
    (past : IsPastNumber rest) :
    readNumber ((intText n).toList ++ rest) = some (.int n, rest) := by
  by_cases negative : n < 0
  · have value : (if true then -(n.natAbs : Int) else n.natAbs) = n := by simp only [if_true]; omega
    have read := readUnsigned_toDigits true n.natAbs
      (by rwa [value]) (fun _ => by omega) past
    rw [value] at read
    have written : (intText n).toList = '-' :: Nat.toDigits 10 n.natAbs := by
      simp [intText, negative, natText]
    rw [written, List.cons_append, readNumber_cons_minus, read]
  · have value : (if false then -(n.natAbs : Int) else n.natAbs) = n := by
      simp only [Bool.false_eq_true, if_false]; omega
    have read := readUnsigned_toDigits false n.natAbs
      (by rwa [value]) (by simp) past
    rw [value] at read
    have written : (intText n).toList = Nat.toDigits 10 n.natAbs := by
      simp [intText, negative, natText]
    rw [written, readNumber_of_readUnsigned read]

/-! ## Doubles -/

/-- A number with a point or an exponent. -/
theorem readUnsigned_double {negative : Bool} {whole tail rest fraction : List Char}
    {between : List Char} {exponent : Option Int} {d : Double} (isWhole : IsWhole whole)
    (past : IsPastDigits tail) (fractionRead : readFraction? tail = some (fraction, between))
    (exponentRead : readExponent? between = some (exponent, rest))
    (isDouble : fraction ≠ [] ∨ exponent.isSome)
    (value : Double.ofDecimal? negative (natOfDigits (whole ++ fraction))
      (exponent.getD 0 - fraction.length) = some d) :
    readUnsigned negative (whole ++ tail) = some (.float d, rest) := by
  have notWhole : (fraction.isEmpty && exponent.isNone) = false := by
    rcases isDouble with nonempty | present
    · simp [nonempty]
    · simp [Option.isNone_eq_false_iff.mpr present]
  rw [readUnsigned_append isWhole past, fractionRead]
  simp only [Option.bind_eq_bind, Option.bind_some, exponentRead, notWhole, Bool.false_and,
    Bool.false_eq_true, if_false, value]
  rfl

/-- What is read of a positive decimal, whatever the places of its digits. -/
theorem ofDecimal?_of_denotes {decimal : Decimal} {pattern : Nat} (negative : Bool)
    (positive : 0 < pattern) (finite : pattern < Double.infinityPattern)
    (denotes : decimal.Denotes pattern) {digits : Nat} {exponent : Int}
    (value : (digits : ℚ) * 10 ^ exponent = decimal.digits * 10 ^ (decimal.point - decimal.width)) :
    Double.ofDecimal? negative digits exponent = some (Double.ofPattern negative pattern) := by
  apply Double.ofDecimal?_eq positive finite
  have rounds := denotes.rounds
  rwa [Double.decimalUnits, ← value, ← Double.decimalUnits] at rounds

variable {decimal : Decimal} {pattern : Nat} {rest : List Char}

/-- All digits stand after the point, behind zeros. -/
theorem readUnsigned_after_point (negative : Bool) (positive : 0 < pattern)
    (finite : pattern < Double.infinityPattern) (denotes : decimal.Denotes pattern)
    (past : IsPastNumber rest) {zeros : Nat} (placed : decimal.point = -(zeros : Int)) :
    readUnsigned negative (("0." ++ Double.zeros zeros ++ natText decimal.digits).toList ++ rest) =
      some (.float (.ofPattern negative pattern), rest) := by
  have text : ("0." ++ Double.zeros zeros ++ natText decimal.digits).toList ++ rest =
      ['0'] ++ '.' :: ((List.replicate zeros '0' ++ Nat.toDigits 10 decimal.digits) ++ rest) := by
    simp [Double.zeros, natText]
  rw [text]
  refine readUnsigned_double (isWhole_toDigits 0) (isPastDigits_point _)
    (readFraction?_append (by simp) (by simp [all_isDigit_toDigits]) past.isPastDigits)
    (readExponent?_of_isPastNumber past) (.inl (by simp)) ?_
  apply ofDecimal?_of_denotes negative positive finite denotes
  have digits : natOfDigits
      (['0'] ++ (List.replicate zeros '0' ++ Nat.toDigits 10 decimal.digits)) = decimal.digits := by
    simp only [natOfDigits_append, natOfDigits_zero, natOfDigits_replicate_zero,
      natOfDigits_toDigits, mul_zero, zero_add]
  have power : (none : Option Int).getD 0 -
      (List.replicate zeros '0' ++ Nat.toDigits 10 decimal.digits).length =
        decimal.point - decimal.width := by
    simp only [Option.getD_none, List.length_append, List.length_replicate,
      denotes.length_toDigits]
    omega
  rw [digits, power]

/-- All digits stand before the point, in front of zeros. -/
theorem readUnsigned_before_point (negative : Bool) (positive : 0 < pattern)
    (finite : pattern < Double.infinityPattern) (denotes : decimal.Denotes pattern)
    (past : IsPastNumber rest) {zeros : Nat} (placed : decimal.point = decimal.width + zeros) :
    readUnsigned negative
        ((natText decimal.digits ++ Double.zeros zeros ++ Double.Layout.json.whole).toList ++
          rest) =
      some (.float (.ofPattern negative pattern), rest) := by
  have text :
      (natText decimal.digits ++ Double.zeros zeros ++ Double.Layout.json.whole).toList ++ rest =
        (Nat.toDigits 10 decimal.digits ++ List.replicate zeros '0') ++ '.' :: (['0'] ++ rest) := by
    simp [Double.zeros, natText, Double.Layout.json]
  have isWhole : IsWhole (Nat.toDigits 10 decimal.digits ++ List.replicate zeros '0') := by
    obtain ⟨first, others, written, -, nonzero⟩ := toDigits_eq_cons denotes.digits_pos
    have decimalDigits := all_isDigit_toDigits decimal.digits
    rw [written] at decimalDigits ⊢
    exact isWhole_cons (by simpa using decimalDigits) nonzero
  rw [text]
  refine readUnsigned_double isWhole (isPastDigits_point _)
    (readFraction?_append (by simp) (by decide) past.isPastDigits)
    (readExponent?_of_isPastNumber past) (.inl (by simp)) ?_
  apply ofDecimal?_of_denotes negative positive finite denotes
  have digits : natOfDigits
      (Nat.toDigits 10 decimal.digits ++ List.replicate zeros '0' ++ ['0']) =
        decimal.digits * 10 ^ zeros * 10 := by
    simp only [natOfDigits_append, natOfDigits_zero, natOfDigits_replicate_zero,
      natOfDigits_toDigits, List.length_replicate, List.length_singleton, pow_one, add_zero]
    ring
  have power : (decimal.point : Int) - decimal.width = (zeros : Nat) := by omega
  rw [digits, power, zpow_natCast]
  push_cast
  simp

/-- The point stands between digits. -/
theorem readUnsigned_around_point (negative : Bool) (positive : 0 < pattern)
    (finite : pattern < Double.infinityPattern) (denotes : decimal.Denotes pattern)
    (past : IsPastNumber rest) {place : Nat} (placed : decimal.point = place) (some : 0 < place)
    (fractional : place < decimal.width) :
    readUnsigned negative ((String.ofList ((natText decimal.digits).toList.take place) ++ "." ++
        String.ofList ((natText decimal.digits).toList.drop place)).toList ++ rest) =
      .some (.float (.ofPattern negative pattern), rest) := by
  have count := denotes.length_toDigits
  have decimalDigits := all_isDigit_toDigits decimal.digits
  have text : (String.ofList ((natText decimal.digits).toList.take place) ++ "." ++
        String.ofList ((natText decimal.digits).toList.drop place)).toList ++ rest =
      (Nat.toDigits 10 decimal.digits).take place ++
        '.' :: ((Nat.toDigits 10 decimal.digits).drop place ++ rest) := by
    simp [natText]
  have isWhole : IsWhole ((Nat.toDigits 10 decimal.digits).take place) := by
    obtain ⟨first, others, written, -, nonzero⟩ := toDigits_eq_cons denotes.digits_pos
    rw [written] at decimalDigits ⊢
    obtain ⟨n, rfl⟩ : ∃ n, place = n + 1 := ⟨place - 1, by omega⟩
    refine isWhole_cons (List.all_eq_true.mpr fun c held => ?_) nonzero
    exact List.all_eq_true.mp decimalDigits c (List.mem_of_mem_take (i := n + 1) held)
  have nonempty : (Nat.toDigits 10 decimal.digits).drop place ≠ [] := by
    simp only [ne_eq, List.drop_eq_nil_iff, count]
    omega
  have decimalRest : ((Nat.toDigits 10 decimal.digits).drop place).all Char.isDigit :=
    List.all_eq_true.mpr fun c held =>
      List.all_eq_true.mp decimalDigits c (List.mem_of_mem_drop held)
  rw [text]
  refine readUnsigned_double isWhole (isPastDigits_point _)
    (readFraction?_append nonempty decimalRest past.isPastDigits)
    (readExponent?_of_isPastNumber past) (.inl nonempty) ?_
  apply ofDecimal?_of_denotes negative positive finite denotes
  have power : (none : Option Int).getD 0 - ((Nat.toDigits 10 decimal.digits).drop place).length =
      decimal.point - decimal.width := by
    simp only [Option.getD_none, List.length_drop, count]
    omega
  rw [List.take_append_drop, natOfDigits_toDigits, power]

theorem readUnsigned_positionalText (negative : Bool) (positive : 0 < pattern)
    (finite : pattern < Double.infinityPattern) (denotes : decimal.Denotes pattern)
    (past : IsPastNumber rest) :
    readUnsigned negative ((Double.positionalText .json decimal).toList ++ rest) =
      some (.float (.ofPattern negative pattern), rest) := by
  unfold Double.positionalText
  split
  · exact readUnsigned_after_point negative positive finite denotes past (by omega)
  · obtain ⟨place, atPlace⟩ := Int.eq_ofNat_of_zero_le (show 0 ≤ decimal.point by omega)
    simp only [atPlace, Int.toNat_natCast]
    split
    · exact readUnsigned_before_point negative positive finite denotes past (by omega)
    · exact readUnsigned_around_point negative positive finite denotes past atPlace (by omega)
        (by omega)

theorem readUnsigned_scientificText (negative : Bool) (positive : 0 < pattern)
    (finite : pattern < Double.infinityPattern) (denotes : decimal.Denotes pattern)
    (past : IsPastNumber rest) :
    readUnsigned negative ((Double.scientificText decimal).toList ++ rest) =
      some (.float (.ofPattern negative pattern), rest) := by
  obtain ⟨first, others, written, isDigit, nonzero⟩ := toDigits_eq_cons denotes.digits_pos
  have count := denotes.length_toDigits
  have decimalDigits := all_isDigit_toDigits decimal.digits
  rw [written] at count decimalDigits
  have isWhole : IsWhole [first] := ⟨by simp, by simpa using isDigit, by simp⟩
  have exponent := readExponent?_append (decide (decimal.point - 1 < 0))
    Nat.toDigits_ne_nil (all_isDigit_toDigits (decimal.point - 1).natAbs) past.isPastDigits
  have size : (if decide (decimal.point - 1 < 0) = true then
      -(natOfDigits (Nat.toDigits 10 (decimal.point - 1).natAbs) : Int)
      else natOfDigits (Nat.toDigits 10 (decimal.point - 1).natAbs)) = decimal.point - 1 := by
    rw [natOfDigits_toDigits]
    split <;> rename_i below <;> simp only [decide_eq_true_eq] at below <;> omega
  rw [size] at exponent
  generalize sign : (if decide (decimal.point - 1 < 0) = true then '-' else '+') = mark at exponent
  have text : (Double.scientificText decimal).toList ++ rest =
      [first] ++ ((if others.isEmpty then [] else '.' :: others) ++
        'e' :: mark :: (Nat.toDigits 10 (decimal.point - 1).natAbs ++ rest)) := by
    have signText : (if decimal.point - 1 < 0 then "-" else "+").toList = [mark] := by
      rw [← sign]
      split <;> simp_all
    unfold Double.scientificText
    simp only [natText, String.toList_append, String.toList_ofList, written, signText]
    cases others <;> simp
  have value : Double.ofDecimal? negative (natOfDigits ([first] ++ others))
      ((some (decimal.point - 1)).getD 0 - others.length) = some (.ofPattern negative pattern) := by
    apply ofDecimal?_of_denotes negative positive finite denotes
    have power : (some (decimal.point - 1)).getD 0 - others.length =
        decimal.point - decimal.width := by
      simp only [Option.getD_some, List.length_cons] at count ⊢
      omega
    rw [List.singleton_append, ← written, natOfDigits_toDigits, power]
  rw [text]
  by_cases single : others = []
  · subst single
    exact readUnsigned_double isWhole (by simp [Char.isDigit]) rfl exponent (.inr rfl) value
  · have several : others.isEmpty = false := by simpa using single
    rw [several]
    refine readUnsigned_double isWhole (isPastDigits_point _)
      (readFraction?_append single (by simp_all) (by simp [Char.isDigit])) exponent (.inr rfl) value

/-- A double is its sign and its pattern. -/
theorem ofPattern_self (d : Double) : Double.ofPattern d.negative d.pattern = d := by
  have small := d.bits.toNat_lt
  have whole : (if d.negative = true then 2 ^ 63 + d.pattern else d.pattern) = d.bits.toNat := by
    simp only [Double.negative, Double.pattern, decide_eq_true_eq]
    split <;> omega
  rw [Double.ofPattern, whole, UInt64.ofNat_toNat]

/-- The text of a finite double, without its sign. -/
def unsignedText (d : Double) : String :=
  if d.pattern = 0 then "0.0"
  else
    let decimal := Double.shortestOfPattern .toEven d.pattern
    if -4 ≤ decimal.point && decimal.point ≤ 16 then Double.positionalText .json decimal
    else Double.scientificText decimal

theorem readUnsigned_unsignedText (negative : Bool) {d : Double} (finite : d.isFinite)
    (past : IsPastNumber rest) :
    readUnsigned negative ((unsignedText d).toList ++ rest) =
      some (.float (.ofPattern negative d.pattern), rest) := by
  have small : d.pattern < Double.infinityPattern := of_decide_eq_true finite
  unfold unsignedText
  split
  · rename_i zero
    have text : "0.0".toList ++ rest = ['0'] ++ '.' :: (['0'] ++ rest) := rfl
    rw [text]
    refine readUnsigned_double (isWhole_toDigits 0) (isPastDigits_point _)
      (readFraction?_append (by simp) (by decide) past.isPastDigits)
      (readExponent?_of_isPastNumber past) (.inl (by simp)) ?_
    rw [zero]
    rfl
  · rename_i nonzero
    have positive := Nat.pos_of_ne_zero nonzero
    have denotes := Double.shortestOfPattern_denotes .toEven positive small
    simp only
    split
    · exact readUnsigned_positionalText negative positive small denotes past
    · exact readUnsigned_scientificText negative positive small denotes past

/-- A finite double is read back from its text. -/
theorem readNumber_text {d : Double} (finite : d.isFinite) (past : IsPastNumber rest) :
    readNumber ((d.text .json).toList ++ rest) = some (.float d, rest) := by
  have notNaN : d.isNaN = false := by
    simp only [Double.isFinite, Double.isNaN, decide_eq_true_eq, decide_eq_false_iff_not]
      at finite ⊢
    omega
  have text : d.text .json = if d.negative then "-" ++ unsignedText d else unsignedText d := by
    simp only [Double.text, notNaN, finite]
    rfl
  have read := readUnsigned_unsignedText d.negative finite past
  rw [ofPattern_self] at read
  rw [text]
  cases sign : d.negative with
  | true =>
      rw [sign] at read
      simp only [if_true, String.toList_append]
      exact read
  | false =>
      rw [sign] at read
      simp only [Bool.false_eq_true, if_false]
      exact readNumber_of_readUnsigned read

end ShelfLibrary.Json
