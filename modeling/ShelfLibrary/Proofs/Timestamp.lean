import ShelfLibrary.Proofs.Instant

/-!
# Timestamps and dates in texts

A text denotes an instant as a strict timestamp or as a plain date, and either may name a year that
has no four digits in universal time.  The text that is written of an instant denotes the instant
again if its year has four digits, and otherwise nothing.
-/

namespace ShelfLibrary

namespace Time

/-! ## Reading a strict timestamp -/

theorem number_paddedDigits {width n : Nat} (positive : 0 < width) (most : width ≤ 18)
    (fits : n < 10 ^ width) (rest : List Char) :
    number width (some width) (paddedDigits 10 width n ++ rest) = .ok (n, rest) := by
  have length := length_paddedDigits positive fits
  rw [number_append rest (all_isDigit_paddedDigits width n) length.ge (.inl length) most,
    natOfDigits_paddedDigits]

theorem yearText_of_plain {year : Int} (least : 0 ≤ year) (most : year ≤ 9999) :
    (Instant.yearText year).toList = paddedDigits 10 4 year.toNat := by
  unfold Instant.yearText
  rw [if_pos (by simpa using ⟨least, most⟩), paddedText, String.toList_ofList]

/-- The mark of universal time as an offset. -/
def greenwich : List Char := ['+', '0', '0', ':', '0', '0']

/-- The strict reader reads the fields of a timestamp of universal time in a year of four digits. -/
theorem strict_characters {fields : Fields} (universal : fields.IsUniversal)
    (least : 0 ≤ fields.date.year) (most : fields.date.year ≤ 9999) :
    strict (fields.characters greenwich) = fields.toInstant := by
  have sign_cons (c : Char) (rest : List Char) : sign c (c :: rest) = .ok ((), rest) := by
    simp [sign]
  have letter (rest : List Char) : separator ('T' :: rest) = .ok ((), rest) := rfl
  have offset : zone (sign ':') greenwich = .ok (0, []) := by decide
  obtain ⟨⟨year, month, day⟩, hour, minute, second, nanos, offset⟩ := fields
  obtain ⟨ofMonth, ofDay, ofHour, ofMinute, ofSecond, ofNanos, rfl⟩ := universal
  dsimp only at ofMonth ofDay ofHour ofMinute ofSecond ofNanos least most
  have two {n : Nat} (small : n < 100) (rest : List Char) :
      number 2 (some 2) (paddedDigits 10 2 n ++ rest) = .ok (n, rest) :=
    number_paddedDigits (by norm_num) (by norm_num) small rest
  have four (rest : List Char) : number 4 (some 4) (paddedDigits 10 4 year.toNat ++ rest) =
      .ok (year.toNat, rest) :=
    number_paddedDigits (by norm_num) (by norm_num) (by norm_num; omega) rest
  have within {low high n : Nat} (least : low ≤ n) (most : n ≤ high) :
      bounded low high n = .ok () := by
    simp [bounded, least, most]
  have whole : ((year.toNat : Nat) : Int) = year := Int.toNat_of_nonneg least
  unfold strict Fields.characters Fields.charactersPastYear
  rw [yearText_of_plain least most]
  have ofFraction : fraction ((Instant.fractionText nanos).toList ++ greenwich) =
      .ok (nanos, greenwich) :=
    fraction_fractionText ofNanos (by decide) (by decide) _
  simp only [bind, Except.bind, four, sign_cons, letter, two (by omega : month < 100),
    two (by omega : day < 100), two (by omega : hour < 100), two (by omega : minute < 100),
    two (by omega : second < 100), within ofMonth.1 ofMonth.2, within ofDay.1 ofDay.2,
    within (Nat.zero_le _) ofHour, within (Nat.zero_le _) ofMinute,
    within (Nat.zero_le _) ofSecond, whole, ofFraction, offset, List.isEmpty_nil, Bool.not_true,
    Bool.false_eq_true, if_false]

theorem yearText_of_signed {year : Int} (signed : ¬ (0 ≤ year ∧ year ≤ 9999)) :
    ∃ c digits, c.isDigit = false ∧ (Instant.yearText year).toList = c :: digits := by
  unfold Instant.yearText
  rw [if_neg (by simpa using signed), String.toList_append]
  split
  · exact ⟨'-', _, by decide, rfl⟩
  · exact ⟨'+', _, by decide, rfl⟩

/-- A timestamp in a year with a sign is not strict. -/
theorem strict_characters_of_signed {fields : Fields}
    (signed : ¬ (0 ≤ fields.date.year ∧ fields.date.year ≤ 9999)) (mark : List Char) :
    (strict (fields.characters mark)).toOption = none := by
  obtain ⟨c, digits, other, written⟩ := yearText_of_signed signed
  rw [Fields.characters, written, List.cons_append]
  simp [strict, number, other, bind, Except.bind, Except.toOption]

/-! ## What is no plain date -/

theorem plainDate_characters {fields : Fields} (universal : fields.IsUniversal)
    (least : -2 ^ 31 ≤ fields.date.year) (most : fields.date.year < 2 ^ 31) (mark : List Char) :
    plainDate (fields.characters mark) = .error .tooLong := by
  have sign_cons (rest : List Char) : sign '-' ('-' :: rest) = .ok ((), rest) := rfl
  unfold plainDate Fields.characters Fields.charactersPastYear
  rw [boundedYear_yearText least most]
  simp only [bind, Except.bind, sign_cons,
    field_paddedDigits universal.month.1 universal.month.2 (by have := universal.month; omega),
    field_paddedDigits universal.day.1 universal.day.2 (by have := universal.day; omega)]
  rfl

/-! ## What is read is standard -/

theorem isStandard_of_strict (cs : List Char) : Result.Yields (strict cs) Instant.IsStandard := by
  unfold strict
  -- Neither the date nor the time of day matters for what follows.
  refine Result.yields_bind_any fun (year, cs) => ?_
  refine Result.yields_bind_any fun ((), cs) => ?_
  refine Result.yields_bind_any fun (month, cs) => ?_
  refine Result.yields_bind_any fun () => ?_
  refine Result.yields_bind_any fun ((), cs) => ?_
  refine Result.yields_bind_any fun (day, cs) => ?_
  refine Result.yields_bind_any fun () => ?_
  refine Result.yields_bind_any fun ((), cs) => ?_
  refine Result.yields_bind_any fun (hour, cs) => ?_
  refine Result.yields_bind_any fun () => ?_
  refine Result.yields_bind_any fun ((), cs) => ?_
  refine Result.yields_bind_any fun (minute, cs) => ?_
  refine Result.yields_bind_any fun () => ?_
  refine Result.yields_bind_any fun ((), cs) => ?_
  refine Result.yields_bind_any fun (second, cs) => ?_
  refine Result.yields_bind_any fun () => ?_
  refine Result.yields_bind (fraction_lt cs) fun (nanos, cs) subsecond => ?_
  refine Result.yields_bind (zone_mod _ _) fun (offset, cs) minutes => ?_
  simp only
  split
  · exact Result.yields_throw_bind _ _ _
  · exact isStandard_of_toInstant subsecond minutes

theorem isValid_of_plainDate (cs : List Char) :
    Result.Yields (plainDate cs) fun date => date.isValid = true := by
  unfold plainDate
  refine Result.yields_bind_any fun (year, cs) => ?_
  refine Result.yields_bind_any fun ((), cs) => ?_
  refine Result.yields_bind_any fun (month, cs) => ?_
  refine Result.yields_bind_any fun ((), cs) => ?_
  refine Result.yields_bind_any fun (day, cs) => ?_
  simp only
  split
  · exact Result.yields_throw_bind _ _ _
  · split
    · rename_i valid
      rintro _ ⟨⟩
      exact valid
    · exact Result.yields_throw _ _

end Time

namespace Instant

variable {instant : Instant}

/-- Whether the year of an instant has four digits in universal time. -/
def HasPlainYear (instant : Instant) : Prop :=
  0 ≤ (Date.ofDay instant.day).year ∧ (Date.ofDay instant.day).year ≤ 9999

instance (instant : Instant) : Decidable instant.HasPlainYear :=
  inferInstanceAs (Decidable (_ ∧ _))

theorem isStandard_ofDate {date : Date} (valid : date.isValid = true) :
    (ofDate date).IsStandard := by
  simp only [Date.isValid, Bool.and_eq_true, decide_eq_true_eq] at valid
  obtain ⟨⟨⟨⟨⟨least, most⟩, leastMonth⟩, mostMonth⟩, leastDay⟩, mostDay⟩ := valid
  have ofDay : (ofDate date).day = date.toDay := by
    rw [day, ofDate]
    simp
  have same := Date.ofDay_toDay ⟨leastMonth, mostMonth⟩ ⟨leastDay, mostDay⟩
  exact ⟨by rwa [ofDay, same], by rwa [ofDay, same], .inl (by simp [ofDate])⟩

/-- An instant that a text denotes is standard. -/
theorem isStandard_of_ofText? {s : String} (read : ofText? s = some instant) :
    instant.IsStandard := by
  unfold ofText? ofStrict? at read
  cases strict : Time.strict s.toList with
  | ok found =>
    rw [strict] at read
    obtain rfl : found = instant := by simpa [Except.toOption] using read
    exact Time.isStandard_of_strict _ _ strict
  | error fault =>
    rw [strict] at read
    cases plain : Time.plainDate s.toList with
    | ok date =>
      rw [plain] at read
      obtain rfl : ofDate date = instant := by simpa [Except.toOption] using read
      exact isStandard_ofDate (Time.isValid_of_plainDate _ _ plain)
    | error fault => simp [plain, Except.toOption] at read

/-- The text of a standard instant denotes the instant if its year has four digits, and otherwise
nothing. -/
theorem ofText?_offsetText (standard : instant.IsStandard) :
    ofText? instant.offsetText = if instant.HasPlainYear then some instant else none := by
  have universal := standard.isUniversal
  have least := standard.least
  have most := standard.most
  have ofYear : instant.fields.date.year = (Date.ofDay instant.day).year := rfl
  simp only [Date.firstYear, Date.lastYear] at least most
  unfold ofText? ofStrict? offsetText
  rw [toList_text, show "+00:00".toList = Time.greenwich from rfl]
  split
  · rename_i plain
    rw [Time.strict_characters universal plain.1 plain.2, standard.toInstant_fields]
    rfl
  · rename_i signed
    have undated := Time.plainDate_characters universal (by omega) (by omega) Time.greenwich
    rw [Time.strict_characters_of_signed (ofYear ▸ signed), undated]
    rfl

end Instant

end ShelfLibrary
