import ShelfLibrary.Proofs.Calendar
import ShelfLibrary.Proofs.Digits
import ShelfLibrary.Proofs.Result
import ShelfLibrary.Time.Reader
import ShelfLibrary.Time.Writer

/-!
# Instants that are read back

The text of an instant is read back as the instant when its year is one that is kept and its
nanoseconds count on into an inserted second only at the end of a minute.  No other instant is ever
read.
-/

namespace ShelfLibrary

namespace Time

/-! ## Reading digits -/

theorem take_takeWhile_isDigit {digits rest : List Char} {width : Nat}
    (decimal : digits.all Char.isDigit)
    (bounded : digits.length = width ∨ digits.length ≤ width ∧ IsPastDigits rest) :
    ((digits ++ rest).take width).takeWhile Char.isDigit = digits := by
  rcases bounded with rfl | ⟨short, past⟩
  · rw [List.take_left]
    simpa using takeWhile_isDigit_append decimal isPastDigits_nil
  · rw [List.take_append, List.take_of_length_le short]
    apply takeWhile_isDigit_append decimal
    cases rest with
    | nil => simp
    | cons c rest =>
        cases width - digits.length with
        | zero => simp
        | succ n => simpa using past

/-- A number of a bounded width. -/
theorem number_append {least width : Nat} {digits : List Char} (rest : List Char)
    (decimal : digits.all Char.isDigit) (enough : least ≤ digits.length)
    (bounded : digits.length = width ∨ digits.length ≤ width ∧ IsPastDigits rest)
    (small : width ≤ 18) :
    number least (some width) (digits ++ rest) = .ok (natOfDigits digits, rest) := by
  have value := natOfDigits_lt_of_all_isDigit decimal
  have power : 10 ^ digits.length ≤ 10 ^ 18 := Nat.pow_le_pow_right (by norm_num) (by omega)
  have fits : ¬ 2 ^ 63 ≤ natOfDigits digits := by
    norm_num at power ⊢
    omega
  unfold number
  simp only [take_takeWhile_isDigit decimal bounded, Nat.not_lt.mpr enough, fits, if_false,
    List.drop_left]

/-- A number that ends where its digits do. -/
theorem number_unbounded {least : Nat} {digits rest : List Char} (decimal : digits.all Char.isDigit)
    (enough : least ≤ digits.length) (past : IsPastDigits rest)
    (small : natOfDigits digits < 2 ^ 63) :
    number least none (digits ++ rest) = .ok (natOfDigits digits, rest) := by
  unfold number
  simp only [takeWhile_isDigit_append decimal past, Nat.not_lt.mpr enough, Nat.not_le.mpr small,
    if_false, List.drop_left]

theorem skipBlank_of_isDigit {digits rest : List Char} (decimal : digits.all Char.isDigit)
    (nonempty : digits ≠ []) : skipBlank (digits ++ rest) = digits ++ rest := by
  cases digits with
  | nil => exact absurd rfl nonempty
  | cons c digits =>
      have solid : Text.isBlank c = false := by
        simp only [List.all_cons, Bool.and_eq_true] at decimal
        have := toNat_of_isDigit decimal.1
        simp only [Text.isBlank, Bool.or_eq_false_iff, Bool.and_eq_false_iff,
          decide_eq_false_iff_not, beq_eq_false_iff_ne, ne_eq]
        omega
      simp [skipBlank, solid]

/-! ## Reading fields -/

/-- A field of two digits. -/
theorem field_paddedDigits {low high n : Nat} (least : low ≤ n) (most : n ≤ high) (small : n < 100)
    (rest : List Char) : field low high (paddedDigits 10 2 n ++ rest) = .ok (n, rest) := by
  have width : (paddedDigits 10 2 n).length = 2 := length_paddedDigits (by norm_num) small
  have nonempty : paddedDigits 10 2 n ≠ [] := List.ne_nil_of_length_pos (by omega)
  unfold field
  rw [skipBlank_of_isDigit (all_isDigit_paddedDigits 2 n) nonempty,
    number_append _ (all_isDigit_paddedDigits 2 n) (by omega) (.inl width) (by norm_num)]
  simp [bounded, least, most, bind, Except.bind, pure, Except.pure]

/-- The fraction of a second is read back from the digits that lose nothing. -/
theorem fraction_fractionText {nanos : Nat} (small : nanos < 1000000000) {c : Char}
    (past : c.isDigit = false) (other : c ≠ '.') (rest : List Char) :
    fraction ((Instant.fractionText nanos).toList ++ c :: rest) = .ok (nanos, c :: rest) := by
  have ofWidth (width value : Nat) (positive : 0 < width) (most : width ≤ 9)
      (fits : value < 10 ^ width) (whole : value * 10 ^ (9 - width) = nanos) :
      fraction (("." ++ paddedText width value).toList ++ c :: rest) =
        .ok (nanos, c :: rest) := by
    have length := length_paddedDigits positive fits
    have text : ("." ++ paddedText width value).toList ++ c :: rest =
        '.' :: (paddedDigits 10 width value ++ c :: rest) := by
      simp [paddedText]
    have mark : (c :: rest).dropWhile Char.isDigit = c :: rest := by
      simp [past]
    have count : (paddedDigits 10 width value ++ c :: rest).length - (c :: rest).length =
        width := by
      rw [List.length_append, length]
      omega
    rw [text]
    unfold fraction
    simp only
    rw [number_append _ (all_isDigit_paddedDigits width value) (by omega)
      (.inr ⟨by omega, (isPastDigits_cons c rest).mpr past⟩) (by norm_num)]
    simp only [bind, Except.bind, pure, Except.pure, natOfDigits_paddedDigits, count, mark, whole]
  unfold Instant.fractionText
  split
  · rename_i zero
    subst zero
    unfold fraction
    split
    · rename_i point
      exact absurd (List.cons.inj point).1 other
    · rfl
  · split
    · exact ofWidth 3 _ (by norm_num) (by norm_num) (by norm_num; omega) (by norm_num; omega)
    · split
      · exact ofWidth 6 _ (by norm_num) (by norm_num) (by norm_num; omega) (by norm_num; omega)
      · exact ofWidth 9 _ (by norm_num) (by norm_num) (by norm_num; omega) (by norm_num)

theorem signedYear_of_isDigit {digits : List Char} (rest : List Char)
    (decimal : digits.all Char.isDigit)
    (length : digits.length = 4) :
    signedYear (digits ++ rest) = .ok ((natOfDigits digits : Int), rest) := by
  have nonempty : digits ≠ [] := List.ne_nil_of_length_pos (by omega)
  unfold signedYear
  rw [skipBlank_of_isDigit decimal nonempty]
  obtain ⟨c, others, rfl⟩ := List.exists_cons_of_ne_nil nonempty
  have isDigit : c.isDigit := by
    simp only [List.all_cons, Bool.and_eq_true] at decimal
    exact decimal.1
  have read := number_append rest decimal (by omega : 1 ≤ _) (.inl length) (by norm_num)
  split
  · rename_i minus
    obtain rfl : c = '-' := (List.cons.inj minus).1
    exact absurd isDigit (by decide)
  · rename_i plus
    obtain rfl : c = '+' := (List.cons.inj plus).1
    exact absurd isDigit (by decide)
  · rw [read]
    rfl

theorem signedYear_of_sign (negative : Bool) {digits rest : List Char}
    (decimal : digits.all Char.isDigit) (nonempty : 1 ≤ digits.length)
    (past : IsPastDigits rest) (small : natOfDigits digits < 2 ^ 63) :
    signedYear ((if negative then '-' else '+') :: (digits ++ rest)) =
      .ok (if negative then -(natOfDigits digits : Int) else natOfDigits digits, rest) := by
  have read := number_unbounded decimal nonempty past small
  cases negative <;>
    simp [signedYear, skipBlank, Text.isBlank, read, bind, Except.bind, pure, Except.pure]

/-- A year is read back, also one with a sign. -/
theorem boundedYear_yearText {year : Int} (least : -2 ^ 31 ≤ year) (most : year < 2 ^ 31)
    (rest : List Char) :
    boundedYear ((Instant.yearText year).toList ++ '-' :: rest) = .ok (year, '-' :: rest) := by
  have past : IsPastDigits ('-' :: rest) := by simp [Char.isDigit]
  have signed : signedYear ((Instant.yearText year).toList ++ '-' :: rest) =
      .ok (year, '-' :: rest) := by
    unfold Instant.yearText
    split
    · rename_i usual
      simp only [Bool.and_eq_true, decide_eq_true_eq] at usual
      have read := signedYear_of_isDigit ('-' :: rest)
        (all_isDigit_paddedDigits 4 year.toNat)
        (length_paddedDigits (by norm_num) (by norm_num; omega))
      rw [natOfDigits_paddedDigits, Int.toNat_of_nonneg usual.1] at read
      simpa [paddedText] using read
    · have text :
          ((if year < 0 then "-" else "+") ++ paddedText 4 year.natAbs).toList ++ '-' :: rest =
          (if decide (year < 0) = true then '-' else '+') ::
            (paddedDigits 10 4 year.natAbs ++ '-' :: rest) := by
        by_cases negative : year < 0 <;> simp [negative, paddedText]
      have some : 1 ≤ (paddedDigits 10 4 year.natAbs).length := by
        have : 0 < (Nat.toDigits 10 year.natAbs).length := Nat.length_toDigits_pos
        simp only [paddedDigits, List.length_append]
        omega
      rw [text, signedYear_of_sign _ (all_isDigit_paddedDigits 4 year.natAbs) some past
        (by rw [natOfDigits_paddedDigits]; omega), natOfDigits_paddedDigits]
      congr 2
      split <;> rename_i sign <;> simp only [decide_eq_true_eq] at sign <;> omega
  unfold boundedYear
  rw [signed]
  simp only [bind, Except.bind, pure, Except.pure]
  rw [if_pos (by simp only [Bool.and_eq_true, decide_eq_true_eq]; exact ⟨least, most⟩)]

theorem sign_skipBlank {c : Char} (solid : Text.isBlank c = false) (rest : List Char) :
    sign c (skipBlank (c :: rest)) = .ok ((), rest) := by
  simp [skipBlank, solid, sign]

/-! ## Reading the fields of a timestamp -/

namespace Fields

/-- Whether a month, its days and the times of a day have so large numbers, and the time is
universal time. -/
structure IsUniversal (fields : Fields) : Prop where
  /-- The month is one of twelve. -/
  month : 1 ≤ fields.date.month ∧ fields.date.month ≤ 12
  /-- The day is one of up to 31. -/
  day : 1 ≤ fields.date.day ∧ fields.date.day ≤ 31
  /-- The hour is one of 24. -/
  hour : fields.hour ≤ 23
  /-- The minute is one of 60. -/
  minute : fields.minute ≤ 59
  /-- The second may be an inserted one. -/
  second : fields.second ≤ 60
  /-- The fraction is less than a second. -/
  nanos : fields.nanos < 1000000000
  /-- The time is that of Greenwich. -/
  offset : fields.offset = 0

/-- The characters of a timestamp after its year, with a mark of universal time. -/
def charactersPastYear (fields : Fields) (mark : List Char) : List Char :=
  '-' :: (paddedDigits 10 2 fields.date.month ++ '-' ::
    (paddedDigits 10 2 fields.date.day ++ 'T' :: (paddedDigits 10 2 fields.hour ++ ':' ::
      (paddedDigits 10 2 fields.minute ++ ':' :: (paddedDigits 10 2 fields.second ++
        ((Instant.fractionText fields.nanos).toList ++ mark))))))

/-- The characters of a timestamp with a mark of universal time. -/
def characters (fields : Fields) (mark : List Char) : List Char :=
  (Instant.yearText fields.date.year).toList ++ fields.charactersPastYear mark

end Fields

/-- The relaxed reader reads the fields of a timestamp of universal time. -/
theorem relaxed_characters {fields : Fields} (universal : fields.IsUniversal)
    (least : -2 ^ 31 ≤ fields.date.year) (most : fields.date.year < 2 ^ 31) :
    relaxed (fields.characters ['Z']) = fields.toInstant := by
  have dash := sign_skipBlank (c := '-') (by decide)
  have colon := sign_skipBlank (c := ':') (by decide)
  have letter (rest : List Char) : separator ('T' :: rest) = .ok ((), rest) := rfl
  have zulu : skipBlank ['Z'] = ['Z'] := by decide
  obtain ⟨⟨year, month, day⟩, hour, minute, second, nanos, offset⟩ := fields
  obtain ⟨ofMonth, ofDay, ofHour, ofMinute, ofSecond, ofNanos, rfl⟩ := universal
  dsimp only at ofMonth ofDay ofHour ofMinute ofSecond ofNanos least most
  unfold relaxed Fields.characters Fields.charactersPastYear
  rw [boundedYear_yearText least most]
  simp only [bind, Except.bind, dash, colon, letter, List.isEmpty_cons, Bool.false_eq_true,
    if_false, fraction_fractionText ofNanos (c := 'Z') (by decide) (by decide), zulu,
    field_paddedDigits ofMonth.1 ofMonth.2 (by omega),
    field_paddedDigits ofDay.1 ofDay.2 (by omega),
    field_paddedDigits (Nat.zero_le _) ofHour (by omega),
    field_paddedDigits (Nat.zero_le _) ofMinute (by omega),
    field_paddedDigits (Nat.zero_le _) ofSecond (by omega)]
  rfl

end Time

namespace Instant

/-! ## Instants -/

/-- Whether an instant is one that a reader of timestamps may give: its year is kept, and its
nanoseconds count on into an inserted second only at the end of a minute. -/
structure IsStandard (instant : Instant) : Prop where
  /-- The year is not too early. -/
  least : Date.firstYear ≤ (Date.ofDay instant.day).year
  /-- The year is not too late. -/
  most : (Date.ofDay instant.day).year ≤ Date.lastYear
  /-- There are so many nanoseconds in a second, and as many in an inserted one. -/
  nanos : instant.nanos < 1000000000 ∨ instant.nanos < 2000000000 ∧ instant.seconds % 60 = 59

/-- The fields of an instant in universal time. -/
def fields (instant : Instant) : Time.Fields :=
  let time := (instant.seconds - instant.day * 86400).toNat
  ⟨Date.ofDay instant.day, time / 3600, time / 60 % 60,
    time % 60 + instant.nanos / 1000000000, instant.nanos % 1000000000, 0⟩

theorem toList_text (mark : String) (instant : Instant) :
    (instant.text mark).toList = instant.fields.characters mark.toList := by
  simp [text, fields, Time.Fields.characters, Time.Fields.charactersPastYear, paddedText]

variable {instant : Instant}

theorem IsStandard.isUniversal (standard : instant.IsStandard) : instant.fields.IsUniversal := by
  obtain ⟨leastMonth, mostMonth, leastDay, mostDay⟩ := Date.ofDay_inYear instant.day
  have dayInMonth : Date.daysInMonth (Date.ofDay instant.day).year (Date.ofDay instant.day).month ≤
      31 := by
    unfold Date.daysInMonth
    split
    · split <;> omega
    · split <;> omega
  have subsecond := standard.nanos
  have ofDay : instant.day = instant.seconds / 86400 := rfl
  exact ⟨⟨leastMonth, mostMonth⟩, ⟨leastDay, mostDay.trans dayInMonth⟩,
    by simp only [fields]; omega, by simp only [fields]; omega, by simp only [fields]; omega,
    by simp only [fields]; omega, rfl⟩

/-- The fields of a standard instant are those of the instant. -/
theorem IsStandard.toInstant_fields (standard : instant.IsStandard) :
    instant.fields.toInstant = .ok instant := by
  obtain ⟨leastMonth, mostMonth, leastDay, mostDay⟩ := Date.ofDay_inYear instant.day
  have ofDate := Date.toDay_ofDay instant.day
  have valid : (Date.ofDay instant.day).isValid = true := by
    simp only [Date.isValid, Bool.and_eq_true, decide_eq_true_eq]
    exact ⟨⟨⟨⟨⟨standard.least, standard.most⟩, leastMonth⟩, mostMonth⟩, leastDay⟩, mostDay⟩
  have subsecond := standard.nanos
  unfold fields
  simp only
  generalize timed : (instant.seconds - instant.day * 86400).toNat = time
  have ofTime : instant.seconds = instant.day * 86400 + time := by
    rw [day] at timed ⊢
    omega
  have inDay : time < 86400 := by
    rw [day] at timed
    omega
  have kept : (if Date.firstYear ≤ (Date.ofDay instant.day).year ∧
        (Date.ofDay instant.day).year ≤ Date.lastYear
      then (Except.ok instant : Except Time.Fault Instant)
      else .error .impossible) = .ok instant := if_pos ⟨standard.least, standard.most⟩
  have sum (second nanos : Nat) (ofSecond : second = time % 60) (ofNanos : nanos = instant.nanos) :
      (⟨(Date.ofDay instant.day).toDay * 86400 +
        ((time / 3600 : Nat) * 3600 + (time / 60 % 60 : Nat) * 60 + (second : Nat)) - 0, nanos⟩ :
          Instant) = instant := by
    rw [ofDate, ofSecond, ofNanos]
    have seconds : instant.day * 86400 + (((time / 3600 : Nat) : Int) * 3600 +
        ((time / 60 % 60 : Nat) : Int) * 60 + ((time % 60 : Nat) : Int)) - 0 = instant.seconds := by
      rw [ofTime]
      omega
    rw [seconds]
  unfold Time.Fields.toInstant
  rcases Nat.lt_or_ge instant.nanos 1000000000 with usual | inserted
  · have second : time % 60 + instant.nanos / 1000000000 = time % 60 := by omega
    have notInserted : ¬ time % 60 = 60 := by omega
    have nanos : instant.nanos % 1000000000 = instant.nanos := by omega
    simp only [valid, second, nanos, notInserted, if_false, sum _ _ rfl rfl]
    simpa using kept
  · have second : time % 60 + instant.nanos / 1000000000 = 60 := by omega
    have nanos : instant.nanos % 1000000000 + 1000000000 = instant.nanos := by omega
    simp only [valid, second, nanos, if_true, sum 59 _ (by omega) rfl]
    simpa using kept

/-- A standard instant is read back from its text. -/
theorem ofRelaxed_zuluText (standard : instant.IsStandard) :
    ofRelaxed instant.zuluText = .ok instant := by
  have least := standard.least
  have most := standard.most
  simp only [Date.firstYear, Date.lastYear] at least most
  have read := Time.relaxed_characters standard.isUniversal (by simp only [fields]; omega)
    (by simp only [fields]; omega)
  rw [standard.toInstant_fields] at read
  rwa [ofRelaxed, zuluText, toList_text]

end Instant

namespace Time

/-! ## What is read is standard -/

/-- A number takes so many digits from the text. -/
theorem number_spec {least width value : Nat} {cs rest : List Char}
    (read : number least (some width) cs = .ok (value, rest)) :
    ∃ count ≤ width, value < 10 ^ count ∧ cs.length - rest.length = count := by
  unfold number at read
  simp only at read
  split at read
  · simp at read
  · split at read
    · simp at read
    · simp only [Except.ok.injEq, Prod.mk.injEq] at read
      obtain ⟨rfl, rfl⟩ := read
      have decimal : ((cs.take width).takeWhile Char.isDigit).all Char.isDigit := List.all_takeWhile
      have short := (List.takeWhile_prefix Char.isDigit (l := cs.take width)).length_le
      simp only [List.length_take] at short
      refine ⟨_, by omega, natOfDigits_lt_of_all_isDigit decimal, ?_⟩
      rw [List.length_drop]
      omega

theorem fraction_lt (cs : List Char) :
    Result.Yields (fraction cs) fun read => read.1 < 1000000000 := by
  unfold fraction
  split
  · refine Result.yields_bind (fun read found => number_spec found) ?_
    rintro ⟨value, rest⟩ ⟨count, short, small, width⟩ read ⟨⟩
    simp only [width]
    calc value * 10 ^ (9 - count) < 10 ^ count * 10 ^ (9 - count) :=
          Nat.mul_lt_mul_of_pos_right small (by positivity)
      _ = 1000000000 := by rw [← pow_add, Nat.add_sub_cancel' short]; norm_num
  · rintro read ⟨⟩
    norm_num

theorem zone_mod (between : Reader Unit) (cs : List Char) :
    Result.Yields (zone between cs) fun read => read.1 % 60 = 0 := by
  unfold zone
  split
  · exact Result.yields_throw _ _
  · split
    · rintro read ⟨⟩
      rfl
    · split
      · refine Result.yields_bind_any fun (hours, rest) => ?_
        refine Result.yields_bind_any fun ((), rest) => ?_
        refine Result.yields_bind_any fun (minutes, rest) => ?_
        simp only
        split
        · exact Result.yields_throw _ _
        · rintro read ⟨⟩
          simp only
          split <;> omega
      · exact Result.yields_throw _ _

theorem isStandard_of_toInstant {fields : Fields} (subsecond : fields.nanos < 1000000000)
    (minutes : fields.offset % 60 = 0) : Result.Yields fields.toInstant Instant.IsStandard := by
  unfold Fields.toInstant
  split
  · exact Result.yields_throw _ _
  · have ofKept {instant : Instant} (nanos : instant.nanos < 1000000000 ∨
        instant.nanos < 2000000000 ∧ instant.seconds % 60 = 59) :
        Result.Yields (if Date.firstYear ≤ (Date.ofDay instant.day).year &&
          (Date.ofDay instant.day).year ≤ Date.lastYear then (.ok instant : Except Fault Instant)
          else .error .impossible) Instant.IsStandard := by
      split
      · rename_i kept
        simp only [Bool.and_eq_true, decide_eq_true_eq] at kept
        rintro _ ⟨⟩
        exact ⟨kept.1, kept.2, nanos⟩
      · exact Result.yields_throw _ _
    by_cases inserted : fields.second = 60
    · simp only [inserted, if_true]
      refine ofKept (.inr ⟨?_, ?_⟩) <;> simp only <;> omega
    · simp only [inserted, if_false]
      exact ofKept (.inl subsecond)

theorem isStandard_of_relaxed (cs : List Char) : Result.Yields (relaxed cs) Instant.IsStandard := by
  unfold relaxed
  -- Neither the date nor the time of day matters for what follows.
  refine Result.yields_bind_any fun (year, cs) => ?_
  refine Result.yields_bind_any fun ((), cs) => ?_
  refine Result.yields_bind_any fun (month, cs) => ?_
  refine Result.yields_bind_any fun ((), cs) => ?_
  refine Result.yields_bind_any fun (day, cs) => ?_
  simp only
  split
  · exact Result.yields_throw_bind _ _ _
  refine Result.yields_bind_any fun ((), cs) => ?_
  refine Result.yields_bind_any fun (hour, cs) => ?_
  refine Result.yields_bind_any fun ((), cs) => ?_
  refine Result.yields_bind_any fun (minute, cs) => ?_
  refine Result.yields_bind_any fun ((), cs) => ?_
  refine Result.yields_bind_any fun (second, cs) => ?_
  refine Result.yields_bind (fraction_lt cs) fun (nanos, cs) subsecond => ?_
  simp only
  split
  · exact Result.yields_throw_bind _ _ _
  have finish (offset : Int) (cs : List Char) (minutes : offset % 60 = 0) :
      Result.Yields (if (!(skipBlank cs).isEmpty) = true then do
          throw Fault.tooLong
          Fields.toInstant ⟨⟨year, month, day⟩, hour, minute, second, nanos, offset⟩
        else Fields.toInstant ⟨⟨year, month, day⟩, hour, minute, second, nanos, offset⟩)
        Instant.IsStandard := by
    split
    · exact Result.yields_throw_bind _ _ _
    · exact isStandard_of_toInstant subsecond minutes
  split
  · exact finish 0 _ rfl
  · exact Result.yields_bind (zone_mod _ _) fun (offset, cs) minutes => finish offset cs minutes

end Time

theorem Instant.isStandard_of_ofRelaxed {s : String} {instant : Instant}
    (read : ofRelaxed s = .ok instant) : instant.IsStandard :=
  Time.isStandard_of_relaxed s.toList instant read

/-- The instants that are read back from their texts. -/
theorem Instant.ofRelaxed_zuluText_iff {instant : Instant} :
    ofRelaxed instant.zuluText = .ok instant ↔ instant.IsStandard :=
  ⟨isStandard_of_ofRelaxed, ofRelaxed_zuluText⟩

end ShelfLibrary
