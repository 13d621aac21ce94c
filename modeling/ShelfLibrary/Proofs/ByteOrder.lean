import Mathlib.Data.String.Basic
import ShelfLibrary.Proofs.Frame

/-!
# Texts in the order of their bytes

Texts are ordered by their characters.  Their bytes in UTF-8 stand in the same order: of two
characters the greater one has the greater bytes, and it shows at the first byte that differs, so
that what follows the characters does not matter.
-/

namespace ShelfLibrary.Bytes

/-! ## The bytes of a number -/

/-- The bytes of a number with some bytes after the first: six bits of the number in each of these,
and what is left of it, above a mark, in the first. -/
def spread (mark : Nat) : Nat → Nat → Bytes
  | 0, n => [UInt8.ofNat (n + mark)]
  | count + 1, n => spread mark count (n / 64) ++ [UInt8.ofNat (n % 64 + 128)]

theorem ofNat_lt_ofNat {m n : Nat} (less : m < n) (small : n < 256) :
    UInt8.ofNat m < UInt8.ofNat n := by
  rw [UInt8.lt_iff_toNat_lt, UInt8.toNat_ofNat_of_lt' small,
    UInt8.toNat_ofNat_of_lt' (less.trans small)]
  exact less

theorem cons_lt_cons {m n : Nat} (less : m < n) (small : n < 256) (rest more : Bytes) :
    UInt8.ofNat m :: rest < UInt8.ofNat n :: more :=
  List.cons_lt_cons_iff.mpr (.inl (ofNat_lt_ofNat less small))

theorem spread_eq_cons (mark count n : Nat) :
    ∃ others, spread mark count n = UInt8.ofNat (n / 64 ^ count + mark) :: others := by
  induction count generalizing n with
  | zero => exact ⟨[], by rw [pow_zero, Nat.div_one, spread]⟩
  | succ count ih =>
      obtain ⟨others, same⟩ := ih (n / 64)
      rw [pow_succ', ← Nat.div_div_eq_div_mul, spread, same]
      exact ⟨others ++ [UInt8.ofNat (n % 64 + 128)], rfl⟩

/-- Of two numbers with equally many bytes, the greater one has the greater bytes. -/
theorem spread_lt {mark count m n : Nat} (less : m < n) (small : n / 64 ^ count + mark < 256)
    (rest more : Bytes) : spread mark count m ++ rest < spread mark count n ++ more := by
  induction count generalizing m n rest more with
  | zero =>
      rw [pow_zero, Nat.div_one] at small
      exact cons_lt_cons (by omega) small rest more
  | succ count ih =>
      rw [pow_succ', ← Nat.div_div_eq_div_mul] at small
      rw [spread, spread, List.append_assoc, List.append_assoc]
      rcases (Nat.div_le_div_right less.le).lt_or_eq with above | same
      · exact ih above small _ _
      · rw [same]
        exact List.append_left_lt (cons_lt_cons (by omega) (by omega) rest more)

/-! ## The bytes of a character -/

/-- How many bytes come after the first in the UTF-8 form of a number. -/
def tailCount (n : Nat) : Nat :=
  if n < 0x80 then 0 else if n < 0x800 then 1 else if n < 0x10000 then 2 else 3

/-- What the first byte tells of the number of bytes after it. -/
def mark : Nat → Nat
  | 0 => 0
  | 1 => 0xC0
  | 2 => 0xE0
  | _ => 0xF0

/-- The first of the bytes of a number. -/
def lead (n : Nat) : Nat := n / 64 ^ tailCount n + mark (tailCount n)

theorem tailCount_mono {m n : Nat} (le : m ≤ n) : tailCount m ≤ tailCount n := by
  unfold tailCount
  split_ifs <;> omega

theorem lead_lt {n : Nat} (limit : n < 0x110000) : lead n < 256 := by
  unfold lead tailCount
  split_ifs <;> simp only [mark] <;> omega

/-- The more bytes there are, the greater the first of them. -/
theorem lead_lt_lead {m n : Nat} (fewer : tailCount m < tailCount n) : lead m < lead n := by
  unfold lead
  unfold tailCount at fewer ⊢
  split_ifs at fewer ⊢ <;> simp only [mark] <;> omega

theorem toNat_lt (c : Char) : c.toNat < 0x110000 := by
  rcases c.valid with low | high
  · exact lt_trans low (by decide)
  · exact high.2

theorem utf8EncodeChar_eq (c : Char) :
    String.utf8EncodeChar c = spread (mark (tailCount c.toNat)) (tailCount c.toNat) c.toNat := by
  have limit : c.val.toNat < 0x110000 := toNat_lt c
  change _ = spread (mark (tailCount c.val.toNat)) (tailCount c.val.toNat) c.val.toNat
  unfold String.utf8EncodeChar tailCount
  generalize c.val.toNat = n at limit
  simp only [Nat.le_iff_lt_add_one, Nat.reduceAdd]
  -- Below the limit nothing is left for the encoder to cut off the first byte.
  split_ifs with one two three
  · rfl
  · rw [Nat.mod_eq_of_lt (show n / 64 < 32 by omega)]
    rfl
  · rw [Nat.mod_eq_of_lt (show n / 4096 < 16 by omega)]
    simp [spread, mark, Nat.div_div_eq_div_mul]
  · rw [Nat.mod_eq_of_lt (show n / 262144 < 8 by omega)]
    simp [spread, mark, Nat.div_div_eq_div_mul]

/-- Of two characters the greater one has the greater bytes, whatever follows. -/
theorem utf8EncodeChar_lt {c d : Char} (before : c < d) (rest more : Bytes) :
    String.utf8EncodeChar c ++ rest < String.utf8EncodeChar d ++ more := by
  have less : c.toNat < d.toNat := before
  have small : lead d.toNat < 256 := lead_lt (toNat_lt d)
  rw [utf8EncodeChar_eq, utf8EncodeChar_eq]
  rcases (tailCount_mono less.le).lt_or_eq with fewer | same
  · obtain ⟨front, first⟩ := spread_eq_cons (mark (tailCount c.toNat)) (tailCount c.toNat) c.toNat
    obtain ⟨back, other⟩ := spread_eq_cons (mark (tailCount d.toNat)) (tailCount d.toNat) d.toNat
    rw [first, other]
    exact cons_lt_cons (lead_lt_lead fewer) small _ _
  · rw [same]
    exact spread_lt less small rest more

/-! ## The bytes of a text -/

theorem ofText_eq (s : String) : ofText s = s.toList.flatMap String.utf8EncodeChar := by
  have bytes : s.toByteArray = s.toList.utf8Encode := by
    rw [← String.toByteArray_ofList, String.ofList_toList]
  rw [ofText, toList_eq, String.toUTF8_eq_toByteArray, bytes, List.utf8Encode,
    List.data_toByteArray]

theorem ofText_lt_ofText {s t : String} (before : s < t) : ofText s < ofText t := by
  rw [String.lt_iff_toList_lt] at before
  rw [ofText_eq, ofText_eq]
  generalize s.toList = left, t.toList = right at before
  induction before with
  | @nil c chars =>
      rw [List.flatMap_nil, List.flatMap_cons]
      obtain ⟨byte, others, spelt⟩ := List.exists_cons_of_ne_nil (@String.utf8EncodeChar_ne_nil c)
      rw [spelt]
      exact List.nil_lt_cons _ _
  | rel less =>
      rw [List.flatMap_cons, List.flatMap_cons]
      exact utf8EncodeChar_lt less _ _
  | cons _ ih =>
      rw [List.flatMap_cons, List.flatMap_cons]
      exact List.append_left_lt ih

/-- The bytes of texts are in the same order as the texts. -/
theorem ofText_lt_iff {s t : String} : ofText s < ofText t ↔ s < t := by
  refine ⟨fun before => ?_, ofText_lt_ofText⟩
  rcases lt_trichotomy s t with less | same | greater
  · exact less
  · rw [same] at before
    exact absurd before (List.lt_irrefl _)
  · exact absurd before (List.lt_asymm (ofText_lt_ofText greater))

end ShelfLibrary.Bytes
