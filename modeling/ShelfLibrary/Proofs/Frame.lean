import ShelfLibrary.Disk.Frame
import ShelfLibrary.Proofs.Json
import ShelfLibrary.Proofs.Result

/-!
# Frames that are read back

The bytes of a text, of a word and of a frame are read back as what they were made of, whatever
follows them.  The document of a file is read back as its echo, unless it nests too deep.
-/

namespace ShelfLibrary

/-! ## Bytes -/

namespace Bytes

theorem toList_loop (bytes : ByteArray) (read : List UInt8) (i : Nat) :
    ByteArray.toList.loop bytes i read = read.reverse ++ bytes.data.toList.drop i := by
  induction left : bytes.size - i generalizing i read with
  | zero =>
      have past : bytes.data.toList.length ≤ i := by
        rw [Array.length_toList]
        change bytes.size ≤ i
        omega
      rw [ByteArray.toList.loop, if_neg (by omega), List.drop_eq_nil_of_le past, List.append_nil]
  | succ n ih =>
      have inside : i < bytes.size := by omega
      have listed : i < bytes.data.toList.length := by
        rw [Array.length_toList]
        exact inside
      have next : bytes.get! i = bytes.data.toList[i] := by
        rw [Array.getElem_toList]
        exact getElem!_pos bytes.data i inside
      rw [ByteArray.toList.loop, if_pos inside, ih _ _ (by omega), List.reverse_cons,
        List.append_assoc, List.singleton_append, List.drop_eq_getElem_cons listed, next]

theorem toList_eq (bytes : ByteArray) : bytes.toList = bytes.data.toList := by
  rw [ByteArray.toList, toList_loop, List.reverse_nil, List.nil_append, List.drop_zero]

/-- A text is read back from its bytes. -/
theorem text?_ofText (s : String) : text? (ofText s) = some s := by
  have bytes : ByteArray.mk (ofText s).toArray = s.toByteArray := by
    rw [ofText, toList_eq]
    rfl
  rw [text?, bytes, String.fromUTF8?, dif_pos s.isValidUTF8]
  rfl

/-- A word is read back from its bytes. -/
theorem word_ofWord (n : UInt32) :
    word n.toUInt8 (n >>> 8).toUInt8 (n >>> 16).toUInt8 (n >>> 24).toUInt8 = n := by
  rw [← UInt32.toBitVec_inj]
  ext i inside
  simp only [word, UInt32.toBitVec_or, UInt32.toBitVec_shiftLeft, UInt8.toBitVec_toUInt32,
    UInt32.toBitVec_toUInt8, UInt32.toBitVec_shiftRight]
  rw [← BitVec.getLsbD_eq_getElem, ← BitVec.getLsbD_eq_getElem]
  -- A bit comes from the byte in which it stands.
  have place : i < 8 ∨ 8 ≤ i ∧ i < 16 ∨ 16 ≤ i ∧ i < 24 ∨ 24 ≤ i := by omega
  rcases place with first | ⟨low, high⟩ | ⟨low, high⟩ | low
  · have second : i < 16 := by omega
    have third : i < 24 := by omega
    simp [first, second, third, inside]
  · have offset : i - 8 < 8 := by omega
    have back : 8 + (i - 8) = i := by omega
    have third : i < 24 := by omega
    simp [Nat.not_lt.mpr low, high, third, offset, back, inside]
  · have offset : i - 16 < 8 := by omega
    have back : 16 + (i - 16) = i := by omega
    have first : ¬ i < 8 := by omega
    have second : ¬ i - 8 < 8 := by omega
    simp [Nat.not_lt.mpr low, high, first, second, offset, back, inside]
  · have offset : i - 24 < 8 := by omega
    have back : 24 + (i - 24) = i := by omega
    have first : ¬ i < 8 := by omega
    have second : ¬ i - 8 < 8 := by omega
    have third : ¬ i - 16 < 8 := by omega
    simp [Nat.not_lt.mpr low, first, second, third, offset, back, inside]

/-- A word has the bytes that it was made of. -/
theorem ofWord_word (a b c d : UInt8) : ofWord (word a b c d) = [a, b, c, d] := by
  have past (byte : UInt8) {i : Nat} (high : 8 ≤ i) : byte.toBitVec.getLsbD i = false :=
    BitVec.getLsbD_of_ge _ i high
  simp only [ofWord, List.cons.injEq, and_true]
  refine ⟨?_, ?_, ?_, ?_⟩ <;> rw [← UInt8.toBitVec_inj] <;> ext i inside <;>
    simp only [word, UInt32.toBitVec_or, UInt32.toBitVec_shiftLeft, UInt8.toBitVec_toUInt32,
      UInt32.toBitVec_toUInt8, UInt32.toBitVec_shiftRight] <;>
    rw [← BitVec.getLsbD_eq_getElem, ← BitVec.getLsbD_eq_getElem]
  · simp [inside]
  · have second : 8 + i < 16 := by omega
    have third : 8 + i < 24 := by omega
    have whole : 8 + i < 32 := by omega
    have low : i < 32 := by omega
    simp [inside, second, third, whole, low]
  · have second : ¬16 + i < 8 := by omega
    have third : 16 + i < 24 := by omega
    have whole : 16 + i < 32 := by omega
    have low : i < 32 := by omega
    simp [inside, second, third, whole, low, past a (show 8 ≤ 16 + i by omega),
      past b (show 8 ≤ 16 + i - 8 by omega)]
  · have whole : 24 + i < 32 := by omega
    have low : i < 32 := by omega
    simp [inside, whole, low, past a (show 8 ≤ 24 + i by omega),
      past b (show 8 ≤ 24 + i - 8 by omega), past c (show 8 ≤ 24 + i - 16 by omega)]

theorem takeExactly?_append (front rest : Bytes) :
    takeExactly? front.length (front ++ rest) = some (front, rest) := by
  simp [takeExactly?]

theorem takeExactly?_of_short {count : Nat} {bytes : Bytes} (short : bytes.length < count) :
    takeExactly? count bytes = none := by
  rw [takeExactly?, List.take_of_length_le short.le, if_neg short.ne]

end Bytes

/-! ## Frames -/

namespace Frame

variable {payload bytes rest : Bytes}

theorem checkPayload_append (payload rest : Bytes) :
    checkPayload payload (Bytes.ofWord (Checksum.ofBytes payload) ++ rest) =
      .ok (payload, rest) := by
  simp only [Bytes.ofWord, List.cons_append, List.nil_append, checkPayload, Bytes.word_ofWord,
    if_true]

theorem checkPayload_eq_ok_iff {read : Bytes} :
    checkPayload payload bytes = .ok (read, rest) ↔
      read = payload ∧ bytes = Bytes.ofWord (Checksum.ofBytes payload) ++ rest := by
  constructor
  · intro checked
    unfold checkPayload at checked
    split at checked
    · rename_i a b c d tail
      simp only at checked
      split at checked
      · rename_i same
        simp only [Except.ok.injEq, Prod.mk.injEq] at checked
        obtain ⟨rfl, rfl⟩ := checked
        rw [← same, Bytes.ofWord_word]
        exact ⟨rfl, rfl⟩
      · cases checked
    · cases checked
  · rintro ⟨rfl, rfl⟩
    exact checkPayload_append read rest

theorem encode_eq_ok :
    encode payload = .ok bytes ↔ payload.length ≤ lengthLimit ∧
      bytes = version :: Bytes.ofWord (UInt32.ofNat payload.length) ++ payload ++
        Bytes.ofWord (Checksum.ofBytes payload) := by
  unfold encode
  split
  · rename_i long
    simp [Nat.not_le.mpr long]
  · rename_i short
    simp [Nat.not_lt.mp short, eq_comm]

theorem length_of_encode (framed : encode payload = .ok bytes) :
    bytes.length = payload.length + 9 := by
  obtain ⟨-, rfl⟩ := encode_eq_ok.mp framed
  simp [Bytes.ofWord]

/-- The length of a document that is not too long is a word. -/
theorem toNat_length (short : payload.length ≤ lengthLimit) :
    (UInt32.ofNat payload.length).toNat = payload.length := by
  apply UInt32.toNat_ofNat_of_lt'
  have limit : lengthLimit = 67108864 := rfl
  have words : UInt32.size = 4294967296 := rfl
  omega

/-- After its version and the length of a document a frame is read as far as the document goes. -/
theorem read_of_length (short : payload.length ≤ lengthLimit) (tail : Bytes) :
    read (version :: Bytes.ofWord (UInt32.ofNat payload.length) ++ tail) =
      match Bytes.takeExactly? payload.length tail with
      | none => .error .endOfFile
      | some (found, rest) => checkPayload found rest := by
  cases taken : Bytes.takeExactly? payload.length tail <;>
    simp only [read, Bytes.ofWord, List.cons_append, List.nil_append, ne_eq, not_true_eq_false,
      if_false, Bytes.word_ofWord, toNat_length short, Nat.not_lt.mpr short, taken]

/-- A frame is read back, whatever follows it. -/
theorem read_append (framed : encode payload = .ok bytes) (rest : Bytes) :
    read (bytes ++ rest) = .ok (payload, rest) := by
  obtain ⟨short, rfl⟩ := encode_eq_ok.mp framed
  rw [List.append_assoc, List.append_assoc, read_of_length short, Bytes.takeExactly?_append]
  exact checkPayload_append payload rest

/-- What is read are frames and nothing else. -/
theorem read_eq_ok : read bytes = .ok (payload, rest) ↔
    ∃ frame, encode payload = .ok frame ∧ bytes = frame ++ rest := by
  constructor
  · intro framed
    unfold read at framed
    split at framed
    · cases framed
    · rename_i found tail
      split at framed
      · cases framed
      · rename_i same
        split at framed
        · rename_i a b c d tail
          simp only at framed
          split at framed
          · cases framed
          · rename_i short
            split at framed
            · cases framed
            · rename_i front after taken
              obtain ⟨size, rfl⟩ := Bytes.takeExactly?_eq_some taken
              obtain ⟨rfl, rfl⟩ := checkPayload_eq_ok_iff.mp framed
              have word : UInt32.ofNat payload.length = Bytes.word a b c d := by
                rw [size, UInt32.ofNat_toNat]
              refine ⟨_, encode_eq_ok.mpr ⟨by omega, rfl⟩, ?_⟩
              rw [word, Bytes.ofWord_word]
              simp at same
              simp [same]
        · cases framed
  · rintro ⟨frame, framed, rfl⟩
    exact read_append framed rest

theorem checkPayload_of_short (payload : Bytes) (short : bytes.length < 4) :
    checkPayload payload bytes = .error .endOfFile := by
  unfold checkPayload
  split
  · simp only [List.length_cons] at short
    omega
  · rfl

/-- A frame that is cut off ends too soon. -/
theorem read_take {frame : Bytes} (framed : encode payload = .ok frame) {count : Nat}
    (short : count < frame.length) : read (frame.take count) = .error .endOfFile := by
  rw [length_of_encode framed] at short
  obtain ⟨fits, rfl⟩ := encode_eq_ok.mp framed
  match count with
  | 0 | 1 | 2 | 3 | 4 => simp [read, Bytes.ofWord]
  | left + 5 =>
      have size : (version :: Bytes.ofWord (UInt32.ofNat payload.length)).length = 5 := rfl
      rw [List.append_assoc, Nat.add_comm, ← size, List.take_length_add_append,
        read_of_length fits]
      by_cases within : left < payload.length
      · rw [Bytes.takeExactly?_of_short (by rw [List.length_take]; omega)]
      · obtain ⟨more, rfl⟩ := Nat.exists_eq_add_of_le (Nat.not_lt.mp within)
        rw [List.take_length_add_append, Bytes.takeExactly?_append]
        refine checkPayload_of_short payload ?_
        rw [List.length_take]
        omega

theorem afterHeader_header (rest : Bytes) : afterHeader (header ++ rest) = .ok rest := by
  have taken := Bytes.takeExactly?_append mark (version :: rest)
  have whole : header ++ rest = mark ++ version :: rest := by simp [header]
  have size : mark.length = 4 := rfl
  rw [size] at taken
  rw [whole, afterHeader, taken]
  simp

/-- What follows a header is all that there is. -/
theorem afterHeader_eq_ok : afterHeader bytes = .ok rest ↔ bytes = header ++ rest := by
  refine ⟨fun begun => ?_, fun same => same ▸ afterHeader_header rest⟩
  unfold afterHeader at begun
  split at begun
  · cases begun
  · rename_i found tail taken
    obtain ⟨-, rfl⟩ := Bytes.takeExactly?_eq_some taken
    split at begun
    · cases begun
    · rename_i marked
      obtain rfl : found = mark := not_not.mp marked
      split at begun
      · cases begun
      · split at begun
        · rename_i current
          cases begun
          simp [header, current]
        · cases begun

/-! ## Documents -/

variable {α : Type} {decode : Decoder α} {document : Json} {value : α}

/-- A document is read back as its echo, unless it nests too deep. -/
theorem decodePayload_eq_ok (fits : document.IntsFit) :
    decodePayload decode (Bytes.ofText document.compact) = .ok value ↔
      document.depth ≤ Json.nestingLimit ∧ decode document.echo = .ok value := by
  rw [decodePayload, Bytes.text?_ofText, Option.bind_some, Json.scan?_compact fits]
  split
  · rename_i missing
    split at missing
    · simp at missing
    · rename_i deep
      simp [deep]
  · rename_i read found
    split at found
    · rename_i flat
      obtain rfl := Option.some.inj found
      cases decode document.echo <;> simp [flat]
    · simp at found

/-- What is decoded from a text is decoded from its document. -/
theorem exists_of_decodePayload {payload : Bytes}
    (decoded : decodePayload decode payload = .ok value) :
    ∃ document, decode document = .ok value := by
  unfold decodePayload at decoded
  split at decoded
  · cases decoded
  · rename_i document _
    cases read : decode document with
    | ok found =>
        simp only [read, Except.ok.injEq] at decoded
        exact ⟨document, decoded ▸ read⟩
    | error fault => simp [read] at decoded

theorem decodeFile_of_fileOfJson (written : fileOfJson document = .ok bytes) :
    decodeFile decode bytes = decodePayload decode (Bytes.ofText document.compact) := by
  unfold fileOfJson ofJson at written
  cases framed : encode (Bytes.ofText document.compact) with
  | error fault => simp [framed, Except.map] at written
  | ok frame =>
      simp only [framed, Except.map, Except.ok.injEq] at written
      have read := read_append framed []
      rw [List.append_nil] at read
      subst written
      cases decoded : decodePayload decode (Bytes.ofText document.compact) <;>
        simp [decodeFile, Frame.decode, afterHeader_header, read, decoded, bind, Except.bind, pure,
          Except.pure]

/-- A document fits a frame, and its text is decoded to a value. -/
structure Holds (decode : Decoder α) (document : Json) (value : α) : Prop where
  /-- The text of the document is not too long. -/
  short : (Bytes.ofText document.compact).length ≤ lengthLimit
  /-- The text is decoded to the value. -/
  decoded : decodePayload decode (Bytes.ofText document.compact) = .ok value

theorem Holds.exists_frame (holds : Holds decode document value) :
    ∃ frame, ofJson document = .ok frame ∧
      frame.length = (Bytes.ofText document.compact).length + 9 ∧
      ∀ rest, read (frame ++ rest) = .ok (Bytes.ofText document.compact, rest) := by
  have framed := encode_eq_ok.mpr ⟨holds.short, rfl⟩
  exact ⟨_, framed, length_of_encode framed, read_append framed⟩

theorem Holds.exists_file (holds : Holds decode document value) :
    ∃ bytes, fileOfJson document = .ok bytes ∧ decodeFile decode bytes = .ok value := by
  obtain ⟨frame, framed, -, -⟩ := holds.exists_frame
  have written : fileOfJson document = .ok (header ++ frame) := by
    rw [fileOfJson, framed]
    rfl
  exact ⟨_, written, (decodeFile_of_fileOfJson written).trans holds.decoded⟩

end Frame

end ShelfLibrary
