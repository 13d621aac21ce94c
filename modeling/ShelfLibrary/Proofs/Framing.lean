import ShelfLibrary.Proofs.Entries

/-!
# Frames one after another

A frame tells where it ends.  It is read back without a look at what follows it, no beginning of it
is taken for a frame, and frames that are written one after another are told apart again.
-/

namespace ShelfLibrary.Frame

variable {α : Type} {write : α → Json} {decoder : Decoder α} {document : Json} {value : α}
  {bytes frame front payload rest : Bytes} {fault : FrameFault}

/-- The length that stands in a frame after its version. -/
def lengthField? : Bytes → Option Nat
  | _ :: a :: b :: c :: d :: _ => some (Bytes.word a b c d).toNat
  | _ => none

/-- The length in a frame is that of the document, however long it is. -/
theorem lengthField?_of_encode (framed : encode payload = .ok frame) :
    lengthField? frame = some payload.length := by
  obtain ⟨short, rfl⟩ := encode_eq_ok.mp framed
  simp only [Bytes.ofWord, List.cons_append, lengthField?, Bytes.word_ofWord, toNat_length short]

theorem ofJson_of_long (long : lengthLimit < (Bytes.ofText document.compact).length) :
    ofJson document = .error (.tooLong (Bytes.ofText document.compact).length) :=
  if_pos long

/-! ## One frame -/

theorem length_of_decode (decoded : decode decoder bytes = .ok (value, rest)) :
    rest.length < bytes.length := by
  obtain ⟨⟨payload, left⟩, framed, whole⟩ := Result.bind_eq_ok.mp decoded
  obtain ⟨_, -, same⟩ := Result.bind_eq_ok.mp whole
  obtain ⟨-, rfl⟩ := Prod.mk.inj (Except.ok.inj same)
  have length := length_of_read framed
  omega

theorem decode_of_read_error (unread : read bytes = .error fault) :
    decode decoder bytes = .error fault := by
  rw [decode, unread]
  rfl

/-- A value is read back from its frame, and what follows the frame is left. -/
theorem Holds.decode_append (holds : Holds decoder document value)
    (framed : ofJson document = .ok frame) (rest : Bytes) :
    decode decoder (frame ++ rest) = .ok (value, rest) :=
  Result.bind_eq_ok.mpr
    ⟨_, read_append framed rest, Result.bind_eq_ok.mpr ⟨value, holds.decoded, rfl⟩⟩

/-- A beginning of a frame ends too soon, whatever is to be read. -/
theorem decode_of_isPrefix (framed : ofJson document = .ok frame) (begins : front <+: frame)
    (torn : front ≠ frame) : decode decoder front = .error .endOfFile := by
  have short : front.length < frame.length :=
    lt_of_le_of_ne begins.length_le fun same => torn (begins.eq_of_length same)
  rw [List.prefix_iff_eq_take.mp begins]
  exact decode_of_read_error (read_take framed short)

/-! ## Frames one after another -/

/-- The values that a decoder reads off frames one after another, and the fault at which it stops. -/
def decodeAll (decoder : Decoder α) (bytes : Bytes) : List α × FrameFault :=
  match _decoded : decode decoder bytes with
  | .error fault => ([], fault)
  | .ok (value, rest) =>
    let (values, fault) := decodeAll decoder rest
    (value :: values, fault)
termination_by bytes.length
decreasing_by exact length_of_decode _decoded

theorem decodeAll_of_error (failed : decode decoder bytes = .error fault) :
    decodeAll decoder bytes = ([], fault) := by
  unfold decodeAll
  split
  · rename_i decoded
    rw [failed] at decoded
    rw [Except.error.inj decoded]
  · rename_i decoded
    rw [failed] at decoded
    cases decoded

theorem decodeAll_of_ok (decoded : decode decoder bytes = .ok (value, rest)) :
    decodeAll decoder bytes =
      (value :: (decodeAll decoder rest).1, (decodeAll decoder rest).2) := by
  rw [decodeAll]
  split
  · rename_i failed
    rw [decoded] at failed
    cases failed
  · rename_i also
    rw [decoded] at also
    obtain ⟨rfl, rfl⟩ := Prod.mk.inj (Except.ok.inj also)
    rfl

/-- Frames one after another are told apart. -/
theorem exists_frames {values : List α}
    (hold : ∀ value ∈ values, Holds decoder (write value) value) :
    ∃ frames, values.mapM (fun value => ofJson (write value)) = .ok frames ∧
      ∀ rest, decodeAll decoder (frames.flatten ++ rest) =
        (values ++ (decodeAll decoder rest).1, (decodeAll decoder rest).2) := by
  -- What follows is any bytes, so that the later frames are what follows the first one.
  induction values with
  | nil => exact ⟨[], rfl, fun rest => rfl⟩
  | cons value others ih =>
      have holds := hold value List.mem_cons_self
      obtain ⟨frame, framed, -⟩ := holds.exists_frame
      obtain ⟨frames, written, apart⟩ := ih fun other member =>
        hold other (List.mem_cons_of_mem value member)
      refine ⟨frame :: frames, ?_, fun rest => ?_⟩
      · rw [List.mapM_cons]
        exact Result.bind_eq_ok.mpr ⟨frame, framed, Result.bind_eq_ok.mpr ⟨frames, written, rfl⟩⟩
      · rw [List.flatten_cons, List.append_assoc,
          decodeAll_of_ok (holds.decode_append framed (frames.flatten ++ rest)), apart,
          List.cons_append]

/-- A document that is too long has no frame.  In a frame stands the length that its document has.  A
value that fits a frame is read back from it whatever follows, and what follows is left; a beginning
of the frame ends too soon.  Values in frames one after another are read back as they are. -/
theorem framing_exact (write : α → Json) (decoder : Decoder α) :
    (∀ value, lengthLimit < (Bytes.ofText (write value).compact).length →
      ofJson (write value) = .error (.tooLong (Bytes.ofText (write value).compact).length)) ∧
    (∀ payload frame, encode payload = .ok frame → lengthField? frame = some payload.length) ∧
    (∀ value, Holds decoder (write value) value → ∃ frame, ofJson (write value) = .ok frame ∧
      (∀ rest, decode decoder (frame ++ rest) = .ok (value, rest)) ∧
      ∀ front, front <+: frame → front ≠ frame → decode decoder front = .error .endOfFile) ∧
    ∀ values, (∀ value ∈ values, Holds decoder (write value) value) →
      ∃ frames, values.mapM (fun value => ofJson (write value)) = .ok frames ∧
        decodeAll decoder frames.flatten = (values, .endOfFile) := by
  refine ⟨fun value => ofJson_of_long, fun payload frame => lengthField?_of_encode,
    fun value holds => ?_, fun values hold => ?_⟩
  · obtain ⟨frame, framed, -⟩ := holds.exists_frame
    exact ⟨frame, framed, holds.decode_append framed, fun front => decode_of_isPrefix framed⟩
  · obtain ⟨frames, written, apart⟩ := exists_frames hold
    refine ⟨frames, written, ?_⟩
    have empty : decodeAll decoder [] = ([], .endOfFile) :=
      decodeAll_of_error (decode_of_read_error rfl)
    have whole := apart []
    rwa [List.append_nil, empty, List.append_nil] at whole

/-- Two changes of a journal, of which the first is read back with a byte after its frame, but not
without the last byte of it, are read back one after the other. -/
theorem framing_exact_changes :
    let first : JournalEntry := .number 1 (.put "a" (.ofShelf "a"))
    let second : JournalEntry := .number 2 (.remove "a")
    (∀ entry ∈ [first, second], Holds JournalEntry.decode entry.toJson entry) ∧
      (∃ frame, first.encode = .ok frame ∧
        decode JournalEntry.decode (frame ++ [1]) = .ok (first, [1]) ∧
        decode JournalEntry.decode frame.dropLast = .error .endOfFile) ∧
      ∃ frames, [first, second].mapM JournalEntry.encode = .ok frames ∧
        decodeAll JournalEntry.decode frames.flatten = ([first, second], .endOfFile) := by
  intro first second
  have hold : ∀ entry ∈ [first, second], Holds JournalEntry.decode entry.toJson entry := by
    refine List.forall_mem_cons.mpr
      ⟨⟨by decide +kernel, ?_⟩, List.forall_mem_singleton.mpr ⟨by decide +kernel, ?_⟩⟩
    · exact JournalEntry.decodePayload_toJson
        ⟨⟨by decide +kernel, by decide +kernel⟩, JournalEntry.isStandard_stamp, by decide⟩
    · exact JournalEntry.decodePayload_toJson
        ⟨trivial, JournalEntry.isStandard_stamp, by decide⟩
  obtain ⟨-, -, one, several⟩ := framing_exact JournalEntry.toJson JournalEntry.decode
  obtain ⟨frame, framed, onward, torn⟩ := one first (hold first (by simp))
  refine ⟨hold, ⟨frame, framed, onward [1], torn _ (List.dropLast_prefix frame) fun same => ?_⟩,
    several [first, second] hold⟩
  have taken := length_of_decode (onward [])
  have length := congrArg List.length same
  rw [List.length_dropLast] at length
  rw [List.append_nil, List.length_nil] at taken
  omega

end ShelfLibrary.Frame
