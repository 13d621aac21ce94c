import ShelfLibrary.Disk.Journal
import ShelfLibrary.Proofs.Filter
import ShelfLibrary.Proofs.Frame
import ShelfLibrary.Proofs.Shape
import ShelfLibrary.Proofs.Tagged

/-!
# Entries of journals that are read back

The document of a change is decoded as the change, provided that the location in it could have been
made.  The entry of such a change is read back from every frame that can be made of it.
-/

namespace ShelfLibrary

/-! ## Changes -/

/-- Whether a location is one that can be made. -/
structure Location.IsMade (location : Location) : Prop where
  /-- Its path is not blank. -/
  path : Text.isBlankText location.path = false
  /-- Its key is not blank. -/
  key : Text.isBlankText location.key = false

theorem Location.make_eq {location : Location} (made : location.IsMade) :
    make location.path location.key = .ok location := by
  simp [make, made.path, made.key]

/-- Whether the location in a change, if there is one, can be made. -/
def Delta.IsMade : Delta → Prop
  | .put _ entry => entry.location.IsMade
  | .update _ entry => entry.location.IsMade
  | .remove _ => True
  | .clear => True

theorem Location.decode_toJson {location : Location} (made : location.IsMade)
    (surplus : Nat → Nat → DecodeError) :
    Location.decodeWith surplus location.toJson.echo = .ok location := by
  have read : Location.shape.decoderWith surplus "LocationFields" false location.toJson.echo =
      .ok (location.path, location.key, ()) :=
    (Shape.decoder_members rfl (by decide)).mpr ⟨rfl, rfl, trivial⟩
  simp only [decodeWith, Decoder.refining, read, bind, Except.bind, make_eq made, pure, Except.pure]

theorem Entry.decode_toJson {entry : Entry} (made : entry.location.IsMade)
    (surplus : Nat → Nat → DecodeError) :
    Entry.decodeWith surplus entry.toJson.echo = .ok entry := by
  obtain ⟨kind, location⟩ := entry
  have inner := Location.decode_toJson made surplus
  have named : decodeKind (.text kind.name) = .ok kind := by cases kind <;> rfl
  simp only [toJson, Json.echo, Json.echoMembers]
  refine Result.bind_eq_ok.mpr ⟨(kind, location, ()), ?_, rfl⟩
  exact (Shape.decoder_members rfl (by simp [Shape.names])).mpr ⟨named, inner, trivial⟩

theorem Delta.decode_toJson {delta : Delta} (made : delta.IsMade) :
    Delta.decode delta.toJson.echo = .ok delta := by
  have walk {key : String} {entry : Entry} (made : entry.location.IsMade) (title : String) :
      entryShape.decoderWith Shape.otherLength title false
        (.object [("key", .text key), ("entry", entry.toJson.echo)]) = .ok (key, entry, ()) :=
    (Shape.decoder_members rfl (by decide)).mpr ⟨rfl, Entry.decode_toJson made _, trivial⟩
  have alone (key title : String) :
      keyShape.decoderWith Shape.otherLength title false (.object [("key", .text key)]) =
        .ok (key, ()) :=
    (Shape.decoder_members rfl (by decide)).mpr ⟨rfl, trivial⟩
  cases delta with
  | put key entry =>
    simp [decode, toJson, Json.echo, Json.echoMembers, Decoder.sole?, decodeName, names,
      decodeContent, decodeContent.read, bind, Except.bind, pure, Except.pure, walk made]
  | update key entry =>
    simp [decode, toJson, Json.echo, Json.echoMembers, Decoder.sole?, decodeName, names,
      decodeContent, decodeContent.read, bind, Except.bind, pure, Except.pure, walk made]
  | remove key =>
    simp [decode, toJson, Json.echo, Json.echoMembers, Decoder.sole?, decodeName, names,
      decodeContent, decodeContent.read, bind, Except.bind, pure, Except.pure, alone]
  | clear =>
    simp [decode, toJson, Json.echo, Json.echoMembers, Decoder.sole?, decodeName, names,
      decodeContent, bind, Except.bind]

theorem Delta.intsFit_toJson (delta : Delta) : delta.toJson.IntsFit := by
  cases delta <;> simp [toJson, Entry.toJson, Location.toJson, Json.IntsFit, Json.IntsFitMembers]

theorem Delta.depth_toJson (delta : Delta) : delta.toJson.depth ≤ 3 := by
  cases delta <;> simp [toJson, Entry.toJson, Location.toJson, Json.depth, Json.depthOfMembers]

/-! ## Entries -/

namespace JournalEntry

variable {entry : JournalEntry}

/-- Whether an entry is one that can be made: its change can, and its moment and its number are such
as are stored. -/
structure IsMade (entry : JournalEntry) : Prop where
  /-- The location in the change can be made. -/
  delta : entry.delta.IsMade
  /-- The moment is one that is read back. -/
  moment : entry.moment.IsStandard
  /-- The number has 64 bits. -/
  sequence : entry.sequence < 2 ^ 64

theorem isStandard_stamp : stamp.IsStandard := by
  have moment : stamp = ⟨1704067200, 123456789⟩ := by decide +kernel
  rw [moment]
  exact ⟨by decide +kernel, by decide +kernel, .inl (by decide)⟩

theorem decodeInstant_zuluText {moment : Instant} (standard : moment.IsStandard) :
    Value.decodeInstant (.text moment.zuluText) = .ok moment := by
  simp only [Value.decodeInstant, Instant.ofRelaxed_zuluText standard]

theorem nat64_int {sequence : Nat} (counted : sequence < 2 ^ 64) :
    Decoder.nat64 "u64" (.int sequence) = .ok sequence := by
  rw [Decoder.nat64, if_pos (by simp only [Bool.and_eq_true, decide_eq_true_eq]; omega)]
  rfl

theorem decode_toJson (made : entry.IsMade) : decode entry.toJson.echo = .ok entry := by
  simp only [toJson, Json.echo, Json.echoMembers]
  refine Result.bind_eq_ok.mpr ⟨(entry.sequence, entry.moment, entry.delta, ()), ?_, rfl⟩
  refine (Shape.decoder_members rfl (by decide)).mpr ⟨nat64_int made.sequence, ?_, ?_, trivial⟩
  · exact decodeInstant_zuluText made.moment
  · exact Delta.decode_toJson made.delta

/-- The text of an entry is decoded to the entry. -/
theorem decodePayload_toJson (made : entry.IsMade) :
    Frame.decodePayload decode (Bytes.ofText entry.toJson.compact) = .ok entry := by
  have counted := made.sequence
  have whole : Json.isWholeRange (entry.sequence : Int) = true := by
    simp only [Json.isWholeRange, Bool.and_eq_true, decide_eq_true_eq]
    omega
  have fits : entry.toJson.IntsFit := by
    simp [toJson, Json.IntsFit, Json.IntsFitMembers, entry.delta.intsFit_toJson, whole]
  refine (Frame.decodePayload_eq_ok fits).mpr ⟨?_, decode_toJson made⟩
  have flat := entry.delta.depth_toJson
  simp only [toJson, Json.depth, Json.depthOfMembers, Json.nestingLimit]
  omega

end JournalEntry

/-! ## What is decoded -/

theorem Location.isMade_of_make {path key : String} {location : Location}
    (made : make path key = .ok location) : location.IsMade := by
  unfold make at made
  split at made
  · cases made
  · rename_i named
    split at made
    · cases made
    · rename_i keyed
      obtain rfl := Except.ok.inj made
      exact ⟨by simpa using named, by simpa using keyed⟩

theorem Entry.isMade_of_decode {surplus : Nat → Nat → DecodeError} {found : Json} {entry : Entry}
    (decoded : Entry.decodeWith surplus found = .ok entry) : entry.location.IsMade := by
  obtain ⟨⟨kind, location, ⟨⟩⟩, read, same⟩ := Result.bind_eq_ok.mp decoded
  obtain rfl := Except.ok.inj same
  obtain ⟨-, from_, -⟩ := Shape.isFilledFrom_of_decoderWith read
  obtain ⟨inner, -, located⟩ := from_.resolve_right (by rintro ⟨⟩)
  obtain ⟨⟨path, key, ⟨⟩⟩, -, made⟩ := Decoder.refining_eq_ok located
  exact Location.isMade_of_make made

/-- A change that is decoded can be made. -/
theorem Delta.isMade_of_decode {found : Json} {delta : Delta} (decoded : decode found = .ok delta) :
    delta.IsMade := by
  have walked {title : String} {found : Json} {key : String} {entry : Entry}
      (read : decodeContent.read found entryShape title = .ok (key, entry, ())) :
      entry.location.IsMade := by
    obtain ⟨-, from_, -⟩ := Shape.isFilledFrom_of_decoderWith read
    obtain ⟨inner, -, located⟩ := from_.resolve_right (by rintro ⟨⟩)
    exact Entry.isMade_of_decode located
  have content {name : String} {found : Json} (decoded : decodeContent name found = .ok delta) :
      delta.IsMade := by
    unfold decodeContent at decoded
    split at decoded
    · obtain ⟨⟨key, entry, ⟨⟩⟩, read, same⟩ := Result.bind_eq_ok.mp decoded
      obtain rfl := Except.ok.inj same
      exact walked read
    · obtain ⟨⟨key, entry, ⟨⟩⟩, read, same⟩ := Result.bind_eq_ok.mp decoded
      obtain rfl := Except.ok.inj same
      exact walked read
    · obtain ⟨⟨key, ⟨⟩⟩, read, same⟩ := Result.bind_eq_ok.mp decoded
      obtain rfl := Except.ok.inj same
      trivial
    · obtain rfl := Except.ok.inj decoded
      trivial
  unfold decode at decoded
  split at decoded
  · obtain ⟨sole, -, onward⟩ := Result.bind_eq_ok.mp decoded
    cases sole with
    | none => cases onward
    | some tag =>
        obtain ⟨name, -, onward⟩ := Result.bind_eq_ok.mp onward
        exact content onward
  · cases decoded
  · obtain ⟨name, -, onward⟩ := Result.bind_eq_ok.mp decoded
    exact content onward
  · cases decoded

/-- The change of an entry that is decoded can be made. -/
theorem JournalEntry.isMade_of_decode {found : Json} {entry : JournalEntry}
    (decoded : decode found = .ok entry) : entry.delta.IsMade := by
  obtain ⟨⟨sequence, moment, delta, ⟨⟩⟩, read, same⟩ := Result.bind_eq_ok.mp decoded
  obtain rfl := Except.ok.inj same
  obtain ⟨-, -, third, -⟩ := Shape.isFilledFrom_of_decoderWith read
  obtain ⟨change, -, made⟩ := third.resolve_right (by rintro ⟨⟩)
  exact Delta.isMade_of_decode made

end ShelfLibrary
