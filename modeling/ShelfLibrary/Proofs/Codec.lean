import ShelfLibrary.Filter.Decode
import ShelfLibrary.Proofs.Decoder
import ShelfLibrary.Proofs.Scan

/-!
# Decoders that read what is written

A document gives a value within a limit if it can be written, nests no deeper than the limit and,
once its members are in key order, is decoded as the value.  Whatever a decoder reads off a document
that has been read is given by what is written of it, within the limit of the first document.
-/

namespace ShelfLibrary

namespace Json

variable {ε α : Type} {json : Json} {decode : Json → Except ε α} {value : α} {limit : Nat}

/-- Whether a document, once written and read, is decoded as a value, and nests no deeper than a
limit. -/
structure Gives (json : Json) (decode : Json → Except ε α) (value : α) (limit : Nat) : Prop where
  /-- Its numbers are read back, and its keys are different. -/
  proper : json.IsProper
  /-- It nests no deeper. -/
  depth_le : json.depth ≤ limit
  /-- It is decoded as the value, its members in key order. -/
  reads : decode json.inKeyOrder = .ok value

/-- A document that has been read gives what is decoded of it. -/
theorem IsRead.gives (read : json.IsRead limit) (decoded : decode json = .ok value) :
    json.Gives decode value limit :=
  ⟨read.proper, read.depth_le, read.ordered.symm ▸ decoded⟩

/-- What stands in an array or an object that has been read nests less deep. -/
theorem IsRead.inner (read : json.IsRead limit) (deep : 0 < json.depth) :
    ∃ inner, limit = inner + 1 ∧ ∀ child : Json, child.HasChild json → child.IsRead inner := by
  obtain ⟨inner, rfl⟩ := Nat.exists_eq_succ_of_ne_zero (deep.trans_le read.depth_le).ne'
  exact ⟨inner, rfl, fun _ inside => read.child inside⟩

/-- Whether a document gives a value to every decoder with the fuel that its depth asks for. -/
def GivesDeep (json : Json) (decode : Nat → Json → Except ε α) (value : α) (limit : Nat) : Prop :=
  ∀ fuel, json.depth < fuel → json.Gives (decode fuel) value limit

theorem GivesDeep.self {decode : Nat → Json → Except ε α}
    (given : json.GivesDeep decode value limit) :
    json.Gives (decode (json.depth + 1)) value limit :=
  given _ (Nat.lt_succ_self _)

/-- What a document gives with fuel it gives to the decoder that takes its fuel from the depth. -/
theorem GivesDeep.gives {decode : Nat → Json → Except ε α}
    (given : json.GivesDeep decode value limit) :
    json.Gives (fun found => decode (found.depth + 1) found) value limit := by
  obtain ⟨proper, shallow, reads⟩ := given.self
  refine ⟨proper, shallow, ?_⟩
  rw [← proper.depth_inKeyOrder] at reads
  exact reads

/-- A name beside content is in key order if the content is, and the names of the two are. -/
theorem inKeyOrder_pair {tag content : String} (order : tag < content) (kind : String)
    (inner : Json) : (Json.object [(tag, .text kind), (content, inner)]).inKeyOrder =
      .object [(tag, .text kind), (content, inner.inKeyOrder)] := by
  rw [inKeyOrder_object]
  exact congrArg Json.object (Table.ofEntries_of_sorted (List.pairwise_pair.mpr order))

theorem writable_pair {tag content : String} (order : tag < content) (kind : String) {inner : Json}
    (proper : inner.IsProper) (shallow : inner.depth ≤ limit) :
    (Json.object [(tag, .text kind), (content, inner)]).IsProper ∧
      (Json.object [(tag, .text kind), (content, inner)]).depth ≤ limit + 1 := by
  have different : tag ≠ content := fun same => lt_irrefl _ (same ▸ order)
  constructor
  · simp [isProper_object_iff, different, proper]
  · simp [depth, depthOfMembers, shallow]

end Json

namespace Decoder

variable {α β : Type} {decode : Decoder α} {write : α → Json} {limit : Nat}

/-- Whether whatever a decoder reads is given by what is written of it, within the same limit. -/
def Returns (decode : Decoder α) (write : α → Json) : Prop :=
  ∀ ⦃found value limit⦄, Json.IsRead found limit → decode found = .ok value →
    (write value).Gives decode value limit

/-- Whether a decoder reads no value off `null`. -/
def RejectsNull (decode : Decoder α) : Prop :=
  ∀ value, decode .null ≠ .ok value

/-! ## Texts, truth values and numbers -/

theorem gives_text (value : String) (limit : Nat) : (Json.text value).Gives text value limit :=
  ⟨trivial, Nat.zero_le _, rfl⟩

theorem gives_bool (value : Bool) (limit : Nat) : (Json.bool value).Gives bool value limit :=
  ⟨trivial, Nat.zero_le _, rfl⟩

theorem returns_text : text.Returns Json.text :=
  fun _ value limit _ _ => gives_text value limit

theorem rejectsNull_text : text.RejectsNull := by
  rintro value ⟨⟩

theorem rejectsNull_nat64 (title : String) : (nat64 title).RejectsNull := by
  rintro value ⟨⟩

theorem returns_nat64 (title : String) : (nat64 title).Returns fun n => .int n := by
  intro found n limit read decoded
  cases found with
  | int m =>
      simp only [nat64] at decoded
      split at decoded
      · rename_i fits
        obtain rfl := Except.ok.inj decoded
        have same : ((m.toNat : Nat) : Int) = m := by
          simp only [Bool.and_eq_true, decide_eq_true_eq] at fits
          omega
        simp only [same]
        exact read.gives (if_pos fits)
      · cases decoded
  | _ => cases decoded

/-! ## Lists -/

theorem exists_of_mapM {items : List Json} {values : List α}
    (decoded : items.mapM decode = .ok values) {value : α} (member : value ∈ values) :
    ∃ item ∈ items, decode item = .ok value := by
  induction items generalizing values with
  | nil =>
      obtain rfl := Except.ok.inj decoded
      cases member
  | cons item rest ih =>
      rw [List.mapM_cons] at decoded
      obtain ⟨first, read, onward⟩ := Result.bind_eq_ok.mp decoded
      obtain ⟨others, later, same⟩ := Result.bind_eq_ok.mp onward
      obtain rfl := Except.ok.inj same
      rcases List.mem_cons.mp member with rfl | among
      · exact ⟨item, List.mem_cons_self, read⟩
      · obtain ⟨other, listed, read⟩ := ih later among
        exact ⟨other, List.mem_cons_of_mem _ listed, read⟩

/-- Each item of a list that is decoded has been read off an item of the array. -/
theorem list_eq_ok {found : Json} {values : List α} (read : found.IsRead limit)
    (decoded : list decode found = .ok values) :
    ∃ inner, limit = inner + 1 ∧
      ∀ value ∈ values, ∃ item : Json, item.IsRead inner ∧ decode item = .ok value := by
  cases found with
  | list items =>
      obtain ⟨inner, rfl, children⟩ := read.inner (Nat.succ_pos _)
      refine ⟨inner, rfl, fun value member => ?_⟩
      obtain ⟨item, listed, decoded⟩ := exists_of_mapM decoded member
      exact ⟨item, children item listed, decoded⟩
  | _ => cases decoded

/-- An array of documents gives the values that they give. -/
theorem gives_list {values : List α}
    (given : ∀ value ∈ values, (write value).Gives decode value limit) :
    (Json.list (values.map write)).Gives (list decode) values (limit + 1) where
  proper := Json.isProper_list_iff.mpr (List.forall_mem_map.mpr fun value listed =>
    (given value listed).proper)
  depth_le := Nat.succ_le_succ (Json.depthOfItems_le_iff.mpr
    (List.forall_mem_map.mpr fun value listed => (given value listed).depth_le))
  reads := by
    rw [Json.inKeyOrder_list, List.map_map]
    change (values.map (Json.inKeyOrder ∘ write)).mapM decode = .ok values
    induction values with
    | nil => rfl
    | cons value rest ih =>
        have first := (given value List.mem_cons_self).reads
        have others := ih fun other listed => given other (List.mem_cons_of_mem _ listed)
        rw [List.map_cons, List.mapM_cons, Function.comp_apply, first, others]
        rfl

theorem rejectsNull_list (decode : Decoder α) : (Decoder.list decode).RejectsNull := by
  rintro value ⟨⟩

theorem Returns.list (returns : decode.Returns write) :
    (list decode).Returns fun values => .list (values.map write) := by
  intro found values limit read decoded
  obtain ⟨inner, rfl, each⟩ := list_eq_ok read decoded
  refine gives_list fun value member => ?_
  obtain ⟨item, itemRead, itemDecoded⟩ := each value member
  exact returns itemRead itemDecoded

/-! ## Lists of documents -/

theorem list_any (documents : List Json) : list any (.list documents) = .ok documents := by
  change documents.mapM Except.ok = _
  induction documents with
  | nil => rfl
  | cons document rest ih =>
      rw [List.mapM_cons, ih]
      rfl

/-- Documents that are kept as they are have been read. -/
theorem list_any_eq_ok {found : Json} {documents : List Json} (read : found.IsRead limit)
    (decoded : list any found = .ok documents) :
    ∃ inner, limit = inner + 1 ∧ ∀ document ∈ documents, document.IsRead inner := by
  obtain ⟨inner, rfl, each⟩ := list_eq_ok read decoded
  refine ⟨inner, rfl, fun document member => ?_⟩
  obtain ⟨item, itemRead, same⟩ := each document member
  exact Except.ok.inj same ▸ itemRead

/-- An array of documents gives these in key order to a decoder that keeps them. -/
theorem gives_documents {values : List α}
    (writable : ∀ value ∈ values, (write value).IsProper ∧ (write value).depth ≤ limit) :
    (Json.list (values.map write)).Gives (list any) ((values.map write).map Json.inKeyOrder)
      (limit + 1) where
  proper := Json.isProper_list_iff.mpr (List.forall_mem_map.mpr fun value listed =>
    (writable value listed).1)
  depth_le := Nat.succ_le_succ (Json.depthOfItems_le_iff.mpr
    (List.forall_mem_map.mpr fun value listed => (writable value listed).2))
  reads := by rw [Json.inKeyOrder_list, list_any]

/-! ## Optional values -/

/-- A document that gives a value gives it as one that is there, if `null` gives none. -/
theorem gives_optional {json : Json} {value : α} (rejects : decode.RejectsNull)
    (given : json.Gives decode value limit) :
    json.Gives (optional decode) (some value) limit := by
  refine ⟨given.proper, given.depth_le, ?_⟩
  have reads := given.reads
  unfold optional
  split
  · rename_i isNull
    exact absurd (isNull ▸ reads) (rejects value)
  · rw [reads]
    rfl

/-! ## Alternatives -/

theorem mem_of_sole? {members : List (String × Json)} {key : String} {child : Json}
    (only : sole? members key = .ok (some child)) : (key, child) ∈ members := by
  unfold sole? at only
  split at only
  · cases only
  · rename_i other value filtered
    obtain rfl := Option.some.inj (Except.ok.inj only)
    have kept : (other, value) ∈ members.filter fun entry => entry.1 == key := by simp [filtered]
    obtain ⟨member, same⟩ := List.mem_filter.mp kept
    exact beq_iff_eq.mp same ▸ member
  · cases only

/-- What is read of an alternative is read of its kind, and of content directly in the document. -/
theorem adjacent_eq_ok {title tag content : String} {known : List String}
    {read : String → Option Json → Except DecodeError α} {found : Json} {value : α}
    (wasRead : found.IsRead limit)
    (decoded : adjacent title tag content known read found = .ok value) :
    ∃ inner kind child, limit = inner + 1 ∧ read kind child = .ok value ∧
      ∀ json ∈ child, json.IsRead inner := by
  unfold adjacent at decoded
  split at decoded
  · rename_i members
    obtain ⟨inner, rfl, children⟩ := wasRead.inner (Nat.succ_pos _)
    obtain ⟨tagged, -, decoded⟩ := Result.bind_eq_ok.mp decoded
    split at decoded
    · cases decoded
    · obtain ⟨kind, -, decoded⟩ := Result.bind_eq_ok.mp decoded
      obtain ⟨child, only, decoded⟩ := Result.bind_eq_ok.mp decoded
      refine ⟨inner, kind, child, rfl, decoded, ?_⟩
      rintro json rfl
      exact children json ⟨content, mem_of_sole? only⟩
  · cases decoded
  · obtain ⟨_, _, failed⟩ := Result.bind_eq_ok.mp decoded
    cases failed
  · rename_i first second surplus
    obtain ⟨inner, rfl, children⟩ := wasRead.inner (Nat.succ_pos _)
    obtain ⟨kind, -, paired⟩ := Result.bind_eq_ok.mp decoded
    obtain ⟨result, chosen, counted⟩ := Result.bind_eq_ok.mp paired
    split at counted
    · obtain rfl := Except.ok.inj counted
      refine ⟨inner, kind, some second, rfl, chosen, ?_⟩
      rintro json ⟨rfl⟩
      exact children second (List.mem_cons_of_mem _ List.mem_cons_self)
    · cases counted
  · cases decoded

theorem unit_eq_ok {title : String} {value read : α} {child : Option Json}
    (decoded : unit title value child = .ok read) : value = read := by
  unfold unit at decoded
  split at decoded
  · exact Except.ok.inj decoded
  · exact Except.ok.inj decoded
  · cases decoded

theorem required_eq_ok {content : String} {child : Option Json} {value : α}
    (decoded : required content decode child = .ok value) :
    ∃ found, child = some found ∧ decode found = .ok value := by
  cases child with
  | none => cases decoded
  | some found => exact ⟨found, rfl, decoded⟩

/-! ## Refinement -/

theorem gives_refining {make : α → Except ValidationError β} {json : Json} {value : α} {made : β}
    (given : json.Gives decode value limit) (accepted : make value = .ok made) :
    json.Gives (refining decode make) made limit := by
  refine ⟨given.proper, given.depth_le, ?_⟩
  unfold refining
  rw [given.reads]
  simp only [bind, Except.bind, accepted]
  rfl

end Decoder

/-! ## Shapes -/

namespace Shape

variable {α : Type} {αs : List Type} {decode : Decoder α} {limit : Nat}

/-- What a shape reads off a document that has been read comes from less deep in it. -/
theorem decoder_eq_ok {shape : Shape αs} {title : String} {closed : Bool} {found : Json}
    {values : Filled αs} (read : found.IsRead limit)
    (decoded : shape.decoder title closed found = .ok values) :
    ∃ inner, limit = inner + 1 ∧ shape.IsFilledFrom (fun child => child.IsRead inner) values := by
  have deep : 0 < found.depth := by
    cases found with
    | list _ => exact Nat.succ_pos _
    | object _ => exact Nat.succ_pos _
    | _ => cases decoded
  obtain ⟨inner, rfl, children⟩ := read.inner deep
  exact ⟨inner, rfl, (isFilledFrom_of_decoderWith decoded).mono children⟩

/-- Whether a member gives a value, or may stand for it where it is left out. -/
def IsGiven (decode : Decoder α) (absent : Option α) (limit : Nat) : Option Json → α → Prop
  | some json, value => json.Gives decode value limit
  | none, value => absent = some value

/-- Whether the members that are written for a shape, some of them left out, give its values. -/
def AreGiven (limit : Nat) :
    {αs : List Type} → Shape αs → List (String × Option Json) → Filled αs → Prop
  | _, .done, [], _ => True
  | _, .field name decode absent rest, (key, member) :: members, (value, values) =>
    key = name ∧ IsGiven decode absent limit member value ∧ AreGiven limit rest members values
  | _, _, _, _ => False

/-- A member that must be there is given by what is written of it. -/
theorem isGiven_required {write : α → Json} {value : α} (returns : decode.Returns write)
    (filled : (∃ found : Json, found.IsRead limit ∧ decode found = .ok value) ∨ none = some value) :
    IsGiven decode none limit (some (write value)) value := by
  obtain ⟨found, read, decoded⟩ := filled.resolve_right (by rintro ⟨⟩)
  exact returns read decoded

/-- A member that may be there is given by what is written of it, if anything is. -/
theorem isGiven_optional {write : α → Json} {value : Option α} (returns : decode.Returns write)
    (rejects : decode.RejectsNull)
    (filled : (∃ found : Json, found.IsRead limit ∧ Decoder.optional decode found = .ok value) ∨
      some none = some value) :
    IsGiven (Decoder.optional decode) (some none) limit (value.map write) value := by
  cases value with
  | none => rfl
  | some content =>
      obtain ⟨found, read, decoded⟩ := filled.resolve_right (by rintro ⟨⟩)
      have given : decode found = .ok content := by
        unfold Decoder.optional at decoded
        split at decoded
        · cases decoded
        · obtain ⟨_, given, same⟩ := Result.map_eq_ok.mp decoded
          exact Option.some.inj same ▸ given
      exact Decoder.gives_optional rejects (returns read given)

section

variable {shape : Shape αs} {members : List (String × Option Json)} {values : Filled αs}

theorem AreGiven.names : ∀ {αs : List Type} {shape : Shape αs}
    {members : List (String × Option Json)} {values : Filled αs},
      AreGiven limit shape members values → Table.keys members = shape.names
  | _, .done, [], _, _ => rfl
  | _, .field _ _ _ _, (_, _) :: _, (_, _), given => by
      obtain ⟨same, -, others⟩ := given
      exact congrArg₂ List.cons same others.names

/-- What is written nests no deeper than the limit, and its numbers are read back. -/
theorem AreGiven.writable : ∀ {αs : List Type} {shape : Shape αs}
    {members : List (String × Option Json)} {values : Filled αs},
      AreGiven limit shape members values →
        ∀ member ∈ Json.present members, member.2.IsProper ∧ member.2.depth ≤ limit
  | _, .done, [], _, _, _, inside => by cases inside
  | _, .field _ _ _ _, (_, none) :: _, (_, _), given, member, inside =>
      given.2.2.writable member inside
  | _, .field _ _ _ _, (_, some _) :: _, (_, _), given, member, inside => by
      obtain ⟨-, here, others⟩ := given
      rcases List.mem_cons.mp inside with rfl | later
      · exact ⟨here.proper, here.depth_le⟩
      · exact others.writable member later

/-- The members that are written for a shape are read as its values, once they are in key order. -/
theorem AreGiven.areMembers {find : String → Option Json} : ∀ {αs : List Type} {shape : Shape αs}
    {members : List (String × Option Json)} {values : Filled αs},
      AreGiven limit shape members values →
        (∀ entry ∈ members, find entry.1 = entry.2.map Json.inKeyOrder) →
          AreMembers find shape values
  | _, .done, [], _, _, _ => trivial
  | _, .field name decode absent rest, (key, member) :: members, (value, values), given, held => by
      obtain ⟨rfl, here, others⟩ := given
      refine ⟨?_, others.areMembers fun entry later => held entry (List.mem_cons_of_mem _ later)⟩
      rw [held _ List.mem_cons_self]
      cases member with
      | none => exact here
      | some json => exact here.reads

/-- A shape reads the members that are written for it, once they are in key order. -/
theorem decoder_inKeyOrder (named : Table.keys members = shape.names)
    (distinct : shape.names.Nodup) {title : String} {closed : Bool} :
    shape.decoder title closed (Json.ofMembers members).inKeyOrder = .ok values ↔
      AreMembers (fun name => (Table.get? members name).join.map Json.inKeyOrder) shape values := by
  have written := Json.keys_present_sublist members
  have mapped : (Table.keys (Table.mapValues Json.inKeyOrder (Json.present members))).Nodup := by
    rw [Table.keys_mapValues]
    exact written.nodup (named ▸ distinct)
  have found (name : String) :
      Table.get? (Table.ofEntries (Table.mapValues Json.inKeyOrder (Json.present members))) name =
        (Table.get? members name).join.map Json.inKeyOrder := by
    rw [Table.get?_ofEntries mapped, Table.get?_mapValues, Json.get?_present (named ▸ distinct)]
  rw [Json.ofMembers_eq, Json.inKeyOrder_object]
  refine (decoder_object distinct (Table.nodup_keys (Table.sorted_ofEntries _)) ?_).trans ?_
  · intro key among
    obtain ⟨entry, inside, rfl⟩ := List.mem_map.mp among
    obtain ⟨before, listed, rfl⟩ := List.mem_map.mp (Table.mem_of_mem_ofEntries inside)
    rw [← named]
    exact written.subset (List.mem_map.mpr ⟨before, listed, rfl⟩)
  · rw [funext found]

/-- The object of the members that are written for a shape gives its values. -/
theorem AreGiven.gives (given : AreGiven limit shape members values)
    (distinct : shape.names.Nodup) (title : String) (closed : Bool) :
    (Json.ofMembers members).Gives (shape.decoder title closed) values (limit + 1) := by
  have names := given.names
  have writable := given.writable
  have keys : (Table.keys members).Nodup := names ▸ distinct
  refine ⟨Json.isProper_object_iff.mpr ⟨(Json.keys_present_sublist members).nodup keys,
      fun member inside => (writable member inside).1⟩,
    Nat.succ_le_succ (Json.depthOfMembers_le_iff.mpr fun member inside =>
      (writable member inside).2), (decoder_inKeyOrder names distinct).mpr ?_⟩
  refine given.areMembers fun entry inside => ?_
  rw [Table.get?_of_mem_of_nodup keys inside, Option.join_some]

end

end Shape

end ShelfLibrary
