import ShelfLibrary.Json.Shape
import ShelfLibrary.Proofs.Result
import ShelfLibrary.Proofs.Table

/-!
# What a shape reads

Each value that a shape gives has been read by the decoder of its member off something directly
inside the document, or it stands for a member that is absent.  Conversely, the members of an object
fill a shape, in whatever order they stand, if the decoders read the values off them.
-/

namespace ShelfLibrary

/-- Whether a document stands directly in another, as the value of a member or as an item. -/
def Json.HasChild (child : Json) : Json → Prop
  | .object members => ∃ key, (key, child) ∈ members
  | .list items => child ∈ items
  | _ => False

/-! ## Members that may be left out -/

namespace Json

/-- The members that are not left out. -/
def present (members : List (String × Option Json)) : List (String × Json) :=
  members.filterMap fun entry => entry.2.map fun value => (entry.1, value)

theorem ofMembers_eq (members : List (String × Option Json)) :
    ofMembers members = .object (present members) :=
  rfl

theorem keys_present_sublist (members : List (String × Option Json)) :
    (Table.keys (present members)).Sublist (Table.keys members) := by
  induction members with
  | nil => exact List.Sublist.slnil
  | cons member rest ih =>
      obtain ⟨key, value⟩ := member
      cases value with
      | none => exact ih.cons key
      | some json => exact ih.cons_cons key

theorem get?_present {members : List (String × Option Json)} (distinct : (Table.keys members).Nodup)
    (name : String) : Table.get? (present members) name = (Table.get? members name).join := by
  induction members with
  | nil => rfl
  | cons member rest ih =>
      obtain ⟨key, value⟩ := member
      obtain ⟨fresh, others⟩ := List.nodup_cons.mp distinct
      have later := ih others
      by_cases same : key = name
      · subst same
        rw [Table.get?_cons, if_pos rfl]
        cases value with
        | none =>
            refine Table.get?_eq_none_iff.mpr fun entry among same => fresh ?_
            exact (keys_present_sublist rest).subset (List.mem_map.mpr ⟨entry, among, same⟩)
        | some json => exact if_pos rfl
      · rw [Table.get?_cons, if_neg same, ← later]
        cases value with
        | none => rfl
        | some json => exact if_neg same

end Json

namespace Shape

variable {α : Type} {αs : List Type}

/-- Each value has been read by the decoder of its member off one of some documents, or stands for
an absent member. -/
def IsFilledFrom (among : Json → Prop) : {αs : List Type} → Shape αs → Filled αs → Prop
  | _, .done, _ => True
  | _, .field _ decode absent rest, (value, values) =>
    ((∃ found, among found ∧ decode found = .ok value) ∨ absent = some value) ∧
      IsFilledFrom among rest values

/-- What is in each slot has been read by the decoder of its member off one of some documents. -/
def AreReadFrom (among : Json → Prop) : {αs : List Type} → Shape αs → Slots αs → Prop
  | _, .done, _ => True
  | _, .field _ decode _ rest, (slot, slots) =>
    (∀ value, slot = some value → ∃ found, among found ∧ decode found = .ok value) ∧
      AreReadFrom among rest slots

section

variable {among : Json → Prop}

theorem areReadFrom_empty : ∀ {αs : List Type} (shape : Shape αs),
    AreReadFrom among shape shape.empty
  | _, .done => trivial
  | _, .field _ _ _ rest => ⟨by rintro _ ⟨⟩, areReadFrom_empty rest⟩

theorem AreReadFrom.put : ∀ {αs : List Type} {shape : Shape αs} {slots after : Slots αs}
    {key : String} {found : Json}, AreReadFrom among shape slots → among found →
      shape.put? slots key found = some (.ok after) → AreReadFrom among shape after
  | _, .done, _, _, _, _, _, _, put => by cases put
  | _, .field name decode absent rest, (slot, slots), after, key, found, read, listed, put => by
      obtain ⟨first, others⟩ := read
      simp only [put?] at put
      split at put
      · split at put
        · cases put
        · obtain ⟨value, decoded, rfl⟩ := Result.map_eq_ok.mp (Option.some.inj put)
          refine ⟨?_, others⟩
          rintro _ ⟨rfl⟩
          exact ⟨found, listed, decoded⟩
      · obtain ⟨result, later, same⟩ := Option.map_eq_some_iff.mp put
        obtain ⟨filled, rfl, rfl⟩ := Result.map_eq_ok.mp same
        exact ⟨first, others.put listed later⟩

theorem AreReadFrom.fromMembers {shape : Shape αs} {closed : Bool}
    {members : List (String × Json)} {slots after : Slots αs}
    (read : AreReadFrom among shape slots) (listed : ∀ member ∈ members, among member.2)
    (went : shape.fromMembers closed members slots = .ok after) :
    AreReadFrom among shape after := by
  induction members generalizing slots with
  | nil =>
      obtain rfl := Except.ok.inj went
      exact read
  | cons member rest ih =>
      obtain ⟨key, found⟩ := member
      have others := fun member later => listed member (List.mem_cons_of_mem (key, found) later)
      unfold Shape.fromMembers at went
      split at went
      · rename_i put
        exact ih (read.put (listed _ List.mem_cons_self) put) others went
      · cases went
      · split at went
        · cases went
        · exact ih read others went

theorem AreReadFrom.finish : ∀ {αs : List Type} {shape : Shape αs} {slots : Slots αs}
    {values : Filled αs}, AreReadFrom among shape slots → shape.finish slots = .ok values →
      IsFilledFrom among shape values
  | _, .done, _, _, _, _ => trivial
  | _, .field name decode absent rest, (slot, slots), values, read, finished => by
      obtain ⟨first, others⟩ := read
      simp only [Shape.finish] at finished
      split at finished
      · cases finished
      · rename_i value chosen
        obtain ⟨more, went, rfl⟩ := Result.map_eq_ok.mp finished
        refine ⟨?_, others.finish went⟩
        cases slot with
        | none => exact .inr chosen
        | some read =>
            obtain rfl := Option.some.inj chosen
            exact .inl (first _ rfl)

theorem isFilledFrom_of_fromItems {shortage : Nat → DecodeError} :
    ∀ {αs : List Type} {shape : Shape αs} {position : Nat} {items left : List Json}
      {values : Filled αs}, (∀ item ∈ items, among item) →
        shape.fromItems shortage position items = .ok (values, left) →
          IsFilledFrom among shape values
  | _, .done, _, _, _, _, _, _ => trivial
  | _, .field name decode absent rest, position, [], left, values, listed, went => by
      unfold fromItems at went
      split at went
      · cases went
      · obtain ⟨⟨more, items⟩, later, same⟩ := Result.bind_eq_ok.mp went
        obtain ⟨rfl, rfl⟩ := Prod.mk.inj (Except.ok.inj same)
        exact ⟨.inr rfl, isFilledFrom_of_fromItems listed later⟩
  | _, .field name decode absent rest, position, found :: items, left, values, listed, went => by
      unfold fromItems at went
      obtain ⟨value, decoded, onward⟩ := Result.bind_eq_ok.mp went
      obtain ⟨⟨more, others⟩, later, same⟩ := Result.bind_eq_ok.mp onward
      obtain ⟨rfl, rfl⟩ := Prod.mk.inj (Except.ok.inj same)
      exact ⟨.inl ⟨found, listed found List.mem_cons_self, decoded⟩,
        isFilledFrom_of_fromItems
          (fun item member => listed item (List.mem_cons_of_mem _ member)) later⟩

end

/-- What a shape reads off a document has been read off what stands directly in it. -/
theorem isFilledFrom_of_decoderWith {shape : Shape αs} {surplus : Nat → Nat → DecodeError}
    {title : String} {closed : Bool} {found : Json} {values : Filled αs}
    (read : shape.decoderWith surplus title closed found = .ok values) :
    shape.IsFilledFrom (fun child => child.HasChild found) values := by
  cases found with
  | object members =>
      obtain ⟨slots, went, finished⟩ := Result.bind_eq_ok.mp read
      exact ((areReadFrom_empty shape).fromMembers (fun member inside => ⟨member.1, inside⟩)
        went).finish finished
  | list items =>
      obtain ⟨⟨filled, left⟩, went, checked⟩ := Result.bind_eq_ok.mp read
      have same : filled = values := by
        simp only at checked
        split at checked
        · exact Except.ok.inj checked
        · cases checked
      exact same ▸ isFilledFrom_of_fromItems (fun item inside => inside) went
  | _ => cases read

theorem IsFilledFrom.mono {among wider : Json → Prop}
    (within : ∀ found, among found → wider found) :
    ∀ {αs : List Type} {shape : Shape αs} {values : Filled αs},
      IsFilledFrom among shape values → IsFilledFrom wider shape values
  | _, .done, _, _ => trivial
  | _, .field _ _ _ _, (_, _), filled =>
      ⟨filled.1.imp_left fun ⟨found, listed, decoded⟩ => ⟨found, within found listed, decoded⟩,
        filled.2.mono within⟩

/-! ## Filling a shape -/

/-- Whether a member is read as a value, or stands for it where there is none. -/
def IsMember (decode : Decoder α) (absent : Option α) : Option Json → α → Prop
  | some found, value => decode found = .ok value
  | none, value => absent = some value

/-- Whether the members found under the names of a shape are read as some values. -/
def AreMembers (find : String → Option Json) : {αs : List Type} → Shape αs → Filled αs → Prop
  | _, .done, _ => True
  | _, .field name decode absent rest, (value, values) =>
    IsMember decode absent (find name) value ∧ AreMembers find rest values

/-- What the slots of a shape still need to be filled with some values: a member that is to come
finds its slot free and is read as its value, and the others have theirs already or need none. -/
def Awaits (members : List (String × Json)) :
    {αs : List Type} → Shape αs → Slots αs → Filled αs → Prop
  | _, .done, _, _ => True
  | _, .field name decode absent rest, (slot, slots), (value, values) =>
    (match Table.get? members name with
      | some found => slot = none ∧ decode found = .ok value
      | none => (slot <|> absent) = some value) ∧
      Awaits members rest slots values

theorem awaits_empty (members : List (String × Json)) :
    ∀ {αs : List Type} {shape : Shape αs} {values : Filled αs},
      Awaits members shape shape.empty values ↔ AreMembers (Table.get? members) shape values
  | _, .done, _ => Iff.rfl
  | _, .field name _ _ rest, (_, _) => by
      refine and_congr ?_ (awaits_empty members)
      cases Table.get? members name with
      | none => exact Iff.rfl
      | some found => exact and_iff_right rfl

theorem awaits_cons_of_not_mem {key : String} {found : Json} {members : List (String × Json)} :
    ∀ {αs : List Type} {shape : Shape αs} {slots : Slots αs} {values : Filled αs},
      key ∉ shape.names →
        (Awaits ((key, found) :: members) shape slots values ↔ Awaits members shape slots values)
  | _, .done, _, _, _ => Iff.rfl
  | _, .field name _ _ rest, (_, _), (_, _), unnamed => by
      simp only [names, List.mem_cons, not_or] at unnamed
      refine and_congr ?_ (awaits_cons_of_not_mem unnamed.2)
      rw [Table.get?_cons, if_neg unnamed.1]

/-- A shape waits for a member and others if, once it is in its slot, it waits for the others. -/
theorem awaits_cons {key : String} {found : Json} {members : List (String × Json)}
    (last : Table.get? members key = none) :
    ∀ {αs : List Type} {shape : Shape αs} {slots : Slots αs} {values : Filled αs},
      shape.names.Nodup → key ∈ shape.names →
        (Awaits ((key, found) :: members) shape slots values ↔
          ∃ after, shape.put? slots key found = some (.ok after) ∧
            Awaits members shape after values)
  | _, .done, _, _, _, named => by cases named
  | _, .field name decode absent rest, (slot, slots), (value, values), distinct, named => by
      obtain ⟨unnamed, distinct⟩ := List.nodup_cons.mp distinct
      by_cases same : key = name
      · subst same
        -- No other slot has the name, so that what the others wait for stays the same.
        simp only [Awaits, Table.get?_cons, if_pos, awaits_cons_of_not_mem unnamed]
        constructor
        · rintro ⟨⟨rfl, decoded⟩, others⟩
          refine ⟨(some value, slots), by simp [put?, decoded, Except.map], ?_, others⟩
          rw [last]
          rfl
        · rintro ⟨after, put, awaited⟩
          simp only [put?, if_pos] at put
          split at put
          · cases put
          · rename_i free
            obtain ⟨read, decoded, rfl⟩ := Result.map_eq_ok.mp (Option.some.inj put)
            obtain ⟨here, others⟩ := awaited
            rw [last] at here
            obtain rfl : read = value := Option.some.inj here
            exact ⟨⟨by simpa using free, decoded⟩, others⟩
      · have later := (List.mem_cons.mp named).resolve_left same
        simp only [Awaits, Table.get?_cons, if_neg same, awaits_cons last distinct later]
        constructor
        · rintro ⟨here, after, put, others⟩
          exact ⟨(slot, after), by simp [put?, Ne.symm same, put, Except.map], here, others⟩
        · rintro ⟨after, put, awaited⟩
          simp only [put?, if_neg (Ne.symm same)] at put
          obtain ⟨result, later, mapped⟩ := Option.map_eq_some_iff.mp put
          obtain ⟨filled, rfl, rfl⟩ := Result.map_eq_ok.mp mapped
          exact ⟨awaited.1, filled, later, awaited.2⟩

theorem awaits_nil : ∀ {αs : List Type} {shape : Shape αs} {slots : Slots αs} {values : Filled αs},
    Awaits [] shape slots values ↔ shape.finish slots = .ok values
  | _, .done, _, _ => ⟨fun _ => rfl, fun _ => trivial⟩
  | _, .field _ _ absent _, (slot, slots), (value, values) => by
      simp only [Awaits, Table.get?_nil, Shape.finish, awaits_nil]
      constructor
      · rintro ⟨here, others⟩
        simp only [here, others, Except.map]
      · intro finished
        split at finished
        · cases finished
        · rename_i chosen held
          obtain ⟨more, others, same⟩ := Result.map_eq_ok.mp finished
          obtain ⟨rfl, rfl⟩ := Prod.mk.inj same
          exact ⟨held, others⟩

/-- A member whose name a shape has is put into a slot, or refused. -/
theorem put?_ne_none {key : String} {found : Json} :
    ∀ {αs : List Type} {shape : Shape αs} {slots : Slots αs}, key ∈ shape.names →
      shape.put? slots key found ≠ none
  | _, .done, _, named => by cases named
  | _, .field name decode absent rest, (slot, slots), named => by
      simp only [put?]
      split
      · split <;> simp
      · rename_i different
        have later := (List.mem_cons.mp named).resolve_left (Ne.symm different)
        simpa using put?_ne_none later

section

variable {shape : Shape αs} {values : Filled αs}

/-- Going through the members of an object fills the slots of a shape that waits for them. -/
theorem awaits_iff {closed : Bool} (names : shape.names.Nodup) {members : List (String × Json)}
    {slots : Slots αs} (keys : (Table.keys members).Nodup)
    (named : ∀ key ∈ Table.keys members, key ∈ shape.names) :
    Awaits members shape slots values ↔
      ∃ after, shape.fromMembers closed members slots = .ok after ∧
        shape.finish after = .ok values := by
  induction members generalizing slots with
  | nil =>
      rw [awaits_nil]
      exact ⟨fun finished => ⟨slots, rfl, finished⟩, fun ⟨_, went, finished⟩ =>
        Except.ok.inj went ▸ finished⟩
  | cons member rest ih =>
      obtain ⟨key, found⟩ := member
      obtain ⟨fresh, keys⟩ := List.nodup_cons.mp keys
      have last : Table.get? rest key = none :=
        Table.get?_eq_none_iff.mpr fun entry among same =>
          fresh (List.mem_map.mpr ⟨entry, among, same⟩)
      obtain ⟨isNamed, others⟩ := List.forall_mem_cons.mp named
      rw [awaits_cons last names isNamed]
      constructor
      · rintro ⟨filled, put, awaited⟩
        obtain ⟨after, went, finished⟩ := (ih keys others).mp awaited
        exact ⟨after, by simp [fromMembers, put, went], finished⟩
      · rintro ⟨after, went, finished⟩
        unfold fromMembers at went
        split at went
        · rename_i filled put
          exact ⟨filled, put, (ih keys others).mpr ⟨after, went, finished⟩⟩
        · cases went
        · rename_i unput
          exact absurd unput (put?_ne_none isNamed)

/-- A shape reads off an object what it finds under its names, if no other members stand there. -/
theorem decoder_object (names : shape.names.Nodup) {members : List (String × Json)}
    (keys : (Table.keys members).Nodup) (named : ∀ key ∈ Table.keys members, key ∈ shape.names)
    {surplus : Nat → Nat → DecodeError} {title : String} {closed : Bool} :
    shape.decoderWith surplus title closed (.object members) = .ok values ↔
      AreMembers (Table.get? members) shape values := by
  rw [← awaits_empty, awaits_iff names keys named]
  exact Result.bind_eq_ok

/-- A shape reads the members that stand under all of its names. -/
theorem decoder_members {members : List (String × Json)}
    (named : Table.keys members = shape.names) (names : shape.names.Nodup)
    {surplus : Nat → Nat → DecodeError} {title : String} {closed : Bool} :
    shape.decoderWith surplus title closed (.object members) = .ok values ↔
      AreMembers (Table.get? members) shape values :=
  decoder_object names (named ▸ names) fun _ among => named ▸ among

/-- A shape reads the members that are written for it, some of them left out. -/
theorem decoder_ofMembers {members : List (String × Option Json)}
    (named : Table.keys members = shape.names) (names : shape.names.Nodup)
    {surplus : Nat → Nat → DecodeError} {title : String} {closed : Bool} :
    shape.decoderWith surplus title closed (.ofMembers members) = .ok values ↔
      AreMembers (fun name => (Table.get? members name).join) shape values := by
  have written := Json.keys_present_sublist members
  have found := Json.get?_present (named ▸ names)
  rw [Json.ofMembers_eq,
    decoder_object names (written.nodup (named ▸ names)) fun key among =>
      named ▸ written.subset among]
  simp only [funext found]

end

/-- What is made of the members of a shape of two is read back when both of them are. -/
theorem decode_pair {β γ : Type} {decode : Decoder α} {decodeOther : Decoder β} {absent : Option α}
    {absentOther : Option β} {name other title : String} {closed : Bool}
    {member memberOther : Option Json} {make : α → β → γ} {value : α} {valueOther : β}
    (different : name ≠ other) (injective : Function.Injective2 make) :
    (do
      let (value, valueOther, ()) ←
        (field name decode absent (field other decodeOther absentOther done)).decoder title closed
          (.ofMembers [(name, member), (other, memberOther)])
      return make value valueOther) = Except.ok (make value valueOther) ↔
      IsMember decode absent member value ∧
        IsMember decodeOther absentOther memberOther valueOther := by
  have read : (field name decode absent (field other decodeOther absentOther done)).decoder title
      closed (.ofMembers [(name, member), (other, memberOther)]) =
        .ok (value, valueOther, ()) ↔
      IsMember decode absent member value ∧
        IsMember decodeOther absentOther memberOther valueOther := by
    refine (decoder_ofMembers rfl (by simpa [names] using different)).trans ?_
    simp [AreMembers, Table.get?_cons, different]
  rw [← read, Result.bind_eq_ok]
  constructor
  · rintro ⟨⟨found, foundOther, ⟨⟩⟩, went, same⟩
    obtain ⟨rfl, rfl⟩ := injective (Except.ok.inj same)
    exact went
  · exact fun went => ⟨_, went, rfl⟩

end Shape

end ShelfLibrary
