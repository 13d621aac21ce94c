import ShelfLibrary.Proofs.Json
import ShelfLibrary.Proofs.Shape
import ShelfLibrary.Proofs.Table

/-!
# Documents as they are read

A document that has been read keeps the members of every object in key order, holds only numbers
that are read back from their texts, and nests no deeper than it may.
-/

namespace ShelfLibrary

/-! ## Finite doubles -/

namespace Double

theorem pattern_ofPattern (negative : Bool) {pattern : Nat} (small : pattern < 2 ^ 63) :
    (ofPattern negative pattern).pattern = pattern := by
  unfold ofPattern Double.pattern
  rw [UInt64.toNat_ofNat']
  split <;> omega

theorem isFinite_ofPattern (negative : Bool) {pattern : Nat} (finite : pattern < infinityPattern) :
    (ofPattern negative pattern).isFinite = true := by
  have small : pattern < 2 ^ 63 := finite.trans (by decide)
  simp [isFinite, pattern_ofPattern negative small, finite]

theorem nearestPattern_le (numerator denominator : Nat) :
    nearestPattern numerator denominator ≤ infinityPattern :=
  min_le_left _ _

theorem isFinite_of_ofDecimal? {negative : Bool} {digits : Nat} {exponent : Int} {d : Double}
    (found : ofDecimal? negative digits exponent = some d) : d.isFinite = true := by
  unfold ofDecimal? at found
  extract_lets width pattern at found
  have most : pattern ≤ infinityPattern := by
    unfold pattern
    split
    · exact Nat.zero_le _
    · split
      · exact le_rfl
      · split <;> exact nearestPattern_le _ _
  split at found
  · cases found
  · rename_i below
    obtain rfl := Option.some.inj found
    exact isFinite_ofPattern negative (lt_of_le_of_ne most below)

theorem roundHalfEven_le (numerator denominator : Nat) :
    roundHalfEven numerator denominator ≤ numerator / denominator + 1 := by
  unfold roundHalfEven
  simp only
  split
  · omega
  · split <;> omega

/-- A whole number of 64 bits, with or without a sign, is within the range of finite doubles. -/
theorem nearestPattern_lt {n : Nat} (small : n < 2 ^ 64) :
    nearestPattern n 1 < infinityPattern := by
  unfold nearestPattern patternOfUnits
  simp only [Nat.div_one, Nat.one_mul]
  refine lt_of_le_of_lt (min_le_right _ _) ?_
  have bounded : n * unitsInOne < 2 ^ 64 * unitsInOne :=
    (Nat.mul_lt_mul_right unitsInOne_pos).mpr small
  generalize n * unitsInOne = size at bounded ⊢
  have width : size.log2 ≤ 1138 := by
    rcases Nat.eq_zero_or_pos size with rfl | positive
    · simp
    · refine Nat.le_of_lt_succ ((Nat.log2_lt positive.ne').mpr (bounded.trans ?_))
      decide +kernel
  have quotient : size / 2 ^ (size.log2 - 52) < 2 ^ 53 := by
    refine Nat.div_lt_of_lt_mul ?_
    rw [← pow_add]
    exact Nat.lt_log2_self.trans_le (Nat.pow_le_pow_right (by decide) (by omega))
  have rounded := roundHalfEven_le size (2 ^ (size.log2 - 52))
  unfold infinityPattern
  omega

theorem isFinite_ofInt {n : Int} (small : n.natAbs < 2 ^ 64) : (ofInt n).isFinite = true :=
  isFinite_ofPattern _ (nearestPattern_lt small)
end Double

namespace Json

/-! ## Proper documents -/

mutual

/-- Whether no key stands twice in an object, and every number is read back from its text. -/
def IsProper : Json → Prop
  | .list items => AreProper items
  | .object members => (Table.keys members).Nodup ∧ AreProperMembers members
  | .int n => isWholeRange n
  | .float d => d.isFinite
  | _ => True

/-- Whether the items of an array are proper. -/
def AreProper : List Json → Prop
  | [] => True
  | item :: rest => IsProper item ∧ AreProper rest

/-- Whether the values of the members of an object are proper. -/
def AreProperMembers : List (String × Json) → Prop
  | [] => True
  | (_, value) :: rest => IsProper value ∧ AreProperMembers rest

end

theorem areProper_iff {items : List Json} : AreProper items ↔ ∀ item ∈ items, item.IsProper := by
  induction items with
  | nil => simp [AreProper]
  | cons item rest ih => simp [AreProper, ih]

theorem areProperMembers_iff {members : List (String × Json)} :
    AreProperMembers members ↔ ∀ member ∈ members, member.2.IsProper := by
  induction members with
  | nil => simp [AreProperMembers]
  | cons member rest ih => simp [AreProperMembers, ih]

@[simp]
theorem isProper_text (value : String) : IsProper (.text value) := trivial

@[simp]
theorem isProper_bool (value : Bool) : IsProper (.bool value) := trivial

theorem isProper_list_iff {items : List Json} :
    IsProper (.list items) ↔ ∀ item ∈ items, item.IsProper :=
  areProper_iff

theorem isProper_object_iff {members : List (String × Json)} :
    IsProper (.object members) ↔
      (members.map Prod.fst).Nodup ∧ ∀ member ∈ members, member.2.IsProper :=
  and_congr_right fun _ => areProperMembers_iff

mutual

theorem IsProper.intsFit : ∀ {json : Json}, json.IsProper → json.IntsFit
  | .null, _ => trivial
  | .bool _, _ => trivial
  | .int _, proper => proper
  | .float _, _ => trivial
  | .text _, _ => trivial
  | .list _, proper => AreProper.intsFit proper
  | .object _, proper => AreProperMembers.intsFit proper.2

theorem AreProper.intsFit : ∀ {items : List Json}, AreProper items → IntsFitItems items
  | [], _ => trivial
  | _ :: _, proper => ⟨proper.1.intsFit, AreProper.intsFit proper.2⟩

theorem AreProperMembers.intsFit : ∀ {members : List (String × Json)},
    AreProperMembers members → IntsFitMembers members
  | [], _ => trivial
  | _ :: _, proper => ⟨proper.1.intsFit, AreProperMembers.intsFit proper.2⟩

end

mutual

/-- Nothing of a proper document is lost in its text. -/
theorem IsProper.echo_eq : ∀ {json : Json}, json.IsProper → json.echo = json
  | .null, _ => rfl
  | .bool _, _ => rfl
  | .int _, _ => rfl
  | .float _, proper => if_pos proper
  | .text _, _ => rfl
  | .list _, proper => congrArg Json.list (AreProper.echo_eq proper)
  | .object _, proper => congrArg Json.object (AreProperMembers.echo_eq proper.2)

theorem AreProper.echo_eq : ∀ {items : List Json}, AreProper items → echoItems items = items
  | [], _ => rfl
  | _ :: _, proper => congrArg₂ List.cons proper.1.echo_eq (AreProper.echo_eq proper.2)

theorem AreProperMembers.echo_eq : ∀ {members : List (String × Json)},
    AreProperMembers members → echoMembers members = members
  | [], _ => rfl
  | (key, _) :: _, proper =>
      congrArg₂ List.cons (congrArg (Prod.mk key) proper.1.echo_eq)
        (AreProperMembers.echo_eq proper.2)

end

/-! ## Depth -/

theorem depthOfItems_le_iff {items : List Json} {bound : Nat} :
    depthOfItems items ≤ bound ↔ ∀ item ∈ items, item.depth ≤ bound := by
  induction items with
  | nil => simp [depthOfItems]
  | cons item rest ih => simp [depthOfItems, ih]

theorem depthOfMembers_le_iff {members : List (String × Json)} {bound : Nat} :
    depthOfMembers members ≤ bound ↔ ∀ member ∈ members, member.2.depth ≤ bound := by
  induction members with
  | nil => simp [depthOfMembers]
  | cons member rest ih => simp [depthOfMembers, ih]

theorem HasChild.depth_lt {child found : Json} (inside : child.HasChild found) :
    child.depth < found.depth := by
  cases found with
  | list items => exact Nat.lt_succ_of_le (depthOfItems_le_iff.mp le_rfl child inside)
  | object members =>
      obtain ⟨key, member⟩ := inside
      exact Nat.lt_succ_of_le (depthOfMembers_le_iff.mp le_rfl _ member)
  | _ => cases inside

/-! ## Key order -/

theorem inKeyOrderItems_eq (items : List Json) : inKeyOrderItems items = items.map inKeyOrder := by
  induction items with
  | nil => rfl
  | cons item rest ih => simp [inKeyOrderItems, ih]

theorem inKeyOrderMembers_eq (members : List (String × Json)) :
    inKeyOrderMembers members = Table.mapValues inKeyOrder members := by
  induction members with
  | nil => rfl
  | cons member rest ih => simpa [inKeyOrderMembers, Table.mapValues] using ih

@[simp]
theorem inKeyOrder_list (items : List Json) :
    inKeyOrder (.list items) = .list (items.map inKeyOrder) := by
  rw [inKeyOrder, inKeyOrderItems_eq]

@[simp]
theorem inKeyOrder_object (members : List (String × Json)) :
    inKeyOrder (.object members) =
      .object (Table.ofEntries (Table.mapValues inKeyOrder members)) := by
  rw [inKeyOrder, inKeyOrderMembers_eq]

theorem map_eq_self_iff {α : Type} {items : List α} {change : α → α} :
    items.map change = items ↔ ∀ item ∈ items, change item = item := by
  conv_lhs =>
    rhs
    rw [← List.map_id items]
  exact List.map_eq_map_iff

/-- An object is in key order if its members are, and so is each of their values. -/
theorem inKeyOrder_object_eq_iff {members : List (String × Json)} :
    inKeyOrder (.object members) = .object members ↔
      Table.Sorted members ∧ ∀ member ∈ members, member.2.inKeyOrder = member.2 := by
  have fixed : Table.mapValues inKeyOrder members = members ↔
      ∀ member ∈ members, member.2.inKeyOrder = member.2 := by
    simp [Table.mapValues, map_eq_self_iff, Prod.ext_iff]
  rw [inKeyOrder_object, Json.object.injEq, ← fixed]
  constructor
  · intro ordered
    have sorted : Table.Sorted members := ordered ▸ Table.sorted_ofEntries _
    have mapped : Table.Sorted (Table.mapValues inKeyOrder members) :=
      List.pairwise_map.mpr sorted
    exact ⟨sorted, (Table.ofEntries_of_sorted mapped).symm.trans ordered⟩
  · rintro ⟨sorted, same⟩
    rw [same, Table.ofEntries_of_sorted sorted]

theorem inKeyOrder_list_eq_iff {items : List Json} :
    inKeyOrder (.list items) = .list items ↔ ∀ item ∈ items, item.inKeyOrder = item := by
  rw [inKeyOrder_list, Json.list.injEq, map_eq_self_iff]

mutual

/-- Putting a proper document in key order does not change how deep it nests. -/
theorem IsProper.depth_inKeyOrder : ∀ {json : Json}, json.IsProper →
    json.inKeyOrder.depth = json.depth
  | .null, _ => rfl
  | .bool _, _ => rfl
  | .int _, _ => rfl
  | .float _, _ => rfl
  | .text _, _ => rfl
  | .list items, proper => by
      rw [inKeyOrder_list, depth, depth, AreProper.depth_inKeyOrder proper]
  | .object members, proper => by
      have distinct := proper.1
      rw [← Table.keys_mapValues inKeyOrder] at distinct
      have same : depthOfMembers (Table.ofEntries (Table.mapValues inKeyOrder members)) =
          depthOfMembers (Table.mapValues inKeyOrder members) := by
        refine eq_of_forall_ge_iff fun bound => ?_
        simp only [depthOfMembers_le_iff, Table.mem_ofEntries distinct]
      rw [inKeyOrder_object, depth, depth, same, AreProperMembers.depth_inKeyOrder proper.2]

theorem AreProper.depth_inKeyOrder : ∀ {items : List Json}, AreProper items →
    depthOfItems (items.map inKeyOrder) = depthOfItems items
  | [], _ => rfl
  | item :: rest, proper => by
      rw [List.map_cons, depthOfItems, depthOfItems, proper.1.depth_inKeyOrder,
        AreProper.depth_inKeyOrder proper.2]

theorem AreProperMembers.depth_inKeyOrder : ∀ {members : List (String × Json)},
    AreProperMembers members →
      depthOfMembers (Table.mapValues inKeyOrder members) = depthOfMembers members
  | [], _ => rfl
  | (key, value) :: rest, proper => by
      have others := AreProperMembers.depth_inKeyOrder proper.2
      rw [Table.mapValues] at others ⊢
      rw [List.map_cons, depthOfMembers, depthOfMembers, proper.1.depth_inKeyOrder, others]

end

mutual

/-- A document in key order is left as it is. -/
theorem inKeyOrder_inKeyOrder : ∀ json : Json, json.inKeyOrder.inKeyOrder = json.inKeyOrder
  | .null => rfl
  | .bool _ => rfl
  | .int _ => rfl
  | .float _ => rfl
  | .text _ => rfl
  | .list items => by
      rw [inKeyOrder_list, inKeyOrder_list_eq_iff]
      intro item member
      obtain ⟨before, listed, rfl⟩ := List.mem_map.mp member
      exact inKeyOrder_items items before listed
  | .object members => by
      rw [inKeyOrder_object, inKeyOrder_object_eq_iff]
      refine ⟨Table.sorted_ofEntries _, fun member inside => ?_⟩
      obtain ⟨before, listed, rfl⟩ := List.mem_map.mp (Table.mem_of_mem_ofEntries inside)
      exact inKeyOrder_members members before listed

theorem inKeyOrder_items : ∀ items : List Json, ∀ item ∈ items,
    item.inKeyOrder.inKeyOrder = item.inKeyOrder
  | [], _, member => by cases member
  | first :: rest, item, member => by
      rcases List.mem_cons.mp member with same | later
      · exact same ▸ inKeyOrder_inKeyOrder first
      · exact inKeyOrder_items rest item later

theorem inKeyOrder_members : ∀ members : List (String × Json), ∀ member ∈ members,
    member.2.inKeyOrder.inKeyOrder = member.2.inKeyOrder
  | [], _, inside => by cases inside
  | (key, value) :: rest, member, inside => by
      rcases List.mem_cons.mp inside with same | later
      · exact same ▸ inKeyOrder_inKeyOrder value
      · exact inKeyOrder_members rest member later

end

/-! ## What is read -/

/-- A document that can have been read from a text, nesting no deeper than a limit. -/
structure IsRead (json : Json) (limit : Nat) : Prop where
  /-- Its numbers are read back, and its keys are different. -/
  proper : json.IsProper
  /-- Its members are in key order. -/
  ordered : json.inKeyOrder = json
  /-- It nests no deeper. -/
  depth_le : json.depth ≤ limit

theorem isRead_list_iff {items : List Json} {limit : Nat} :
    IsRead (.list items) (limit + 1) ↔ ∀ item ∈ items, item.IsRead limit := by
  constructor
  · rintro ⟨proper, ordered, shallow⟩ item member
    exact ⟨areProper_iff.mp proper item member, inKeyOrder_list_eq_iff.mp ordered item member,
      depthOfItems_le_iff.mp (Nat.le_of_succ_le_succ shallow) item member⟩
  · intro read
    exact ⟨areProper_iff.mpr fun item member => (read item member).proper,
      inKeyOrder_list_eq_iff.mpr fun item member => (read item member).ordered,
      Nat.succ_le_succ (depthOfItems_le_iff.mpr fun item member => (read item member).depth_le)⟩

theorem isRead_object_iff {members : List (String × Json)} {limit : Nat} :
    IsRead (.object members) (limit + 1) ↔
      Table.Sorted members ∧ ∀ member ∈ members, member.2.IsRead limit := by
  constructor
  · rintro ⟨proper, ordered, shallow⟩
    obtain ⟨sorted, same⟩ := inKeyOrder_object_eq_iff.mp ordered
    refine ⟨sorted, fun member inside => ?_⟩
    exact ⟨areProperMembers_iff.mp proper.2 member inside, same member inside,
      depthOfMembers_le_iff.mp (Nat.le_of_succ_le_succ shallow) member inside⟩
  · rintro ⟨sorted, read⟩
    exact ⟨⟨Table.nodup_keys sorted,
        areProperMembers_iff.mpr fun member inside => (read member inside).proper⟩,
      inKeyOrder_object_eq_iff.mpr ⟨sorted, fun member inside => (read member inside).ordered⟩,
      Nat.succ_le_succ
        (depthOfMembers_le_iff.mpr fun member inside => (read member inside).depth_le)⟩

/-- What stands in a document that has been read nests less deep. -/
theorem IsRead.child {child found : Json} {limit : Nat} (read : found.IsRead (limit + 1))
    (inside : child.HasChild found) : child.IsRead limit := by
  cases found with
  | list items => exact isRead_list_iff.mp read child inside
  | object members =>
      obtain ⟨key, member⟩ := inside
      exact (isRead_object_iff.mp read).2 _ member
  | _ => cases inside

/-- An array of scanned documents has been read, once all is in key order. -/
theorem isRead_list {items : List Json} {limit : Nat}
    (read : ∀ item ∈ items, item.inKeyOrder.IsRead limit) :
    (inKeyOrder (.list items)).IsRead (limit + 1) := by
  rw [inKeyOrder_list, isRead_list_iff]
  intro item member
  obtain ⟨before, listed, rfl⟩ := List.mem_map.mp member
  exact read before listed

/-- An object of scanned documents has been read, once all is in key order. -/
theorem isRead_object {members : List (String × Json)} {limit : Nat}
    (read : ∀ member ∈ members, member.2.inKeyOrder.IsRead limit) :
    (inKeyOrder (.object members)).IsRead (limit + 1) := by
  rw [inKeyOrder_object, isRead_object_iff]
  refine ⟨Table.sorted_ofEntries _, fun member inside => ?_⟩
  obtain ⟨before, listed, rfl⟩ := List.mem_map.mp (Table.mem_of_mem_ofEntries inside)
  exact read before listed

theorem isRead_of_readNumber {cs rest : List Char} {json : Json}
    (read : readNumber cs = some (json, rest)) (limit : Nat) : json.inKeyOrder.IsRead limit := by
  have unsigned {negative : Bool} {cs : List Char}
      (read : readUnsigned negative cs = some (json, rest)) : json.inKeyOrder.IsRead limit := by
    unfold readUnsigned at read
    simp only at read
    -- However the whole part is written, the parts after it decide which number it is.
    split at read
    all_goals
      obtain ⟨⟨whole, afterWhole⟩, -, read⟩ := Option.bind_eq_some_iff.mp read
      obtain ⟨⟨fraction, afterFraction⟩, -, read⟩ := Option.bind_eq_some_iff.mp read
      obtain ⟨⟨exponent, last⟩, -, read⟩ := Option.bind_eq_some_iff.mp read
      simp only at read
      generalize (if negative then -(natOfDigits (whole ++ fraction) : Int)
        else natOfDigits (whole ++ fraction)) = value at read
      split at read
      · rename_i ranged
        obtain ⟨rfl, -⟩ := Prod.mk.inj (Option.some.inj read)
        simp only [Bool.and_eq_true] at ranged
        exact ⟨ranged.1.2, rfl, Nat.zero_le _⟩
      · obtain ⟨d, found, same⟩ := Option.bind_eq_some_iff.mp read
        obtain ⟨rfl, -⟩ := Prod.mk.inj (Option.some.inj same)
        exact ⟨Double.isFinite_of_ofDecimal? found, rfl, Nat.zero_le _⟩
  unfold readNumber at read
  split at read <;> exact unsigned read

mutual

theorem isRead_of_readValue : ∀ {fuel limit : Nat} {cs rest : List Char} {json : Json},
    readValue fuel limit cs = some (json, rest) → json.inKeyOrder.IsRead limit
  | 0, _, _, _, _, read => by cases read
  | fuel + 1, limit, cs, rest, json, read => by
      rw [readValue] at read
      split at read
      · obtain ⟨rfl, -⟩ := Prod.mk.inj (Option.some.inj read)
        exact ⟨trivial, rfl, Nat.zero_le _⟩
      · obtain ⟨rfl, -⟩ := Prod.mk.inj (Option.some.inj read)
        exact ⟨trivial, rfl, Nat.zero_le _⟩
      · obtain ⟨rfl, -⟩ := Prod.mk.inj (Option.some.inj read)
        exact ⟨trivial, rfl, Nat.zero_le _⟩
      · obtain ⟨content, -, same⟩ := Option.map_eq_some_iff.mp read
        obtain ⟨rfl, -⟩ := Prod.mk.inj same
        exact ⟨trivial, rfl, Nat.zero_le _⟩
      · split at read
        · cases read
        · split at read
          · obtain ⟨rfl, -⟩ := Prod.mk.inj (Option.some.inj read)
            exact isRead_list (by simp)
          · exact isRead_of_readItems (by simp) read
      · split at read
        · cases read
        · split at read
          · obtain ⟨rfl, -⟩ := Prod.mk.inj (Option.some.inj read)
            exact isRead_object (by simp)
          · exact isRead_of_readMembers (by simp) read
      · exact isRead_of_readNumber read limit

theorem isRead_of_readItems : ∀ {fuel limit : Nat} {before : List Json} {cs rest : List Char}
    {json : Json}, (∀ item ∈ before, item.inKeyOrder.IsRead limit) →
      readItems fuel limit before cs = some (json, rest) → json.inKeyOrder.IsRead (limit + 1)
  | 0, _, _, _, _, _, _, read => by cases read
  | fuel + 1, limit, before, cs, rest, json, within, read => by
      rw [readItems] at read
      split at read
      · cases read
      · rename_i item _ first
        have all : ∀ other ∈ item :: before, other.inKeyOrder.IsRead limit :=
          List.forall_mem_cons.mpr ⟨isRead_of_readValue first, within⟩
        split at read
        · exact isRead_of_readItems all read
        · obtain ⟨rfl, -⟩ := Prod.mk.inj (Option.some.inj read)
          exact isRead_list fun other member => all other (List.mem_reverse.mp member)
        · cases read

theorem isRead_of_readMembers : ∀ {fuel limit : Nat} {before : List (String × Json)}
    {cs rest : List Char} {json : Json}, (∀ member ∈ before, member.2.inKeyOrder.IsRead limit) →
      readMembers fuel limit before cs = some (json, rest) → json.inKeyOrder.IsRead (limit + 1)
  | 0, _, _, _, _, _, _, read => by cases read
  | fuel + 1, limit, before, cs, rest, json, within, read => by
      rw [readMembers] at read
      split at read
      · split at read
        · cases read
        · rename_i key _ _
          split at read
          · split at read
            · cases read
            · rename_i value _ first
              have all : ∀ other ∈ (key, value) :: before, other.2.inKeyOrder.IsRead limit :=
                List.forall_mem_cons.mpr ⟨isRead_of_readValue first, within⟩
              split at read
              · exact isRead_of_readMembers all read
              · obtain ⟨rfl, -⟩ := Prod.mk.inj (Option.some.inj read)
                exact isRead_object fun other member => all other (List.mem_reverse.mp member)
              · cases read
          · cases read
      · cases read

end

/-- The document of a text has been read within the limit of nesting. -/
theorem isRead_of_ofText? {source : String} {json : Json} (found : ofText? source = some json) :
    json.IsRead nestingLimit := by
  obtain ⟨scanned, scan, rfl⟩ := Option.map_eq_some_iff.mp found
  unfold scan? at scan
  simp only at scan
  split at scan
  · rename_i value rest read
    split at scan
    · obtain rfl := Option.some.inj scan
      exact isRead_of_readValue read
    · cases scan
  · cases scan

/-- Its indented text is read as the same. -/
theorem ofText?_pretty {json : Json} (proper : json.IsProper) (within : json.depth ≤ nestingLimit) :
    ofText? json.pretty = some json.inKeyOrder := by
  rw [ofText?, read?, scan?_pretty proper.intsFit, if_pos within, proper.echo_eq, Option.map_some]

end Json

end ShelfLibrary
