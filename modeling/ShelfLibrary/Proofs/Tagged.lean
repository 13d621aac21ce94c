import ShelfLibrary.Proofs.Decoder
import ShelfLibrary.Proofs.Instant
import ShelfLibrary.Proofs.Json
import ShelfLibrary.Value.Tagged

/-!
# Values that are read back

A value is read back from its tagged document exactly when every double in it is finite and every
instant standard.
-/

namespace ShelfLibrary

namespace Value

mutual

/-- Whether every record in a value has its fields in key order. -/
def IsOrdered : Value → Prop
  | .list items => AreOrdered items
  | .record fields => Table.Sorted fields ∧ AreOrderedFields fields
  | _ => True

/-- Whether every record in some values has its fields in key order. -/
def AreOrdered : List Value → Prop
  | [] => True
  | item :: rest => IsOrdered item ∧ AreOrdered rest

/-- Whether every record in some fields has its own fields in key order. -/
def AreOrderedFields : List (String × Value) → Prop
  | [] => True
  | (_, value) :: rest => IsOrdered value ∧ AreOrderedFields rest

end

mutual

/-- Whether every double in a value is finite and every instant standard. -/
def IsLegible : Value → Prop
  | .float d => d.isFinite
  | .instant moment => moment.IsStandard
  | .list items => AreLegible items
  | .record fields => AreLegibleFields fields
  | _ => True

/-- Whether every double in some values is finite and every instant standard. -/
def AreLegible : List Value → Prop
  | [] => True
  | item :: rest => IsLegible item ∧ AreLegible rest

/-- Whether every double in some fields is finite and every instant standard. -/
def AreLegibleFields : List (String × Value) → Prop
  | [] => True
  | (_, value) :: rest => IsLegible value ∧ AreLegibleFields rest

end

end Value

namespace Json

mutual

theorem depth_echo : ∀ json : Json, json.echo.depth = json.depth
  | .null => rfl
  | .bool _ => rfl
  | .int _ => rfl
  | .float d => by
      by_cases finite : d.isFinite <;> simp [echo, finite, depth]
  | .text _ => rfl
  | .list items => by simp only [echo, depth, depth_echoItems items]
  | .object members => by simp only [echo, depth, depth_echoMembers members]

theorem depth_echoItems : ∀ items : List Json, depthOfItems (echoItems items) = depthOfItems items
  | [] => rfl
  | item :: rest => by simp only [echoItems, depthOfItems, depth_echo item, depth_echoItems rest]

theorem depth_echoMembers : ∀ members : List (String × Json),
    depthOfMembers (echoMembers members) = depthOfMembers members
  | [] => rfl
  | (_, value) :: rest => by
      simp only [echoMembers, depthOfMembers, depth_echo value, depth_echoMembers rest]

end

end Json

namespace Value

mutual

theorem intsFit_toTagged : ∀ value : Value, value.toTagged.IntsFit
  | .null => by simp [toTagged, Json.IntsFit, Json.IntsFitMembers]
  | .bool _ => by simp [toTagged, tagged, Json.IntsFit, Json.IntsFitMembers]
  | .int n => by
      have least := n.le_toInt
      have most := n.toInt_lt
      simp only [toTagged, tagged, Json.IntsFit, Json.IntsFitMembers, Json.isWholeRange]
      simp
      omega
  | .float _ => by simp [toTagged, tagged, Json.IntsFit, Json.IntsFitMembers]
  | .text _ => by simp [toTagged, tagged, Json.IntsFit, Json.IntsFitMembers]
  | .instant _ => by simp [toTagged, tagged, Json.IntsFit, Json.IntsFitMembers]
  | .list items => by
      simpa [toTagged, tagged, Json.IntsFit, Json.IntsFitMembers] using intsFit_toTaggedItems items
  | .record fields => by
      simpa [toTagged, tagged, Json.IntsFit, Json.IntsFitMembers]
        using intsFit_toTaggedFields fields

theorem intsFit_toTaggedItems : ∀ items : List Value, Json.IntsFitItems (toTaggedItems items)
  | [] => trivial
  | item :: rest => ⟨intsFit_toTagged item, intsFit_toTaggedItems rest⟩

theorem intsFit_toTaggedFields : ∀ fields : List (String × Value),
    Json.IntsFitMembers (toTaggedFields fields)
  | [] => trivial
  | (_, value) :: rest => ⟨intsFit_toTagged value, intsFit_toTaggedFields rest⟩

end

/-! ## Tagged documents -/

theorem keys_toTaggedFields (fields : List (String × Value)) :
    (toTaggedFields fields).map Prod.fst = fields.map Prod.fst := by
  induction fields with
  | nil => rfl
  | cons entry rest ih =>
      obtain ⟨key, value⟩ := entry
      simp [toTaggedFields, ih]

end Value

theorem Json.keys_echoMembers (members : List (String × Json)) :
    (Json.echoMembers members).map Prod.fst = members.map Prod.fst := by
  induction members with
  | nil => rfl
  | cons entry rest ih =>
      obtain ⟨key, value⟩ := entry
      simp [Json.echoMembers, ih]

namespace Value

/-- A tagged document of a known kind is decoded by its content. -/
theorem decodeTagged_tagged {fuel : Nat} {kind : String} (known : taggedKinds.contains kind = true)
    (content : Json) : decodeTagged (fuel + 1) (tagged kind content) =
      decodeContent (decodeTagged fuel) kind (some content) := by
  rw [decodeTagged, tagged, Decoder.adjacent_pair known (by decide)]

section

variable (nested : Decoder Value) (found : Json)

theorem decodeContent_bool :
    decodeContent nested "bool" (some found) = (Decoder.bool found).map Value.bool :=
  rfl

theorem decodeContent_int :
    decodeContent nested "int" (some found) = (Decoder.int64 found).map Value.int :=
  rfl

theorem decodeContent_float :
    decodeContent nested "float" (some found) = (decodeDouble found).map Value.float :=
  rfl

theorem decodeContent_string :
    decodeContent nested "string" (some found) = (Decoder.text found).map Value.text :=
  rfl

theorem decodeContent_date_time :
    decodeContent nested "date_time" (some found) = (decodeInstant found).map Value.instant :=
  rfl

theorem decodeContent_list :
    decodeContent nested "list" (some found) = (Decoder.list nested found).map Value.list :=
  rfl

theorem decodeContent_record :
    decodeContent nested "record" (some found) = (Decoder.table nested found).map Value.record :=
  rfl

end

theorem echo_tagged (kind : String) (content : Json) :
    (tagged kind content).echo = tagged kind content.echo := by
  simp [tagged, Json.echo, Json.echoMembers]

theorem decodeInstant_zuluText {moment : Instant} :
    (decodeInstant (.text moment.zuluText)).map Value.instant = .ok (.instant moment) ↔
      moment.IsStandard := by
  rw [← Instant.ofRelaxed_zuluText_iff]
  unfold decodeInstant
  simp only
  cases Instant.ofRelaxed moment.zuluText <;> simp [Except.map]

theorem decodeDouble_echo {d : Double} :
    (decodeDouble (Json.float d).echo).map Value.float = .ok (.float d) ↔ d.isFinite := by
  by_cases finite : d.isFinite <;> simp [Json.echo, finite, decodeDouble, Except.map]

mutual

/-- The values that are read back from their tagged documents. -/
theorem decodeTagged_echo : ∀ (value : Value) (fuel : Nat), value.IsOrdered →
    value.toTagged.depth < fuel →
      (decodeTagged fuel value.toTagged.echo = .ok value ↔ value.IsLegible)
  | value, 0, _, enough => absurd enough (Nat.not_lt_zero _)
  | .null, fuel + 1, _, _ => by
      simp only [toTagged, Json.echo, Json.echoMembers, decodeTagged]
      rw [Decoder.adjacent_alone (by decide) (by decide)]
      simp [decodeContent, Decoder.unit, IsLegible]
  | .bool b, fuel + 1, _, _ => by
      rw [toTagged, echo_tagged, decodeTagged_tagged (by decide), decodeContent_bool]
      simp [Json.echo, Decoder.bool, Except.map, IsLegible]
  | .int n, fuel + 1, _, _ => by
      have range : -2 ^ 63 ≤ n.toInt ∧ n.toInt < 2 ^ 63 := ⟨n.le_toInt, n.toInt_lt⟩
      rw [toTagged, echo_tagged, decodeTagged_tagged (by decide), decodeContent_int]
      have fits : (decide (-2 ^ 63 ≤ n.toInt) && decide (n.toInt < 2 ^ 63)) = true := by
        simpa using range
      simp only [Json.echo, Decoder.int64, IsLegible, iff_true]
      rw [if_pos fits, Int64.ofInt_toInt]
      rfl
  | .float d, fuel + 1, _, _ => by
      rw [toTagged, echo_tagged, decodeTagged_tagged (by decide), decodeContent_float]
      exact decodeDouble_echo
  | .text _, fuel + 1, _, _ => by
      rw [toTagged, echo_tagged, decodeTagged_tagged (by decide), decodeContent_string]
      simp [Json.echo, Decoder.text, Except.map, IsLegible]
  | .instant moment, fuel + 1, _, _ => by
      rw [toTagged, echo_tagged, decodeTagged_tagged (by decide), decodeContent_date_time]
      exact decodeInstant_zuluText
  | .list items, fuel + 1, ordered, enough => by
      rw [toTagged, echo_tagged, decodeTagged_tagged (by decide), decodeContent_list]
      have inside := decodeTagged_echoItems items fuel ordered (by
        simp only [toTagged, tagged, Json.depth, Json.depthOfMembers] at enough
        omega)
      rw [IsLegible, ← inside]
      simp only [Json.echo, Decoder.list]
      cases (Json.echoItems (toTaggedItems items)).mapM (decodeTagged fuel) <;> simp [Except.map]
  | .record fields, fuel + 1, ordered, enough => by
      rw [toTagged, echo_tagged, decodeTagged_tagged (by decide), decodeContent_record]
      have inside := decodeTagged_echoFields fields fuel ordered.2 (by
        simp only [toTagged, tagged, Json.depth, Json.depthOfMembers] at enough
        omega)
      have keys : (Json.echoMembers (toTaggedFields fields)).map Prod.fst =
          fields.map Prod.fst := by
        rw [Json.keys_echoMembers, keys_toTaggedFields]
      rw [IsLegible, ← inside, ← Decoder.table_eq_ok keys ordered.1, Json.echo]
      cases Decoder.table (decodeTagged fuel)
        (.object (Json.echoMembers (toTaggedFields fields))) <;>
        simp [Except.map]

/-- The items that are read back from their tagged documents. -/
theorem decodeTagged_echoItems : ∀ (items : List Value) (fuel : Nat), AreOrdered items →
    Json.depthOfItems (toTaggedItems items) < fuel →
      ((Json.echoItems (toTaggedItems items)).mapM (decodeTagged fuel) = .ok items ↔
        AreLegible items)
  | [], fuel, _, _ => by simp [toTaggedItems, Json.echoItems, AreLegible, pure, Except.pure]
  | item :: rest, fuel, ordered, enough => by
      simp only [toTaggedItems, Json.depthOfItems, Nat.max_lt] at enough
      have first := decodeTagged_echo item fuel ordered.1 enough.1
      have others := decodeTagged_echoItems rest fuel ordered.2 enough.2
      rw [AreLegible, ← first, ← others]
      simp only [toTaggedItems, Json.echoItems, List.mapM_cons]
      cases decodeTagged fuel item.toTagged.echo <;>
        cases (Json.echoItems (toTaggedItems rest)).mapM (decodeTagged fuel) <;>
        simp [bind, Except.bind, pure, Except.pure]

/-- The fields that are read back from their tagged documents. -/
theorem decodeTagged_echoFields : ∀ (fields : List (String × Value)) (fuel : Nat),
    AreOrderedFields fields → Json.depthOfMembers (toTaggedFields fields) < fuel →
      ((Json.echoMembers (toTaggedFields fields)).mapM (Decoder.member (decodeTagged fuel)) =
          .ok fields ↔ AreLegibleFields fields)
  | [], fuel, _, _ => by
      simp [toTaggedFields, Json.echoMembers, AreLegibleFields, pure, Except.pure]
  | (key, value) :: rest, fuel, ordered, enough => by
      simp only [toTaggedFields, Json.depthOfMembers, Nat.max_lt] at enough
      have first := decodeTagged_echo value fuel ordered.1 enough.1
      have others := decodeTagged_echoFields rest fuel ordered.2 enough.2
      rw [AreLegibleFields, ← first, ← others]
      simp only [toTaggedFields, Json.echoMembers, List.mapM_cons, Decoder.member]
      cases decodeTagged fuel value.toTagged.echo <;>
        cases (Json.echoMembers (toTaggedFields rest)).mapM (Decoder.member (decodeTagged fuel)) <;>
        simp [bind, Except.bind, pure, Except.pure, Except.map]

end

end Value

end ShelfLibrary
