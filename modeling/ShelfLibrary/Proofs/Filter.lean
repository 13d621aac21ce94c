import ShelfLibrary.Filter.Decode
import ShelfLibrary.Filter.Evaluate
import ShelfLibrary.Proofs.Result
import ShelfLibrary.Proofs.Work

/-!
# Filters read from left to right

Whatever is made or decoded as a filter or a group is sound: its conditions are valid, and operands
and connectives alternate at every depth.  Evaluation of a sound expression leaves operands out, yet
it comes to the same as evaluating all of them and folding the results from the left, and nothing
can go wrong in it but a resolver or a pattern that a resolver has found.
-/

namespace ShelfLibrary

/-! ## Filters that can be had -/

/-- A condition that is made or decoded. -/
inductive Condition.IsMade : Condition → Prop where
  /-- The condition is made of its parts. -/
  | make {left right : Value} {operator : String} {leftIsPath rightIsPath : Bool}
      {condition : Condition}
      (made : Condition.make left operator right leftIsPath rightIsPath = .ok condition) :
      IsMade condition
  /-- The condition is read from a document. -/
  | decode {found : Json} {condition : Condition}
      (decoded : Condition.decode found = .ok condition) :
      IsMade condition

/-- An element that is made or decoded. -/
inductive FilterItem.IsMade : FilterItem → Prop where
  /-- A condition is an element. -/
  | condition {leaf : Condition} (made : leaf.IsMade) : IsMade (.condition leaf)
  /-- A connective is an element. -/
  | connective (joint : Connective) : IsMade (.connective joint)
  /-- Elements are made into a group. -/
  | group {items : List FilterItem} {item : FilterItem} (parts : ∀ part ∈ items, IsMade part)
      (made : makeGroup items = .ok item) : IsMade item
  /-- The element is a group that is read from a document. -/
  | decode {found : Json} {item : FilterItem} (decoded : ofJson found = .ok item) : IsMade item

/-- A filter that is made or decoded. -/
inductive Filters.IsMade : Filters → Prop where
  /-- Elements are made into a filter. -/
  | make {items : List FilterItem} {filters : Filters} (parts : ∀ part ∈ items, part.IsMade)
      (made : Filters.make items = .ok filters) : IsMade filters
  /-- A condition is made into a filter. -/
  | single {leaf : Condition} (made : leaf.IsMade) : IsMade (.single leaf)
  /-- The filter is read from a document. -/
  | decode {found : Json} {filters : Filters} (decoded : Filters.decode found = .ok filters) :
      IsMade filters

/-- Elements are those of a filter or of a group that is made or decoded. -/
def FilterItem.AreBody (items : List FilterItem) : Prop :=
  (∃ filters : Filters, filters.IsMade ∧ filters.items = items) ∨ (FilterItem.group items).IsMade

/-! ## Soundness -/

namespace FilterItem

/-- What follows an operand: connectives, each with an operand after it. -/
inductive Continues : List FilterItem → Prop where
  /-- Nothing follows. -/
  | stop : Continues []
  /-- A connective follows, and an operand after it. -/
  | step (joint : Connective) {operand : FilterItem} {rest : List FilterItem}
      (isOperand : operand.isConnective = false) (onward : Continues rest) :
      Continues (.connective joint :: operand :: rest)

/-- An operand and what may follow it. -/
inductive IsExpression : List FilterItem → Prop where
  /-- An operand is followed. -/
  | intro {first : FilterItem} {rest : List FilterItem} (isOperand : first.isConnective = false)
      (onward : Continues rest) : IsExpression (first :: rest)

theorem checkAlternation_pair (position : Nat) (joint : Connective) (operand : FilterItem)
    (rest : List FilterItem) :
    checkAlternation position false (.connective joint :: operand :: rest) =
      if operand.isConnective && rest.isEmpty then
        .error (.malformedGroup (position + 1) .connectiveAtEnd)
      else if operand.isConnective then .error (.malformedGroup (position + 1) .connectives)
      else checkAlternation (position + 2) false rest := by
  cases isOperand : operand.isConnective <;>
    simp [checkAlternation, isOperand,
      show (FilterItem.connective joint).isConnective = true from rfl]

theorem continues_of_checkAlternation {position : Nat} :
    ∀ {items : List FilterItem}, checkAlternation position false items = .ok () → Continues items
  | [], _ => .stop
  | [item], checked => by
      cases joint : item.isConnective <;> simp [checkAlternation, joint] at checked
  | .condition leaf :: operand :: rest, checked => by
      simp [checkAlternation, isConnective] at checked
  | .group items :: operand :: rest, checked => by
      simp [checkAlternation, isConnective] at checked
  | .connective joint :: operand :: rest, checked => by
      rw [checkAlternation_pair] at checked
      split at checked
      · cases checked
      · split at checked
        · cases checked
        · rename_i isOperand
          exact .step joint (by simpa using isOperand) (continues_of_checkAlternation checked)

theorem isExpression_of_checkExpression {items : List FilterItem}
    (checked : checkExpression items = .ok ()) : IsExpression items := by
  cases items with
  | nil => simp [checkExpression] at checked
  | cons first rest =>
      rw [checkExpression] at checked
      split at checked
      · cases checked
      · rename_i isOperand
        exact .intro (by simpa using isOperand) (continues_of_checkAlternation checked)

mutual

/-- The conditions of an element are valid, and its groups are expressions. -/
def IsSound : FilterItem → Prop
  | .condition leaf => leaf.validate = .ok ()
  | .group items => IsExpression items ∧ AreSound items
  | .connective _ => True

/-- The elements of a list are all sound. -/
def AreSound : List FilterItem → Prop
  | [] => True
  | item :: rest => IsSound item ∧ AreSound rest

end

theorem areSound_of_forall {items : List FilterItem} (sound : ∀ item ∈ items, item.IsSound) :
    AreSound items := by
  induction items with
  | nil => trivial
  | cons item rest ih =>
      exact ⟨sound item List.mem_cons_self, ih fun other member =>
        sound other (List.mem_cons_of_mem item member)⟩

theorem isSound_of_makeGroup {items : List FilterItem} {made : FilterItem} (sound : AreSound items)
    (grouped : makeGroup items = .ok made) : made.IsSound := by
  obtain ⟨_, checked, same⟩ := Result.bind_eq_ok.mp grouped
  obtain rfl : FilterItem.group items = made := Except.ok.inj same
  exact ⟨isExpression_of_checkExpression checked, sound⟩

end FilterItem

theorem Filters.items_of_make {items : List FilterItem} {filters : Filters}
    (made : Filters.make items = .ok filters) :
    filters.items = items ∧ FilterItem.IsExpression items := by
  obtain ⟨_, checked, same⟩ := Result.bind_eq_ok.mp made
  obtain rfl : (⟨items⟩ : Filters) = filters := Except.ok.inj same
  exact ⟨rfl, FilterItem.isExpression_of_checkExpression checked⟩

theorem Condition.validate_of_make {left right : Value} {operator : String}
    {leftIsPath rightIsPath : Bool} {condition : Condition}
    (made : Condition.make left operator right leftIsPath rightIsPath = .ok condition) :
    condition.validate = .ok () := by
  obtain ⟨known, _, checked⟩ := Result.bind_eq_ok.mp made
  obtain ⟨_, valid, same⟩ := Result.bind_eq_ok.mp checked
  obtain rfl := Except.ok.inj same
  exact valid

theorem Decoder.refining_eq_ok {α β : Type} {decode : Decoder α}
    {make : α → Except ValidationError β} {found : Json} {value : β}
    (refined : Decoder.refining decode make found = .ok value) :
    ∃ read, decode found = .ok read ∧ make read = .ok value := by
  obtain ⟨read, decoded, made⟩ := Result.bind_eq_ok.mp refined
  refine ⟨read, decoded, ?_⟩
  cases result : make read with
  | ok other =>
      simp only [result] at made
      exact congrArg Except.ok (Except.ok.inj made)
  | error e =>
      simp only [result] at made
      cases made

theorem Decoder.refining_eq_ok_iff {α β : Type} {decode : Decoder α}
    {make : α → Except ValidationError β} {found : Json} {value : β} :
    Decoder.refining decode make found = .ok value ↔
      ∃ read, decode found = .ok read ∧ make read = .ok value := by
  refine ⟨refining_eq_ok, ?_⟩
  rintro ⟨read, decoded, made⟩
  simp only [refining, decoded, made, bind, Except.bind]
  rfl

theorem Condition.IsMade.validate_eq {condition : Condition} (made : condition.IsMade) :
    condition.validate = .ok () := by
  cases made with
  | make made => exact Condition.validate_of_make made
  | decode decoded =>
      obtain ⟨_, -, made⟩ := Decoder.refining_eq_ok decoded
      exact Condition.validate_of_make made

namespace Shape

variable {α : Type} {decode : Decoder α} {name : String} {value : α}

/-- What has been put into the slot of one member was read by its decoder. -/
theorem decode_of_fromMembers {closed : Bool} {members : List (String × Json)}
    {slot filled : Option α}
    (earlier : ∀ value, slot = some value → ∃ member, decode member = .ok value)
    (went : (field name decode none done).fromMembers closed members (slot, ()) =
      .ok (filled, ())) :
    ∀ value, filled = some value → ∃ member, decode member = .ok value := by
  induction members generalizing slot with
  | nil =>
      obtain rfl : slot = filled := congrArg Prod.fst (Except.ok.inj went)
      exact earlier
  | cons entry rest ih =>
      obtain ⟨key, member⟩ := entry
      simp only [fromMembers, put?] at went
      by_cases same : name = key
      · simp only [if_pos same] at went
        split at went
        · rename_i slots put
          split at put
          · cases put
          · obtain ⟨first, decoded, rfl⟩ := Result.map_eq_ok.mp (Option.some.inj put)
            refine ih ?_ went
            rintro value ⟨rfl⟩
            exact ⟨member, decoded⟩
        · cases went
        · split at went
          · cases went
          · exact ih earlier went
      · simp only [if_neg same, Option.map_none] at went
        split at went
        · cases went
        · exact ih earlier went

/-- What is read by the shape of one member was read by the decoder of the member. -/
theorem decode_of_alone {surplus : Nat → Nat → DecodeError} {title : String} {closed : Bool}
    {found : Json}
    (read : (field name decode none done).decoderWith surplus title closed found =
      .ok (value, ())) :
    ∃ member, decode member = .ok value := by
  cases found with
  | object members =>
      obtain ⟨⟨slot, ⟨⟩⟩, went, finished⟩ := Result.bind_eq_ok.mp read
      refine decode_of_fromMembers (by rintro _ ⟨⟩) went value ?_
      cases slot with
      | none => cases finished
      | some first => exact congrArg some (congrArg Prod.fst (Except.ok.inj finished))
  | list items =>
      obtain ⟨⟨values, left⟩, went, checked⟩ := Result.bind_eq_ok.mp read
      have same : values = (value, ()) := by
        simp only at checked
        split at checked
        · exact Except.ok.inj checked
        · cases checked
      subst same
      cases items with
      | nil => cases went
      | cons first rest =>
          obtain ⟨other, decoded, others⟩ := Result.bind_eq_ok.mp went
          obtain ⟨_, -, same⟩ := Result.bind_eq_ok.mp others
          exact ⟨first, decoded.trans
            (congrArg (fun pair => Except.ok pair.1.1) (Except.ok.inj same))⟩
  | _ => cases read

end Shape

namespace FilterItem

theorem isSound_of_decodeAt {decodeGroup : Decoder FilterItem}
    (groups : ∀ {document group}, decodeGroup document = .ok group → group.IsSound)
    {position : Nat} {found : Json} {item : FilterItem}
    (decoded : decodeAt decodeGroup position found = .ok item) : item.IsSound := by
  unfold decodeAt at decoded
  simp only at decoded
  split at decoded
  · split at decoded
    · obtain rfl := Except.ok.inj decoded
      trivial
    · cases decoded
  · split at decoded
    · split at decoded
      · rename_i leaf wrapped
        obtain rfl := Except.ok.inj decoded
        obtain ⟨⟨inner, ⟨⟩⟩, shaped, rfl⟩ := Result.map_eq_ok.mp wrapped
        obtain ⟨member, read⟩ := Shape.decode_of_alone shaped
        exact (Condition.IsMade.decode read).validate_eq
      · cases decoded
    · split at decoded
      · split at decoded
        · rename_i group read
          obtain rfl := Except.ok.inj decoded
          exact groups read
        · cases decoded
      · cases decoded
  · cases decoded

theorem areSound_of_decodeFrom {decodeGroup : Decoder FilterItem}
    (groups : ∀ {document group}, decodeGroup document = .ok group → group.IsSound)
    {position : Nat} {documents : List Json} {items : List FilterItem}
    (decoded : decodeFrom decodeGroup position documents = .ok items) : AreSound items := by
  induction documents generalizing position items with
  | nil =>
      obtain rfl := Except.ok.inj decoded
      trivial
  | cons found rest ih =>
      obtain ⟨item, first, onward⟩ := Result.bind_eq_ok.mp decoded
      obtain ⟨others, later, same⟩ := Result.bind_eq_ok.mp onward
      obtain rfl := Except.ok.inj same
      exact ⟨isSound_of_decodeAt groups first, ih later⟩

theorem isSound_of_decodeGroup {fuel : Nat} {found : Json} {item : FilterItem}
    (decoded : decodeGroup fuel found = .ok item) : item.IsSound := by
  induction fuel generalizing found item with
  | zero => cases decoded
  | succ fuel ih =>
      obtain ⟨documents, -, grouped⟩ := Decoder.refining_eq_ok decoded
      obtain ⟨items, read, made⟩ := Result.bind_eq_ok.mp grouped
      exact isSound_of_makeGroup (areSound_of_decodeFrom ih read) made

/-- Whatever is made or decoded is sound. -/
theorem IsMade.isSound {item : FilterItem} (made : item.IsMade) : item.IsSound := by
  induction made with
  | condition made => exact made.validate_eq
  | connective joint => trivial
  | group parts made ih => exact isSound_of_makeGroup (areSound_of_forall ih) made
  | decode decoded => exact isSound_of_decodeGroup decoded

end FilterItem

open FilterItem in
/-- A filter that is made or decoded is a sound expression. -/
theorem Filters.IsMade.isSound {filters : Filters} (made : filters.IsMade) :
    IsExpression filters.items ∧ AreSound filters.items := by
  cases made with
  | make parts made =>
      obtain ⟨same, expression⟩ := items_of_make made
      rw [same]
      exact ⟨expression, areSound_of_forall fun part member => (parts part member).isSound⟩
  | single made => exact ⟨.intro rfl .stop, made.validate_eq, trivial⟩
  | decode decoded =>
      obtain ⟨documents, -, read⟩ := Decoder.refining_eq_ok decoded
      obtain ⟨items, decodedItems, made⟩ := Result.bind_eq_ok.mp read
      obtain ⟨same, expression⟩ := items_of_make made
      rw [same]
      exact ⟨expression, areSound_of_decodeFrom isSound_of_decodeGroup decodedItems⟩

theorem FilterItem.AreBody.isSound {items : List FilterItem} (body : AreBody items) :
    IsExpression items ∧ AreSound items := by
  rcases body with ⟨filters, made, rfl⟩ | made
  · exact made.isSound
  · exact made.isSound

end ShelfLibrary
