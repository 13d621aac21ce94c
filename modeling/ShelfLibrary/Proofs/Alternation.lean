import ShelfLibrary.Proofs.Codec
import ShelfLibrary.Proofs.Filter

/-!
# Lists that are expressions

Operands belong at the even positions of a list, connectives at the odd ones, and the list ends with
an operand.  The scan of a list accepts precisely these lists and points at the first position that
is at fault.  What is made or decoded of a list is decided by this alone, once each element has been
decoded.
-/

namespace ShelfLibrary

namespace FilterItem

variable {items : List FilterItem} {position : Nat} {fault : GroupFault}

/-! ## Faults -/

/-- Whether a connective belongs at a position. -/
def isBetween (position : Nat) : Bool :=
  position % 2 == 1

/-- The element at a position, if there is one, is of the kind that belongs there. -/
def FitsAt (items : List FilterItem) (position : Nat) : Prop :=
  ∀ item ∈ items[position]?, item.isConnective = isBetween position

/-- Operands stand at the even positions, connectives at the odd ones, and an operand stands
last. -/
structure IsInfix (items : List FilterItem) : Prop where
  /-- There is one operand more than there are connectives. -/
  odd : items.length % 2 = 1
  /-- Every element stands where its kind belongs. -/
  fits : ∀ position, FitsAt items position

/-- What is wrong with an element that is at fault, by its kind and its place. -/
def faultAt (items : List FilterItem) (position : Nat) : GroupFault :=
  if items[position]?.any isConnective then
    if position = 0 ∨ position + 1 = items.length then .connectiveAtEnd else .connectives
  else .operands

/-- The first fault of a list: the least position at which the wrong kind stands, or else the last
one of an even number. -/
structure IsFault (items : List FilterItem) (position : Nat) (fault : GroupFault) : Prop where
  /-- The position is one of the list. -/
  inside : position < items.length
  /-- Every element before stands where its kind belongs. -/
  before : ∀ earlier < position, FitsAt items earlier
  /-- If the element itself does, it is the last of an even number. -/
  here : FitsAt items position → items.length % 2 = 0 ∧ position + 1 = items.length
  /-- The wording tells what is wrong. -/
  wording : fault = faultAt items position

theorem IsInfix.ne_nil (expression : IsInfix items) : items ≠ [] := by
  rintro rfl
  exact absurd expression.odd (by simp)

theorem IsInfix.not_isFault (expression : IsInfix items) : ¬IsFault items position fault := by
  intro faulty
  have even := (faulty.here (expression.fits position)).1
  have odd := expression.odd
  omega

/-- A list has one first fault. -/
theorem IsFault.unique (faulty : IsFault items position fault) {other : Nat} {second : GroupFault}
    (also : IsFault items other second) : position = other ∧ fault = second := by
  -- Of two positions the earlier one fits, and is the last then.
  have apart {low high : Nat} {first last : GroupFault} (lower : IsFault items low first)
      (higher : IsFault items high last) : ¬low < high := by
    intro less
    have final := (lower.here (higher.before low less)).2
    have inside := higher.inside
    omega
  obtain rfl : position = other := by
    have notBelow := apart faulty also
    have notAbove := apart also faulty
    omega
  exact ⟨rfl, faulty.wording.trans also.wording.symm⟩

/-! ## The scan -/

/-- The verdict on a list that its elements call for. -/
inductive Judges (items : List FilterItem) : Except ValidationError Unit → Prop where
  /-- An expression is accepted. -/
  | accepted (expression : IsInfix items) : Judges items (.ok ())
  /-- Nothing is no expression. -/
  | nothing (vacant : items = []) : Judges items (.error .emptyGroup)
  /-- The first fault is pointed at. -/
  | faulty {position : Nat} {fault : GroupFault} (faulty : IsFault items position fault) :
      Judges items (.error (.malformedGroup position fault))

theorem Judges.unique {verdict other : Except ValidationError Unit} (judges : Judges items verdict)
    (also : Judges items other) : verdict = other := by
  cases judges with
  | accepted expression =>
      cases also with
      | accepted _ => rfl
      | nothing vacant => exact absurd vacant expression.ne_nil
      | faulty faulty => exact absurd faulty expression.not_isFault
  | nothing vacant =>
      cases also with
      | accepted expression => exact absurd vacant expression.ne_nil
      | nothing _ => rfl
      | faulty faulty => exact absurd faulty.inside (by simp [vacant])
  | faulty faulty =>
      cases also with
      | accepted expression => exact absurd faulty expression.not_isFault
      | nothing vacant => exact absurd faulty.inside (by simp [vacant])
      | faulty second =>
          obtain ⟨rfl, rfl⟩ := faulty.unique second
          rfl

theorem isBetween_succ (position : Nat) : isBetween (position + 1) = !isBetween position := by
  simp only [isBetween, Bool.eq_not_iff, ne_eq, beq_eq_beq]
  omega

section Scan

variable {before rest : List FilterItem} {item : FilterItem}

theorem fitsAt_length_iff : FitsAt (before ++ item :: rest) before.length ↔
    item.isConnective = isBetween before.length := by
  simp [FitsAt]

/-- What has been passed with an element that fits. -/
theorem fitsAt_of_lt_succ (fits : ∀ earlier < before.length, FitsAt (before ++ item :: rest) earlier)
    (fit : item.isConnective = isBetween before.length) :
    ∀ earlier < (before ++ [item]).length, FitsAt (before ++ [item] ++ rest) earlier := by
  intro earlier less
  rw [List.append_assoc, List.singleton_append]
  rw [List.length_append, List.length_singleton, Nat.lt_succ_iff_lt_or_eq] at less
  rcases less with less | rfl
  · exact fits earlier less
  · exact fitsAt_length_iff.mpr fit

/-- A connective that stands last is a fault, whether or not it belongs at its position. -/
theorem isFault_of_connective_last
    (fits : ∀ earlier < before.length, FitsAt (before ++ [item]) earlier)
    (joint : item.isConnective = true) :
    IsFault (before ++ [item]) before.length .connectiveAtEnd where
  inside := by simp
  before := fits
  here fit := by
    have odd := joint.symm.trans (fitsAt_length_iff.mp fit)
    simp only [isBetween, eq_comm (a := true), beq_iff_eq] at odd
    simp only [List.length_append, List.length_singleton, and_true]
    omega
  wording := by simp [faultAt, joint]

/-- An element of the kind of the one before it is a fault. -/
theorem isFault_of_same_kind (begun : before ≠ [])
    (fits : ∀ earlier < before.length, FitsAt (before ++ item :: rest) earlier)
    (same : item.isConnective = !isBetween before.length)
    (onward : item.isConnective = true → rest ≠ []) :
    IsFault (before ++ item :: rest) before.length
      (if item.isConnective then .connectives else .operands) where
  inside := by simp
  before := fits
  here fit := by
    have wrong := same.symm.trans (fitsAt_length_iff.mp fit)
    exact absurd wrong (Bool.not_ne_self _)
  wording := by
    have started : before.length ≠ 0 := List.length_eq_zero_iff.not.mpr begun
    cases joint : item.isConnective with
    | false => simp [faultAt, joint]
    | true => simp [faultAt, joint, started, onward joint]

/-- Past elements that stand where they belong, the scan comes to the verdict on the whole. -/
theorem judges_checkAlternation (begun : before ≠ [])
    (fits : ∀ earlier < before.length, FitsAt (before ++ rest) earlier)
    (whole : rest = [] → before.length % 2 = 1) :
    Judges (before ++ rest)
      (checkAlternation before.length (!isBetween before.length) rest) := by
  induction rest generalizing before with
  | nil =>
      rw [List.append_nil] at fits ⊢
      refine .accepted ⟨whole rfl, fun position => ?_⟩
      by_cases inside : position < before.length
      · exact fits position inside
      · simp [FitsAt, List.getElem?_eq_none (not_lt.mp inside)]
  | cons item rest ih =>
      unfold checkAlternation
      split
      · rename_i last
        obtain ⟨joint, rfl⟩ : item.isConnective = true ∧ rest = [] := by simpa using last
        exact .faulty (isFault_of_connective_last fits joint)
      · rename_i notLast
        have onward : item.isConnective = true → rest ≠ [] := by simpa using notLast
        split
        · rename_i same
          exact .faulty (isFault_of_same_kind begun fits (by simpa using same) onward)
        · rename_i different
          have fit : item.isConnective = isBetween before.length := by simpa using different
          have moved := @ih (before ++ [item]) (by simp) (fitsAt_of_lt_succ fits fit) ?_
          · rw [List.append_assoc, List.length_append, List.length_singleton, isBetween_succ,
              Bool.not_not, ← fit] at moved
            exact moved
          · rintro rfl
            have operand : isBetween before.length = false := by
              rw [← fit]
              simpa using notLast
            simp only [isBetween, beq_eq_false_iff_ne] at operand
            rw [List.length_append, List.length_singleton]
            omega

end Scan

/-- The scan comes to the verdict that the elements of a list call for. -/
theorem judges_checkExpression (items : List FilterItem) :
    Judges items (checkExpression items) := by
  cases items with
  | nil => exact .nothing rfl
  | cons item rest =>
      rw [checkExpression]
      split
      · rename_i joint
        refine .faulty ⟨Nat.zero_lt_succ _, by simp, fun fit => ?_, ?_⟩
        · have operand := fit item rfl
          simp [isBetween, joint] at operand
        · simp [faultAt, joint]
      · rename_i operand
        have fit : FitsAt (item :: rest) 0 := by simpa [FitsAt, isBetween] using operand
        have begun : [item] ≠ [] := List.cons_ne_nil item []
        refine judges_checkAlternation begun (fun earlier less => ?_) fun _ => rfl
        obtain rfl : earlier = 0 := Nat.lt_one_iff.mp less
        exact fit

theorem checkExpression_eq_iff {verdict : Except ValidationError Unit} :
    checkExpression items = verdict ↔ Judges items verdict :=
  ⟨fun same => same ▸ judges_checkExpression items, fun judges =>
    (judges_checkExpression items).unique judges⟩

theorem checkExpression_eq_ok : checkExpression items = .ok () ↔ IsInfix items := by
  rw [checkExpression_eq_iff]
  refine ⟨fun judges => ?_, .accepted⟩
  cases judges with
  | accepted expression => exact expression

theorem makeGroup_eq_ok {item : FilterItem} :
    makeGroup items = .ok item ↔ IsInfix items ∧ item = .group items := by
  rw [← checkExpression_eq_ok, makeGroup, Result.bind_eq_ok]
  exact ⟨fun ⟨_, checked, made⟩ => ⟨checked, (Except.ok.inj made).symm⟩,
    fun ⟨checked, same⟩ => ⟨(), checked, congrArg Except.ok same.symm⟩⟩

end FilterItem

theorem Filters.make_eq_ok {items : List FilterItem} {filters : Filters} :
    make items = .ok filters ↔ FilterItem.IsInfix items ∧ filters = ⟨items⟩ := by
  rw [← FilterItem.checkExpression_eq_ok, make, Result.bind_eq_ok]
  exact ⟨fun ⟨_, checked, made⟩ => ⟨checked, (Except.ok.inj made).symm⟩,
    fun ⟨checked, same⟩ => ⟨(), checked, congrArg Except.ok same.symm⟩⟩

/-! ## Documents -/

theorem Decoder.list_any_eq_ok_iff {found : Json} {documents : List Json} :
    list any found = .ok documents ↔ found = .list documents := by
  refine ⟨fun listed => ?_, fun same => same ▸ list_any documents⟩
  cases found with
  | list items => rw [Except.ok.inj ((list_any items).symm.trans listed)]
  | _ => cases listed

namespace FilterItem

variable {items : List FilterItem} {documents : List Json} {document found : Json}
  {item : FilterItem}

/-- A document is that of an element: a condition, a group or a connective. -/
def IsElement (document : Json) (item : FilterItem) : Prop :=
  decodeAt ofJson 0 document = .ok item

/-- The position of an element is told only where it cannot be decoded. -/
theorem decodeAt_eq_ok {decodeGroup : Decoder FilterItem} {position other : Nat}
    (decoded : decodeAt decodeGroup position document = .ok item) :
    decodeAt decodeGroup other document = .ok item := by
  unfold decodeAt at decoded ⊢
  simp only at decoded ⊢
  split at decoded
  · split at decoded
    · exact decoded
    · cases decoded
  · rename_i members
    by_cases leaf : Table.contains members "condition" = true
    · rw [if_pos leaf] at decoded ⊢
      split at decoded
      · exact decoded
      · cases decoded
    · by_cases body : Table.contains members "group" = true
      · rw [if_neg leaf, if_pos body] at decoded ⊢
        split at decoded
        · exact decoded
        · cases decoded
      · rw [if_neg leaf, if_neg body] at decoded
        cases decoded
  · cases decoded

theorem decodeFrom_eq_ok {decodeGroup : Decoder FilterItem} {position : Nat} :
    decodeFrom decodeGroup position documents = .ok items ↔
      List.Forall₂ (fun document item => decodeAt decodeGroup 0 document = .ok item)
        documents items := by
  induction documents generalizing position items with
  | nil =>
      rw [List.forall₂_nil_left_iff]
      exact ⟨fun decoded => (Except.ok.inj decoded).symm, fun same => congrArg Except.ok same.symm⟩
  | cons document rest ih =>
      rw [decodeFrom, Result.bind_eq_ok, List.forall₂_cons_left_iff]
      refine exists_congr fun item => ?_
      rw [Result.bind_eq_ok]
      constructor
      · rintro ⟨first, others, later, same⟩
        exact ⟨others, decodeAt_eq_ok first, ih.mp later, (Except.ok.inj same).symm⟩
      · rintro ⟨others, first, later, rfl⟩
        exact ⟨decodeAt_eq_ok first, others, ih.mpr later, rfl⟩

/-! ### Depth -/

theorem decodeFrom_congr {first second : Decoder FilterItem}
    (same : ∀ document ∈ documents, first document = second document) (position : Nat) :
    decodeFrom first position documents = decodeFrom second position documents := by
  induction documents generalizing position with
  | nil => rfl
  | cons document rest ih =>
      have here : decodeAt first position document = decodeAt second position document := by
        simp only [decodeAt, same document List.mem_cons_self]
      simp only [decodeFrom, here,
        ih fun other member => same other (List.mem_cons_of_mem _ member)]

/-- The documents in the document of a group nest less deep. -/
theorem depth_lt_of_decodeBody (body : decodeBody found = .ok documents)
    (member : document ∈ documents) : document.depth < found.depth := by
  obtain ⟨⟨items, ⟨⟩⟩, shaped, rfl⟩ := Result.map_eq_ok.mp body
  obtain ⟨here, -⟩ := Shape.isFilledFrom_of_decoderWith shaped
  obtain ⟨child, inside, listed⟩ := here.resolve_right (by rintro ⟨⟩)
  obtain rfl := Decoder.list_any_eq_ok_iff.mp listed
  have within : document.HasChild (.list items) := member
  exact within.depth_lt.trans inside.depth_lt

/-- How deep a group may nest makes no difference as long as it is enough. -/
theorem decodeGroup_eq {fuel : Nat} (enough : found.depth < fuel) :
    decodeGroup fuel found = ofJson found := by
  have general : ∀ {fuel other : Nat} {found : Json}, found.depth < fuel → found.depth < other →
      decodeGroup fuel found = decodeGroup other found := by
    intro fuel
    induction fuel with
    | zero => exact fun enough => absurd enough (Nat.not_lt_zero _)
    | succ fuel ih =>
        intro other found enough also
        obtain ⟨other, rfl⟩ := Nat.exists_eq_succ_of_ne_zero (Nat.ne_zero_of_lt also)
        unfold decodeGroup Decoder.refining
        cases body : decodeBody found with
        | error e => rfl
        | ok documents =>
            have same : ∀ document ∈ documents,
                decodeGroup fuel document = decodeGroup other document := by
              intro document member
              have less := depth_lt_of_decodeBody body member
              exact ih (by omega) (by omega)
            simp only [bind, Except.bind, decodeFrom_congr same]
  exact general enough (Nat.lt_succ_self _)

/-- Documents are those of elements, given as much fuel as they need. -/
theorem decodeFrom_decodeGroup_eq_ok {fuel : Nat}
    (enough : ∀ document ∈ documents, document.depth < fuel) :
    decodeFrom (decodeGroup fuel) 0 documents = .ok items ↔
      List.Forall₂ IsElement documents items := by
  rw [decodeFrom_congr (fun document member => decodeGroup_eq (enough document member)),
    decodeFrom_eq_ok]
  exact Iff.rfl

/-- A document of a group is one of documents of elements that are an expression. -/
theorem ofJson_eq_ok :
    ofJson found = .ok item ↔ ∃ documents items, decodeBody found = .ok documents ∧
      List.Forall₂ IsElement documents items ∧ IsInfix items ∧ item = .group items := by
  rw [ofJson, decodeGroup, Decoder.refining_eq_ok_iff]
  refine exists_congr fun documents => ?_
  rw [exists_and_left]
  refine and_congr_right fun body => ?_
  have shallow := fun document => @depth_lt_of_decodeBody documents document found body
  simp only [Result.bind_eq_ok, decodeFrom_decodeGroup_eq_ok shallow, makeGroup_eq_ok]

end FilterItem

/-- A document of a filter is a list of documents of elements that are an expression. -/
theorem Filters.decode_eq_ok {found : Json} {filters : Filters} :
    decode found = .ok filters ↔ ∃ documents items, found = .list documents ∧
      List.Forall₂ FilterItem.IsElement documents items ∧ FilterItem.IsInfix items ∧
        filters = ⟨items⟩ := by
  rw [decode, Decoder.refining_eq_ok_iff]
  refine exists_congr fun documents => ?_
  rw [exists_and_left, Decoder.list_any_eq_ok_iff]
  refine and_congr_right ?_
  rintro rfl
  have shallow : ∀ document ∈ documents, document.depth < (Json.list documents).depth + 1 :=
    fun document member => Nat.lt_succ_of_lt (Json.HasChild.depth_lt member)
  simp only [Result.bind_eq_ok, FilterItem.decodeFrom_decodeGroup_eq_ok shallow,
    Filters.make_eq_ok]

namespace FilterItem

theorem decodeBody_group (documents : List Json) :
    decodeBody (.object [("group", .list documents)]) = .ok documents :=
  Result.map_eq_ok.mpr ⟨(documents, ()), by
    simp only [Shape.decoder, Shape.decoderWith, Shape.fromMembers, Shape.empty, Shape.put?,
      Decoder.list_any]
    rfl, rfl⟩

/-- A list is accepted exactly if it is an expression, an empty one is refused as such, and any
other is refused at its first fault.  Groups and filters are made of precisely the expressions;
their documents are read from lists of documents of elements that are an expression. -/
theorem isInfix_decides (items : List FilterItem) (documents : List Json) :
    (checkExpression items = .ok () ↔ IsInfix items) ∧
      (checkExpression items = .error .emptyGroup ↔ items = []) ∧
      (∀ position fault, checkExpression items = .error (.malformedGroup position fault) ↔
        IsFault items position fault) ∧
      (IsInfix items ∨ items = [] ∨ ∃ position fault, IsFault items position fault) ∧
      (∀ item, makeGroup items = .ok item ↔ IsInfix items ∧ item = .group items) ∧
      (∀ filters, Filters.make items = .ok filters ↔ IsInfix items ∧ filters = ⟨items⟩) ∧
      (∀ item, ofJson (.object [("group", .list documents)]) = .ok item ↔
        ∃ items, List.Forall₂ IsElement documents items ∧ IsInfix items ∧ item = .group items) ∧
      ∀ filters, Filters.decode (.list documents) = .ok filters ↔
        ∃ items, List.Forall₂ IsElement documents items ∧ IsInfix items ∧ filters = ⟨items⟩ := by
  refine ⟨checkExpression_eq_ok, ?_, fun position fault => ?_, ?_, fun _ => makeGroup_eq_ok,
    fun _ => Filters.make_eq_ok, fun item => ?_, fun filters => ?_⟩
  · rw [checkExpression_eq_iff]
    refine ⟨fun judges => ?_, .nothing⟩
    cases judges with
    | nothing vacant => exact vacant
  · rw [checkExpression_eq_iff]
    refine ⟨fun judges => ?_, .faulty⟩
    cases judges with
    | faulty faulty => exact faulty
  · have judges := judges_checkExpression items
    generalize checkExpression items = verdict at judges
    cases judges with
    | accepted expression => exact .inl expression
    | nothing vacant => exact .inr (.inl vacant)
    | faulty faulty => exact .inr (.inr ⟨_, _, faulty⟩)
  · rw [ofJson_eq_ok, decodeBody_group]
    simp
  · rw [Filters.decode_eq_ok]
    simp

/-- Of two operands the second is at fault, and so is a connective that stands last. -/
example :
    checkExpression [.group [], .group []] = .error (.malformedGroup 1 .operands) ∧
      checkExpression [.group [], .connective .or] =
        .error (.malformedGroup 1 .connectiveAtEnd) :=
  ⟨rfl, rfl⟩

end FilterItem

end ShelfLibrary
