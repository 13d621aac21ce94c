import ShelfLibrary.Proofs.QueryDocument

/-!
# The two readers of queries

The reader of query texts looks the kind of a document up before anything else and reads the
documents in a transaction as operations.  The decoder of documents reads a query as an alternative,
the documents in a transaction as queries, and refuses the transactions among them afterwards.  Both
accept the same documents and read the same queries, save that the decoder also takes a kind that
does not stand in the document as a text.
-/

namespace ShelfLibrary

variable {α : Type} {document payload : Json} {kind : String} {operation : Operation}
  {query : Query}

/-! ## Members that stand once -/

namespace Decoder

theorem sole?_eq {members : List (String × Json)} (distinct : (Table.keys members).Nodup)
    (key : String) : sole? members key = .ok (Table.get? members key) := by
  have counted : (members.filter fun entry => entry.1 == key) =
      ((Table.get? members key).map fun value => (key, value)).toList := by
    induction members with
    | nil => rfl
    | cons entry rest ih =>
        obtain ⟨name, value⟩ := entry
        obtain ⟨fresh, distinct⟩ := List.nodup_cons.mp distinct
        by_cases same : name = key
        · subst same
          have absent : Table.get? rest name = none :=
            Table.get?_eq_none_iff.mpr fun entry member same =>
              fresh (List.mem_map.mpr ⟨entry, member, same⟩)
          simp [Table.get?_cons, ih distinct, absent]
        · simp [Table.get?_cons, ih distinct, same]
  unfold sole?
  rw [counted]
  cases Table.get? members key <;> rfl

/-- An alternative whose kind stands in an object as a text, among whatever other members. -/
theorem adjacent_eq_ok_iff {title tag content : String} {known : List String}
    {read : String → Option Json → Except DecodeError α} {members : List (String × Json)}
    (distinct : (Table.keys members).Nodup) (tagged : Table.get? members tag = some (.text kind))
    {value : α} : adjacent title tag content known read (.object members) = .ok value ↔
      known.contains kind = true ∧ read kind (Table.get? members content) = .ok value := by
  cases isKnown : known.contains kind <;>
    simp only [adjacent, sole?_eq distinct, tagged, name, name.check, isKnown, bind, Except.bind,
      Bool.false_eq_true, if_false, if_true, false_and, true_and, reduceCtorEq]

theorem required_eq_ok_iff {content : String} {decode : Decoder α} {child : Option Json}
    {value : α} : required content decode child = .ok value ↔
      ∃ found, child = some found ∧ decode found = .ok value := by
  refine ⟨required_eq_ok, ?_⟩
  rintro ⟨found, rfl, decoded⟩
  exact decoded

end Decoder

/-! ## Shapes of one member -/

theorem Shape.ok_alone_inj {value other : α} :
    (.ok (value, ()) : Except DecodeError (Filled [α])) = .ok (other, ()) ↔ value = other :=
  ⟨fun same => congrArg Prod.fst (Except.ok.inj same), fun same => same ▸ rfl⟩

/-- A closed shape of one member is read off an object or an array that holds the member alone. -/
theorem Shape.decoder_alone_eq_ok {name title : String} {decode : Decoder α} {found : Json}
    {value : α} : (field name decode none done).decoder title true found = .ok (value, ()) ↔
      ∃ member, (found = .object [(name, member)] ∨ found = .list [member]) ∧
        decode member = .ok value := by
  cases found with
  | object members =>
      rcases members with _ | ⟨⟨key, member⟩, _ | ⟨⟨other, second⟩, rest⟩⟩
      · simp [decoder, decoderWith, fromMembers, finish, empty, bind, Except.bind]
      · by_cases same : name = key
        · subst same
          cases decoded : decode member <;>
            simp [decoder, decoderWith, fromMembers, put?, finish, empty, decoded, ok_alone_inj,
              bind, Except.bind, Except.map]
        · simp [decoder, decoderWith, fromMembers, put?, empty, same, Ne.symm same, bind,
            Except.bind]
      · by_cases same : name = key
        · subst same
          cases decoded : decode member <;> by_cases again : name = other <;>
            simp [decoder, decoderWith, fromMembers, put?, empty, decoded, again, bind,
              Except.bind, Except.map]
        · simp [decoder, decoderWith, fromMembers, put?, empty, same, bind, Except.bind]
  | list items =>
      rcases items with _ | ⟨member, _ | ⟨second, rest⟩⟩
      · simp [decoder, decoderWith, fromArray, fromItems, bind, Except.bind]
      · cases decoded : decode member <;>
          simp [decoder, decoderWith, fromArray, fromItems, decoded, ok_alone_inj, bind,
            Except.bind, pure, Except.pure]
      · cases decoded : decode member <;>
          simp [decoder, decoderWith, fromArray, fromItems, decoded, bind, Except.bind, pure,
            Except.pure]
  | _ => simp [decoder, decoderWith]

/-! ## Payloads -/

namespace Operation

/-- Both readings of a payload make the same operation. -/
theorem PayloadReader.decode_eq_ok_iff {reader : PayloadReader} :
    reader.decode payload = .ok operation ↔ reader.read payload = .ok operation := by
  unfold decode read Decoder.refining
  cases reader.shape.decoder reader.title true payload with
  | error e => simp [bind, Except.bind]
  | ok members =>
      cases made : (reader.make members).checked <;>
        simp [bind, Except.bind, made, pure, Except.pure]

/-- No payload of an operation is `null`. -/
theorem PayloadReader.read_null (reader : PayloadReader) : reader.read .null ≠ .ok operation := by
  rintro ⟨⟩

/-- A kind of query is one of operation, or that of transactions. -/
theorem contains_kinds_iff :
    Query.kinds.contains kind = true ↔ kind = "transaction" ∨ ∃ reader,
      payloadReader? kind = some reader := by
  unfold payloadReader?
  split
  case h_9 => simp_all [Query.kinds]
  all_goals simp [Query.kinds]

end Operation

namespace Query

open Operation

/-- Whether a payload lists documents as the queries of a transaction: under their name, or alone in
an array. -/
def Lists (payload : Json) (documents : List Json) : Prop :=
  payload = .object [("queries", .list documents)] ∨ payload = .list [.list documents]

/-- What is read of the queries in a payload is read of the documents that it lists. -/
theorem decodeQueries_eq_ok {title : String} {decode : Decoder α} {values : List α} :
    decodeQueries title decode payload = .ok values ↔
      ∃ documents, Lists payload documents ∧ documents.mapM decode = .ok values := by
  unfold decodeQueries
  rw [Result.map_eq_ok]
  constructor
  · rintro ⟨⟨read, ⟨⟩⟩, shaped, rfl⟩
    obtain ⟨member, listed, decoded⟩ := Shape.decoder_alone_eq_ok.mp shaped
    cases member with
    | list documents => exact ⟨documents, listed, decoded⟩
    | _ => cases decoded
  · rintro ⟨documents, listed, decoded⟩
    exact ⟨(values, ()), Shape.decoder_alone_eq_ok.mpr ⟨.list documents, listed, decoded⟩, rfl⟩

theorem Lists.isProper {documents : List Json} (listed : Lists payload documents)
    (proper : payload.IsProper) : ∀ inner ∈ documents, inner.IsProper := by
  rcases listed with rfl | rfl
  · exact Json.isProper_list_iff.mp ((Json.isProper_object_iff.mp proper).2 _ List.mem_cons_self)
  · exact Json.isProper_list_iff.mp (Json.isProper_list_iff.mp proper _ List.mem_cons_self)

theorem Lists.unique {documents others : List Json} (listed : Lists payload documents)
    (again : Lists payload others) : documents = others := by
  rcases listed with rfl | rfl <;> rcases again with same | same <;> cases same <;> rfl

/-- Whether the kind of a document stands in it as a text. -/
def IsTagged (document : Json) : Prop :=
  ∃ kind, document.member? "op" = some (.text kind)

/-- Whether a document is tagged and, if it is that of a transaction, so are those it lists. -/
structure IsTaggedThrough (document : Json) : Prop where
  /-- The document is. -/
  self : IsTagged document
  /-- The documents in a transaction are. -/
  inner : document.member? "op" = some (.text "transaction") →
    ∀ payload documents, document.member? "payload" = some payload → Lists payload documents →
      ∀ inner ∈ documents, IsTagged inner

/-! ## What is read of a document -/

/-- What a document is read as, when the operations in a transaction are read of the documents that
it lists in a way of their own. -/
inductive IsReadAs (inner : List Json → List Operation → Prop) (document : Json) : Query → Prop
  /-- An operation is read of the payload. -/
  | single {kind payload reader operation}
      (tagged : document.member? "op" = some (.text kind))
      (held : document.member? "payload" = some payload)
      (known : payloadReader? kind = some reader)
      (read : reader.read payload = .ok operation) :
      IsReadAs inner document (.single operation)
  /-- The operations of a transaction are read of the documents in the payload. -/
  | transaction {payload documents operations}
      (tagged : document.member? "op" = some (.text "transaction"))
      (held : document.member? "payload" = some payload)
      (listed : Lists payload documents)
      (read : inner documents operations)
      (valid : (Query.transaction operations).validate = .ok ()) :
      IsReadAs inner document (.transaction operations)

theorem payloadReader?_transaction : payloadReader? "transaction" = none := rfl

/-! ## The reader of query texts -/

theorem split_eq_ok : split document = .ok (kind, payload) ↔
    document.member? "op" = some (.text kind) ∧
      payload = (document.member? "payload").getD .null := by
  cases document with
  | object members =>
      simp only [split, Json.member?]
      cases Table.get? members "op" with
      | none => simp
      | some tag => cases tag <;> simp [eq_comm]
  | _ => simp [split, Json.member?]

theorem split_of_tagged (tagged : document.member? "op" = some (.text kind))
    (held : document.member? "payload" = some payload) : split document = .ok (kind, payload) :=
  split_eq_ok.mpr ⟨tagged, by rw [held, Option.getD_some]⟩

theorem readOperation_eq_ok : readOperation kind payload = .ok operation ↔
    ∃ reader, payloadReader? kind = some reader ∧ reader.read payload = .ok operation := by
  unfold readOperation
  cases payloadReader? kind <;> simp

/-- An operation is read of a document that has a kind of operation, and a payload. -/
theorem readDocument_eq_ok : readDocument document = .ok operation ↔
    ∃ kind payload reader, document.member? "op" = some (.text kind) ∧
      document.member? "payload" = some payload ∧ payloadReader? kind = some reader ∧
        reader.read payload = .ok operation := by
  constructor
  · intro read
    obtain ⟨⟨kind, payload⟩, separated, chosen⟩ := Result.bind_eq_ok.mp read
    obtain ⟨tagged, rfl⟩ := split_eq_ok.mp separated
    obtain ⟨reader, known, read⟩ := readOperation_eq_ok.mp chosen
    cases held : document.member? "payload" with
    | none =>
        rw [held] at read
        exact absurd read reader.read_null
    | some payload =>
        rw [held] at read
        exact ⟨kind, payload, reader, tagged, rfl, known, read⟩
  · rintro ⟨kind, payload, reader, tagged, held, known, read⟩
    exact Result.bind_eq_ok.mpr
      ⟨_, split_of_tagged tagged held, readOperation_eq_ok.mpr ⟨reader, known, read⟩⟩

theorem readOperations_cons {position : Nat} {rest : List Json} {operations : List Operation} :
    readOperations position (document :: rest) = .ok operations ↔
      ∃ operation others, readDocument document = .ok operation ∧
        readOperations (position + 1) rest = .ok others ∧ operations = operation :: others := by
  refine ⟨readOperations_eq_ok, ?_⟩
  rintro ⟨operation, others, first, later, rfl⟩
  obtain ⟨kind, payload, reader, tagged, held, known, read⟩ := readDocument_eq_ok.mp first
  unfold readOperations
  split
  · rename_i nested
    rw [tagged] at nested
    obtain rfl : kind = "transaction" := by simpa using nested
    cases known
  · obtain ⟨separate, separated, chosen⟩ := Result.bind_eq_ok.mp first
    simp only [separated, chosen, later, bind, Except.bind]
    rfl

/-- What the reader of query texts reads of a document that it accepts. -/
theorem isReadAs_of_ofDocument (read : ofDocument document = .ok query) :
    IsReadAs (fun documents operations => readOperations 0 documents = .ok operations)
      document query := by
  obtain ⟨⟨kind, payload⟩, separated, done⟩ := Result.bind_eq_ok.mp read
  simp only at done
  split at done
  · rename_i isTransaction
    subst isTransaction
    obtain ⟨tagged, same⟩ := split_eq_ok.mp separated
    split at done
    · cases done
    · rename_i documents decoded
      obtain ⟨operations, went, checked⟩ := Result.bind_eq_ok.mp done
      obtain ⟨_, valid, made⟩ := Result.bind_eq_ok.mp checked
      obtain rfl := Except.ok.inj made
      obtain ⟨found, listed, kept⟩ := decodeQueries_eq_ok.mp decoded
      obtain rfl : found = documents := Except.ok.inj ((Decoder.list_any found).symm.trans kept)
      cases held : document.member? "payload" with
      | none =>
          -- An absent payload counts as `null`, which lists nothing.
          rw [held, Option.getD_none] at same
          subst same
          exact listed.elim (by rintro ⟨⟩) (by rintro ⟨⟩)
      | some given =>
          rw [held, Option.getD_some] at same
          exact .transaction tagged (same ▸ held) listed went valid
  · obtain ⟨operation, chosen, made⟩ := Result.bind_eq_ok.mp done
    obtain rfl := Except.ok.inj made
    obtain ⟨kind, payload, reader, tagged, held, known, read⟩ :=
      readDocument_eq_ok.mp (Result.bind_eq_ok.mpr ⟨_, separated, chosen⟩)
    exact .single tagged held known read

/-- What the reader of query texts reads. -/
theorem ofDocument_eq_ok : ofDocument document = .ok query ↔
    IsReadAs (fun documents operations => readOperations 0 documents = .ok operations)
      document query := by
  refine ⟨isReadAs_of_ofDocument, fun read => ?_⟩
  cases read with
  | @single kind payload reader operation tagged held known read =>
      have chosen := readOperation_eq_ok.mpr ⟨reader, known, read⟩
      have other : kind ≠ "transaction" := by
        rintro rfl
        cases known
      simp only [ofDocument, split_of_tagged tagged held, chosen, other, if_false, bind,
        Except.bind]
      rfl
  | @transaction payload documents operations tagged held listed read valid =>
      have decoded : decodeQueries "RawTransaction" Decoder.any payload = .ok documents :=
        decodeQueries_eq_ok.mpr ⟨documents, listed, Decoder.list_any documents⟩
      simp only [ofDocument, split_of_tagged tagged held, decoded, read, valid, if_true, bind,
        Except.bind]
      rfl

/-! ## The decoder of documents -/

theorem operationsFrom_eq_ok {position : Nat} {queries : List Query}
    {operations : List Operation} :
    operationsFrom position queries = .ok operations ↔ queries = operations.map .single := by
  induction queries generalizing position operations with
  | nil => cases operations <;> simp [operationsFrom]
  | cons first rest ih =>
      cases first with
      | single operation =>
          rw [operationsFrom, Result.map_eq_ok]
          simp only [ih]
          cases operations with
          | nil => simp
          | cons head tail => simp [and_comm]
      | transaction inner => cases operations <;> simp [operationsFrom]

theorem validate_transaction_eq_ok {operations : List Operation} :
    (transaction operations).validate = .ok () ↔ operations.isEmpty = false ∧
      operations.length ≤ transactionLimit ∧ operations.forM Operation.validate = .ok () := by
  cases none : operations.isEmpty <;>
    by_cases many : transactionLimit < operations.length <;>
      simp [validate, none, many, Nat.le_of_not_lt, bind, Except.bind, throw, throwThe,
        MonadExceptOf.throw]

/-- A transaction is made of queries that are operations, if there are neither none nor too many. -/
theorem makeTransaction_eq_ok {queries : List Query} :
    makeTransaction queries = .ok query ↔ ∃ operations, queries = operations.map .single ∧
      (transaction operations).validate = .ok () ∧ query = .transaction operations := by
  have made : makeTransaction queries = .ok query ↔ queries.isEmpty = false ∧
      queries.length ≤ transactionLimit ∧ ∃ operations, operationsFrom 0 queries = .ok operations ∧
        (transaction operations).validate = .ok () ∧ query = .transaction operations := by
    cases none : queries.isEmpty <;>
      by_cases many : transactionLimit < queries.length <;>
        simp [makeTransaction, none, many, Nat.le_of_not_lt, Result.bind_eq_ok, throw, throwThe,
          MonadExceptOf.throw]
    refine exists_congr fun operations => and_congr_right fun _ => ?_
    cases (transaction operations).validate <;> simp [eq_comm]
  rw [made]
  constructor
  · rintro ⟨-, -, operations, taken, valid, same⟩
    exact ⟨operations, operationsFrom_eq_ok.mp taken, valid, same⟩
  · -- The number of queries is checked before, and again as part of the rules of the transaction.
    rintro ⟨operations, rfl, valid, same⟩
    obtain ⟨some, few, -⟩ := validate_transaction_eq_ok.mp valid
    exact ⟨by simpa using some, by simpa using few, operations, operationsFrom_eq_ok.mpr rfl,
      valid, same⟩

/-- What the decoder of documents reads off a document that has a kind. -/
theorem decodeWithin_eq_ok (proper : document.IsProper) (tagged : IsTagged document) (fuel : Nat) :
    decodeWithin (fuel + 1) document = .ok query ↔
      IsReadAs (fun documents operations =>
        documents.mapM (decodeWithin fuel) = .ok (operations.map .single)) document query := by
  obtain ⟨kind, tagged⟩ := tagged
  cases document with
  | object members =>
      have distinct : (Table.keys members).Nodup := proper.1
      rw [decodeWithin, Decoder.adjacent_eq_ok_iff distinct tagged, contains_kinds_iff]
      constructor
      · rintro ⟨isKnown, decoded⟩
        cases known : payloadReader? kind with
        | some reader =>
            rw [known] at decoded
            obtain ⟨payload, held, decoded⟩ := Decoder.required_eq_ok decoded
            obtain ⟨operation, read, rfl⟩ := Result.map_eq_ok.mp decoded
            exact .single tagged held known (PayloadReader.decode_eq_ok_iff.mp read)
        | none =>
            obtain rfl : kind = "transaction" := isKnown.resolve_right (by simp [known])
            rw [known] at decoded
            obtain ⟨payload, held, decoded⟩ := Decoder.required_eq_ok decoded
            obtain ⟨queries, decoded, made⟩ := Decoder.refining_eq_ok decoded
            obtain ⟨documents, listed, read⟩ := decodeQueries_eq_ok.mp decoded
            obtain ⟨operations, rfl, valid, rfl⟩ := makeTransaction_eq_ok.mp made
            exact .transaction tagged held listed read valid
      · intro read
        cases read with
        | @single again payload reader operation tagged' held known read =>
            obtain rfl : again = kind := by simpa [tagged] using tagged'.symm
            refine ⟨.inr ⟨reader, known⟩, ?_⟩
            rw [known, Decoder.required_eq_ok_iff]
            exact ⟨payload, held, Result.map_eq_ok.mpr
              ⟨operation, PayloadReader.decode_eq_ok_iff.mpr read, rfl⟩⟩
        | @transaction payload documents operations tagged' held listed read valid =>
            obtain rfl : "transaction" = kind := by simpa [tagged] using tagged'.symm
            refine ⟨.inl rfl, ?_⟩
            rw [payloadReader?_transaction, Decoder.required_eq_ok_iff]
            refine ⟨payload, held, ?_⟩
            exact Decoder.refining_eq_ok_iff.mpr ⟨operations.map .single,
              decodeQueries_eq_ok.mpr ⟨documents, listed, read⟩,
              makeTransaction_eq_ok.mpr ⟨operations, rfl, valid, rfl⟩⟩
  | _ => cases tagged

/-! ## Both -/

/-- An operation is read of a document alike. -/
theorem readDocument_iff (proper : document.IsProper) (fuel : Nat) :
    readDocument document = .ok operation ↔
      IsTagged document ∧ decodeWithin (fuel + 1) document = .ok (.single operation) := by
  constructor
  · intro read
    obtain ⟨kind, payload, reader, tagged, held, known, read⟩ := readDocument_eq_ok.mp read
    exact ⟨⟨kind, tagged⟩,
      (decodeWithin_eq_ok proper ⟨kind, tagged⟩ fuel).mpr (.single tagged held known read)⟩
  · rintro ⟨tagged, decoded⟩
    cases (decodeWithin_eq_ok proper tagged fuel).mp decoded with
    | single tagged held known read =>
        exact readDocument_eq_ok.mpr ⟨_, _, _, tagged, held, known, read⟩

/-- The operations in a transaction are read alike. -/
theorem readOperations_iff {fuel position : Nat} {documents : List Json}
    {operations : List Operation} (proper : ∀ inner ∈ documents, inner.IsProper) :
    readOperations position documents = .ok operations ↔
      (∀ inner ∈ documents, IsTagged inner) ∧
        documents.mapM (decodeWithin (fuel + 1)) = .ok (operations.map .single) := by
  induction documents generalizing position operations with
  | nil =>
      cases operations <;> simp [readOperations, pure, Except.pure]
  | cons document rest ih =>
      obtain ⟨properFirst, properRest⟩ := List.forall_mem_cons.mp proper
      simp only [readOperations_cons, readDocument_iff properFirst fuel, ih properRest,
        List.forall_mem_cons, List.mapM_cons, Result.bind_eq_ok]
      constructor
      · rintro ⟨operation, others, ⟨tagged, first⟩, ⟨allTagged, later⟩, rfl⟩
        exact ⟨⟨tagged, allTagged⟩, _, first, _, later, rfl⟩
      · rintro ⟨⟨tagged, allTagged⟩, query, first, queries, later, same⟩
        cases operations with
        | nil => cases same
        | cons operation others =>
            obtain ⟨rfl, rfl⟩ := List.cons.inj (Except.ok.inj same)
            exact ⟨operation, others, ⟨tagged, first⟩, ⟨allTagged, later⟩, rfl⟩

/-- The documents in a transaction are proper, and less deep than it. -/
theorem Lists.within {documents : List Json} (listed : Lists payload documents)
    (held : document.member? "payload" = some payload) (proper : document.IsProper) :
    (∀ inner ∈ documents, inner.IsProper) ∧ ∃ fuel, document.depth = fuel + 1 := by
  cases document with
  | object members =>
      have properPayload := (Json.isProper_object_iff.mp proper).2 _ (Table.mem_of_get? held)
      exact ⟨listed.isProper properPayload, _, rfl⟩
  | _ => cases held

/-- The reader of query texts accepts just those documents that the decoder of documents accepts
whose kinds stand in them as texts, and both read the same query. -/
theorem ofDocument_iff_decode (proper : document.IsProper) :
    ofDocument document = .ok query ↔ IsTaggedThrough document ∧ decode document = .ok query := by
  rw [ofDocument_eq_ok]
  constructor
  · intro read
    cases read with
    | single tagged held known read =>
        refine ⟨⟨⟨_, tagged⟩, fun isTransaction => ?_⟩,
          (decodeWithin_eq_ok proper ⟨_, tagged⟩ _).mpr (.single tagged held known read)⟩
        cases tagged.symm.trans isTransaction
        cases known
    | transaction tagged held listed read valid =>
        obtain ⟨each, fuel, deep⟩ := listed.within held proper
        obtain ⟨allTagged, decoded⟩ := (readOperations_iff each).mp read
        refine ⟨⟨⟨_, tagged⟩, fun _ payload documents heldToo listedToo => ?_⟩,
          (decodeWithin_eq_ok proper ⟨_, tagged⟩ _).mpr
            (.transaction tagged held listed (deep ▸ decoded) valid)⟩
        cases held.symm.trans heldToo
        exact listed.unique listedToo ▸ allTagged
  · rintro ⟨tagged, decoded⟩
    cases (decodeWithin_eq_ok proper tagged.self document.depth).mp decoded with
    | single tagged held known read => exact .single tagged held known read
    | transaction isTransaction held listed read valid =>
        obtain ⟨each, fuel, deep⟩ := listed.within held proper
        rw [deep] at read
        have allTagged := tagged.inner isTransaction _ _ held listed
        exact .transaction isTransaction held listed
          ((readOperations_iff each).mpr ⟨allTagged, read⟩) valid

/-- A transaction of one removal: the queries and the members of the removal stand in arrays, among
members that mean nothing. -/
private def shortRemoval : Json :=
  .object [("note", .int 1), ("op", .text "transaction"), ("payload", .list [.list [
    .object [("op", .text "remove"), ("payload", .list [.text "a", .null, .bool true]),
      ("why", .null)]]])]

/-- The same removal, its kind given as the key of an object. -/
private def keyedRemoval : Json :=
  .object [("op", .object [("remove", .null)]), ("payload", .list [.text "a", .null, .bool true])]

/-- The transaction is read alike; the kind that is no text is decoded, but not read. -/
theorem ofDocument_iff_decode_removal :
    shortRemoval.IsProper ∧
      ofDocument shortRemoval = .ok (.transaction [.remove ⟨"a", none, true, false⟩]) ∧
      IsTaggedThrough shortRemoval ∧
      decode shortRemoval = .ok (.transaction [.remove ⟨"a", none, true, false⟩]) ∧
      keyedRemoval.IsProper ∧ ¬ IsTaggedThrough keyedRemoval ∧
      decode keyedRemoval = .ok (.single (.remove ⟨"a", none, true, false⟩)) ∧
      ofDocument keyedRemoval ≠ .ok (.single (.remove ⟨"a", none, true, false⟩)) := by
  have proper : shortRemoval.IsProper := by
    simp [shortRemoval, Json.IsProper, Json.AreProper, Json.AreProperMembers, Table.keys,
      Json.isWholeRange]
  have keyedProper : keyedRemoval.IsProper := by
    simp [keyedRemoval, Json.IsProper, Json.AreProper, Json.AreProperMembers, Table.keys]
  have read : ofDocument shortRemoval = .ok (.transaction [.remove ⟨"a", none, true, false⟩]) := by
    rfl
  have decoded : decode keyedRemoval = .ok (.single (.remove ⟨"a", none, true, false⟩)) := by
    rfl
  have untagged : ¬ IsTaggedThrough keyedRemoval := by
    rintro ⟨⟨kind, ⟨⟩⟩, -⟩
  obtain ⟨tagged, same⟩ := (ofDocument_iff_decode proper).mp read
  exact ⟨proper, read, tagged, same, keyedProper, untagged, decoded,
    fun read => untagged ((ofDocument_iff_decode keyedProper).mp read).1⟩

end Query

end ShelfLibrary
