import ShelfLibrary.Json.Writer
import ShelfLibrary.Proofs.JsonNumber

/-!
# Documents that are read back

What is read of a document that was written is the document itself, but for doubles that are not
finite; a document that nests deeper than the reader allows is not read at all.
-/

namespace ShelfLibrary.Json

/-! ## Texts -/

theorem paddedDigits_hexadecimal {n : Nat} (small : n < 32) :
    ∃ a b c d, paddedDigits 16 4 n = [a, b, c, d] ∧ Hexadecimal.number? [a, b, c, d] = some n := by
  interval_cases n <;> exact ⟨_, _, _, _, rfl, rfl⟩

theorem readText_control {n : Nat} (small : n < 32) (tail read : List Char) :
    readText ('\\' :: 'u' :: (paddedDigits 16 4 n ++ tail)) read =
      readText tail (Char.ofNat n :: read) := by
  obtain ⟨a, b, c, d, written, unit⟩ := paddedDigits_hexadecimal small
  have low : n < 0xD800 := by omega
  rw [written]
  simp only [List.cons_append, List.nil_append]
  rw [readText]
  simp [unit, low]

theorem readText_escapeChar (c : Char) (tail read : List Char) :
    readText (escapeChar c ++ tail) read = readText tail (c :: read) := by
  unfold escapeChar
  split
  iterate 7 rfl
  rename_i quote backslash _ _ _ _ _
  split
  · rename_i control
    have small : c.toNat < 32 := control
    rw [List.cons_append, List.cons_append, readText_control small, Char.ofNat_toNat]
  · rename_i printable
    rw [List.singleton_append]
    conv_lhs => unfold readText
    split <;> simp_all

theorem readText_flatMap_escapeChar (cs rest read : List Char) :
    readText (cs.flatMap escapeChar ++ '"' :: rest) read =
      some (String.ofList (read.reverse ++ cs), rest) := by
  induction cs generalizing read with
  | nil => simp [readText]
  | cons c cs ih =>
      rw [List.flatMap_cons, List.append_assoc, readText_escapeChar, ih]
      simp

theorem readText_writeText (s : String) (rest : List Char) :
    readText (s.toList.flatMap escapeChar ++ '"' :: rest) [] = some (s, rest) := by
  rw [readText_flatMap_escapeChar]
  simp

/-! ## What is read in place of a document -/

mutual

/-- The document that is read in place of one that was written: a double that is not finite has
become `null`. -/
def echo : Json → Json
  | .list items => .list (echoItems items)
  | .object members => .object (echoMembers members)
  | .float d => if d.isFinite then .float d else .null
  | other => other

/-- The items that are read in place of those that were written. -/
def echoItems : List Json → List Json
  | [] => []
  | item :: rest => echo item :: echoItems rest

/-- The members that are read in place of those that were written. -/
def echoMembers : List (String × Json) → List (String × Json)
  | [] => []
  | (key, value) :: rest => (key, echo value) :: echoMembers rest

end

mutual

/-- Whether every whole number in a document is kept as such by a reader. -/
def IntsFit : Json → Prop
  | .list items => IntsFitItems items
  | .object members => IntsFitMembers members
  | .int n => isWholeRange n
  | _ => True

/-- Whether every whole number in some documents is kept as such. -/
def IntsFitItems : List Json → Prop
  | [] => True
  | item :: rest => IntsFit item ∧ IntsFitItems rest

/-- Whether every whole number in some members is kept as such. -/
def IntsFitMembers : List (String × Json) → Prop
  | [] => True
  | (_, value) :: rest => IntsFit value ∧ IntsFitMembers rest

end

/-! ## How documents begin -/

/-- Whether a number may begin with a character. -/
def BeginsNumber (c : Char) : Prop := c = '-' ∨ c.isDigit

/-- The characters that no document begins with. -/
def gaps : List Char := [' ', '\n', '\t', '\r', ']', '\x7d']

theorem BeginsNumber.eq_one_of {c : Char} (begins : BeginsNumber c) :
    c ∈ ['-', '0', '1', '2', '3', '4', '5', '6', '7', '8', '9'] := by
  rcases begins with rfl | digit
  · simp
  · obtain ⟨least, most⟩ := toNat_of_isDigit digit
    rw [← Char.ofNat_toNat c]
    interval_cases c.toNat <;> decide

theorem begins_of_readNumber {cs : List Char} {read : Json × List Char}
    (found : readNumber cs = some read) : ∃ c rest, cs = c :: rest ∧ BeginsNumber c := by
  cases cs with
  | nil => simp [readNumber, readUnsigned, readDigits] at found
  | cons c rest =>
      refine ⟨c, rest, rfl, ?_⟩
      by_contra neither
      simp only [BeginsNumber, not_or, Bool.not_eq_true] at neither
      have unsigned : readNumber (c :: rest) = readUnsigned false (c :: rest) := by
        unfold readNumber
        split <;> simp_all
      simp [unsigned, readUnsigned, readDigits, neither.2] at found

theorem readValue_of_begins {c : Char} (begins : BeginsNumber c) (fuel depth : Nat)
    (cs : List Char) : readValue (fuel + 1) depth (c :: cs) = readNumber (c :: cs) := by
  have one := begins.eq_one_of
  simp only [List.mem_cons, List.not_mem_nil, or_false] at one
  rcases one with rfl | rfl | rfl | rfl | rfl | rfl | rfl | rfl | rfl | rfl | rfl <;>
    simp [readValue, skipBlanks]

theorem skipBlanks_of_not_gap {c : Char} (solid : c ∉ gaps) (cs : List Char) :
    skipBlanks (c :: cs) = c :: cs := by
  simp only [gaps, List.mem_cons, List.not_mem_nil, or_false, not_or] at solid
  simp [skipBlanks, solid]

theorem BeginsNumber.not_gap {c : Char} (begins : BeginsNumber c) : c ∉ gaps := by
  have one := begins.eq_one_of
  simp only [List.mem_cons, List.not_mem_nil, or_false] at one
  rcases one with rfl | rfl | rfl | rfl | rfl | rfl | rfl | rfl | rfl | rfl | rfl <;> decide

/-! ## Layouts -/

/-- Whether a character is skipped between the parts of a document. -/
def IsBlank (c : Char) : Prop := c ∈ [' ', '\n', '\t', '\r']

/-- The blanks that a writer puts between the parts of a document. -/
structure Layout where
  /-- What stands in front of an item, a member or a closing bracket at a level. -/
  line : Nat → List Char
  /-- What stands behind the colon of a member. -/
  gap : List Char
  /-- Nothing but blanks stand in front of an item. -/
  line_blank : ∀ level, ∀ c ∈ line level, IsBlank c
  /-- Nothing but blanks stand behind a colon. -/
  gap_blank : ∀ c ∈ gap, IsBlank c

namespace Layout

/-- The layout without blanks. -/
def compact : Layout where
  line _ := []
  gap := []
  line_blank := by simp
  gap_blank := by simp

/-- The layout of one item or member a line. -/
def indented : Layout where
  line := newLine
  gap := [' ']
  line_blank := by
    intro level c member
    rcases List.mem_cons.mp member with rfl | inside
    · simp [IsBlank]
    · simp [IsBlank, List.eq_of_mem_replicate inside]
  gap_blank := by simp [IsBlank]

@[simp]
theorem compact_line (level : Nat) : compact.line level = [] := rfl

@[simp]
theorem compact_gap : compact.gap = [] := rfl

@[simp]
theorem indented_line (level : Nat) : indented.line level = newLine level := rfl

@[simp]
theorem indented_gap : indented.gap = [' '] := rfl

variable (layout : Layout)

mutual

/-- A document in a layout. -/
def write (level : Nat) : Json → List Char
  | .list [] => ['[', ']']
  | .list (item :: rest) =>
    '[' :: (layout.line (level + 1) ++ (write (level + 1) item ++ writeItems level rest))
  | .object [] => ['\x7b', '\x7d']
  | .object ((key, value) :: rest) =>
    '\x7b' :: (layout.line (level + 1) ++ (writeText key ++ ':' ::
      (layout.gap ++ (write (level + 1) value ++ writeMembers level rest))))
  | .null => writeLeaf .null
  | .bool b => writeLeaf (.bool b)
  | .int n => writeLeaf (.int n)
  | .float d => writeLeaf (.float d)
  | .text s => writeLeaf (.text s)

/-- The items after the first and the closing bracket. -/
def writeItems (level : Nat) : List Json → List Char
  | [] => layout.line level ++ [']']
  | item :: rest =>
    ',' :: (layout.line (level + 1) ++ (write (level + 1) item ++ writeItems level rest))

/-- The members after the first and the closing brace. -/
def writeMembers (level : Nat) : List (String × Json) → List Char
  | [] => layout.line level ++ ['\x7d']
  | (key, value) :: rest =>
    ',' :: (layout.line (level + 1) ++ (writeText key ++ ':' ::
      (layout.gap ++ (write (level + 1) value ++ writeMembers level rest))))

end

mutual

theorem write_compact : ∀ (level : Nat) (json : Json), compact.write level json = json.write
  | level, .list [] => rfl
  | level, .list (item :: rest) => by
      simp [write, Json.write, write_compact (level + 1) item, writeItems_compact level rest]
  | level, .object [] => rfl
  | level, .object ((key, value) :: rest) => by
      simp [write, Json.write, write_compact (level + 1) value, writeMembers_compact level rest]
  | level, .null => rfl
  | level, .bool b => rfl
  | level, .int n => rfl
  | level, .float d => rfl
  | level, .text s => rfl

theorem writeItems_compact : ∀ (level : Nat) (items : List Json),
    compact.writeItems level items = Json.writeItems items
  | level, [] => rfl
  | level, item :: rest => by
      simp [writeItems, Json.writeItems, write_compact (level + 1) item,
        writeItems_compact level rest]

theorem writeMembers_compact : ∀ (level : Nat) (members : List (String × Json)),
    compact.writeMembers level members = Json.writeMembers members
  | level, [] => rfl
  | level, (key, value) :: rest => by
      simp [writeMembers, Json.writeMembers, write_compact (level + 1) value,
        writeMembers_compact level rest]

end

mutual

theorem write_indented : ∀ (level : Nat) (json : Json),
    indented.write level json = json.writeIndented level
  | level, .list [] => rfl
  | level, .list (item :: rest) => by
      simp [write, writeIndented, write_indented (level + 1) item, writeItems_indented level rest]
  | level, .object [] => rfl
  | level, .object ((key, value) :: rest) => by
      simp [write, writeIndented, write_indented (level + 1) value,
        writeMembers_indented level rest]
  | level, .null => rfl
  | level, .bool b => rfl
  | level, .int n => rfl
  | level, .float d => rfl
  | level, .text s => rfl

theorem writeItems_indented : ∀ (level : Nat) (items : List Json),
    indented.writeItems level items = indentedItems level items
  | level, [] => rfl
  | level, item :: rest => by
      simp [writeItems, indentedItems, write_indented (level + 1) item,
        writeItems_indented level rest]

theorem writeMembers_indented : ∀ (level : Nat) (members : List (String × Json)),
    indented.writeMembers level members = indentedMembers level members
  | level, [] => rfl
  | level, (key, value) :: rest => by
      simp [writeMembers, indentedMembers, write_indented (level + 1) value,
        writeMembers_indented level rest]

end

theorem write_eq_cons (level : Nat) (json : Json) (fits : json.IntsFit) :
    ∃ c cs, layout.write level json = c :: cs ∧ c ∉ gaps := by
  have ofNumber {cs : List Char} {read : Json × List Char} (found : readNumber cs = some read) :
      ∃ c rest, cs = c :: rest ∧ c ∉ gaps := by
    obtain ⟨c, rest, written, begins⟩ := begins_of_readNumber found
    exact ⟨c, rest, written, begins.not_gap⟩
  have past : IsPastNumber [] := by simp [IsPastNumber]
  match json with
  | .null => exact ⟨_, _, rfl, by decide⟩
  | .bool true => exact ⟨_, _, rfl, by decide⟩
  | .bool false => exact ⟨_, _, rfl, by decide⟩
  | .text s => exact ⟨_, _, rfl, by decide⟩
  | .list [] => exact ⟨_, _, rfl, by decide⟩
  | .list (_ :: _) => exact ⟨_, _, by rw [write], by decide⟩
  | .object [] => exact ⟨_, _, rfl, by decide⟩
  | .object (_ :: _) => exact ⟨_, _, by rw [write], by decide⟩
  | .int n =>
      have read := @readNumber_intText n [] (by simpa [IntsFit] using fits) past
      rw [List.append_nil] at read
      exact ofNumber read
  | .float d =>
      by_cases finite : d.isFinite
      · have read := readNumber_text finite past
        rw [List.append_nil] at read
        simpa [write, writeLeaf, writeDouble, finite] using ofNumber read
      · exact ⟨'n', ['u', 'l', 'l'], by simp [write, writeLeaf, writeDouble, finite], by decide⟩

end Layout

/-! ## Reading what was written -/

section Blanks

variable {lead : List Char} (blank : ∀ c ∈ lead, IsBlank c)

include blank

theorem skipBlanks_append (cs : List Char) : skipBlanks (lead ++ cs) = skipBlanks cs := by
  induction lead with
  | nil => rfl
  | cons c lead ih =>
      have first : c = ' ' ∨ c = '\n' ∨ c = '\t' ∨ c = '\r' := by
        simpa [IsBlank] using blank c List.mem_cons_self
      have rest := ih fun other member => blank other (List.mem_cons_of_mem c member)
      rw [← rest, List.cons_append, skipBlanks, List.dropWhile_cons_of_pos]
      · rfl
      · rcases first with rfl | rfl | rfl | rfl <;> rfl

theorem readValue_append (fuel depth : Nat) (cs : List Char) :
    readValue fuel depth (lead ++ cs) = readValue fuel depth cs := by
  cases fuel with
  | zero => rfl
  | succ fuel => rw [readValue, readValue, skipBlanks_append blank]

theorem readItems_append (fuel depth : Nat) (read : List Json) (cs : List Char) :
    readItems fuel depth read (lead ++ cs) = readItems fuel depth read cs := by
  cases fuel with
  | zero => rfl
  | succ fuel => rw [readItems, readItems, readValue_append blank]

theorem readMembers_append (fuel depth : Nat) (read : List (String × Json)) (cs : List Char) :
    readMembers fuel depth read (lead ++ cs) = readMembers fuel depth read cs := by
  cases fuel with
  | zero => rfl
  | succ fuel => rw [readMembers, readMembers, skipBlanks_append blank]

theorem isPastNumber_append {c : Char} (past : c = ',' ∨ c = ']' ∨ c = '\x7d') (rest : List Char) :
    IsPastNumber (lead ++ c :: rest) := by
  cases lead with
  | nil => rcases past with rfl | rfl | rfl <;> simp [IsPastNumber, Char.isDigit]
  | cons first lead =>
      have one : first = ' ' ∨ first = '\n' ∨ first = '\t' ∨ first = '\r' := by
        simpa [IsBlank] using blank first List.mem_cons_self
      rcases one with rfl | rfl | rfl | rfl <;> simp [IsPastNumber, Char.isDigit]

theorem readValue_openList {c : Char} (solid : c ∉ gaps) (fuel depth : Nat) (cs : List Char) :
    readValue (fuel + 1) (depth + 1) ('[' :: (lead ++ c :: cs)) =
      readItems fuel depth [] (c :: cs) := by
  have opened : skipBlanks ('[' :: (lead ++ c :: cs)) = '[' :: (lead ++ c :: cs) :=
    skipBlanks_of_not_gap (by decide) _
  have open' : c ≠ ']' := by
    rintro rfl
    exact solid (by decide)
  simp [readValue, opened, skipBlanks_append blank, skipBlanks_of_not_gap solid, open']

theorem readValue_openObject (fuel depth : Nat) (cs : List Char) :
    readValue (fuel + 1) (depth + 1) ('\x7b' :: (lead ++ '"' :: cs)) =
      readMembers fuel depth [] ('"' :: cs) := by
  have opened : skipBlanks ('\x7b' :: (lead ++ '"' :: cs)) = '\x7b' :: (lead ++ '"' :: cs) :=
    skipBlanks_of_not_gap (by decide) _
  have quote : skipBlanks ('"' :: cs) = '"' :: cs := skipBlanks_of_not_gap (by decide) _
  simp [readValue, opened, skipBlanks_append blank, quote]

end Blanks

namespace Layout

variable (layout : Layout)

theorem isPastNumber_writeItems (level : Nat) (items : List Json) (rest : List Char) :
    IsPastNumber (layout.writeItems level items ++ rest) := by
  cases items with
  | nil =>
      rw [writeItems, List.append_assoc]
      exact isPastNumber_append (layout.line_blank level) (.inr (.inl rfl)) rest
  | cons item items => simp [writeItems, IsPastNumber, Char.isDigit]

theorem isPastNumber_writeMembers (level : Nat) (members : List (String × Json))
    (rest : List Char) : IsPastNumber (layout.writeMembers level members ++ rest) := by
  cases members with
  | nil =>
      rw [writeMembers, List.append_assoc]
      exact isPastNumber_append (layout.line_blank level) (.inr (.inr rfl)) rest
  | cons member members => simp [writeMembers, IsPastNumber, Char.isDigit]

theorem skipBlanks_line (level : Nat) (cs : List Char) :
    skipBlanks (layout.line level ++ cs) = skipBlanks cs :=
  skipBlanks_append (layout.line_blank level) cs

mutual

/-- What is read of a document that is written in front of other text. -/
theorem readValue_write : ∀ (json : Json) (level fuel depth : Nat) {rest : List Char},
    json.IntsFit → 2 * (layout.write level json).length ≤ fuel → IsPastNumber rest →
      readValue fuel depth (layout.write level json ++ rest) =
        if json.depth ≤ depth then some (json.echo, rest) else none
  | json, level, 0, depth, rest, fits, enough, past => by
      obtain ⟨c, cs, written, -⟩ := layout.write_eq_cons level json fits
      simp [written] at enough
  | .null, level, fuel + 1, depth, rest, _, _, _ => by
      simp [write, writeLeaf, readValue, skipBlanks, Json.depth, echo]
  | .bool true, level, fuel + 1, depth, rest, _, _, _ => by
      simp [write, writeLeaf, readValue, skipBlanks, Json.depth, echo]
  | .bool false, level, fuel + 1, depth, rest, _, _, _ => by
      simp [write, writeLeaf, readValue, skipBlanks, Json.depth, echo]
  | .int n, level, fuel + 1, depth, rest, fits, _, past => by
      have read := readNumber_intText (by simpa [IntsFit] using fits) past
      obtain ⟨c, cs, written, begins⟩ := begins_of_readNumber read
      simp only [write, writeLeaf, Json.depth, echo]
      rw [written, readValue_of_begins begins, ← written, read]
      simp
  | .float d, level, fuel + 1, depth, rest, _, _, past => by
      by_cases finite : d.isFinite
      · have read := readNumber_text finite past
        obtain ⟨c, cs, written, begins⟩ := begins_of_readNumber read
        simp only [write, writeLeaf, writeDouble, Json.depth, echo, finite, if_true]
        rw [written, readValue_of_begins begins, ← written, read]
        simp
      · simp [write, writeLeaf, writeDouble, readValue, skipBlanks, Json.depth, echo, finite]
  | .text s, level, fuel + 1, depth, rest, _, _, _ => by
      simp [write, writeLeaf, writeText, readValue, skipBlanks, Json.depth, echo,
        readText_writeText]
  | .list [], level, fuel + 1, depth, rest, _, _, _ => by
      cases depth <;>
        simp [write, readValue, skipBlanks, Json.depth, depthOfItems, echo, echoItems]
  | .list (item :: items), level, fuel + 1, depth, rest, fits, enough, past => by
      simp only [write, List.cons_append, List.append_assoc] at enough ⊢
      cases depth with
      | zero => simp [readValue, skipBlanks, Json.depth]
      | succ depth =>
          obtain ⟨c, cs, written, solid⟩ := layout.write_eq_cons (level + 1) item fits.1
          have items := readItems_write item items level fuel depth rest [] fits
            (by simp only [List.length_cons, List.length_append] at enough ⊢; omega)
          rw [written, List.cons_append] at items ⊢
          rw [readValue_openList (layout.line_blank _) solid, items]
          simp [Json.depth, echo]
  | .object [], level, fuel + 1, depth, rest, _, _, _ => by
      cases depth <;>
        simp [write, readValue, skipBlanks, Json.depth, depthOfMembers, echo, echoMembers]
  | .object ((key, value) :: members), level, fuel + 1, depth, rest, fits, enough, past => by
      cases depth with
      | zero => simp [write, readValue, skipBlanks, Json.depth]
      | succ depth =>
          have members := readMembers_write key value members level fuel depth rest [] fits
            (by simp only [write, List.length_cons, List.length_append] at enough ⊢; omega)
          simp only [write, writeText, List.cons_append, List.append_assoc] at members ⊢
          rw [readValue_openObject (layout.line_blank _), members]
          simp [Json.depth, echo]
termination_by structural _ _ fuel => fuel

/-- What is read of the items of an array from one item on. -/
theorem readItems_write : ∀ (item : Json) (items : List Json) (level fuel depth : Nat)
    (rest : List Char) (read : List Json), IntsFitItems (item :: items) →
      2 * (layout.write (level + 1) item ++ layout.writeItems level items).length ≤ fuel →
      readItems fuel depth read
          (layout.write (level + 1) item ++ (layout.writeItems level items ++ rest)) =
        if depthOfItems (item :: items) ≤ depth
        then some (.list (read.reverse ++ echoItems (item :: items)), rest) else none
  | item, items, level, 0, depth, rest, read, fits, enough => by
      obtain ⟨c, cs, written, -⟩ := layout.write_eq_cons (level + 1) item fits.1
      simp [written] at enough
  | item, items, level, fuel + 1, depth, rest, read, fits, enough => by
      have first := readValue_write item (level + 1) fuel depth fits.1
        (by cases items <;> simp [writeItems] at enough ⊢ <;> omega)
        (layout.isPastNumber_writeItems level items rest)
      rw [readItems, first]
      by_cases fitting : item.depth ≤ depth
      · simp only [fitting, if_true]
        match items with
        | [] =>
            rw [writeItems, List.append_assoc, skipBlanks_line]
            simp [skipBlanks, depthOfItems, fitting, echoItems]
        | next :: items =>
            have others := readItems_write next items level fuel depth rest (item.echo :: read)
              fits.2 (by simp [writeItems] at enough ⊢; omega)
            simp only [writeItems, List.cons_append, List.append_assoc]
            rw [skipBlanks_of_not_gap (by decide)]
            simp only [readItems_append (layout.line_blank _), others]
            simp [depthOfItems, fitting, echoItems]
      · simp [depthOfItems, fitting]
termination_by structural _ _ _ fuel => fuel

/-- What is read of the members of an object from one member on. -/
theorem readMembers_write : ∀ (key : String) (value : Json) (members : List (String × Json))
    (level fuel depth : Nat) (rest : List Char) (read : List (String × Json)),
      IntsFitMembers ((key, value) :: members) →
      2 * (writeText key ++ ':' :: (layout.gap ++ (layout.write (level + 1) value ++
        layout.writeMembers level members))).length ≤ fuel →
      readMembers fuel depth read
          (writeText key ++ ':' :: (layout.gap ++ (layout.write (level + 1) value ++
            (layout.writeMembers level members ++ rest)))) =
        if depthOfMembers ((key, value) :: members) ≤ depth
        then some (.object (read.reverse ++ echoMembers ((key, value) :: members)), rest) else none
  | key, value, members, level, 0, depth, rest, read, fits, enough => by
      simp [writeText] at enough
  | key, value, members, level, fuel + 1, depth, rest, read, fits, enough => by
      have first := readValue_write value (level + 1) fuel depth fits.1
        (by cases members <;> simp [writeMembers] at enough ⊢ <;> omega)
        (layout.isPastNumber_writeMembers level members rest)
      simp only [writeText, List.cons_append, List.append_assoc, List.nil_append]
      rw [readMembers, skipBlanks_of_not_gap (by decide)]
      simp only [readText_writeText]
      rw [skipBlanks_of_not_gap (by decide)]
      simp only [readValue_append layout.gap_blank, first]
      by_cases fitting : value.depth ≤ depth
      · simp only [fitting, if_true]
        match members with
        | [] =>
            rw [writeMembers, List.append_assoc, skipBlanks_line]
            simp [skipBlanks, depthOfMembers, fitting, echoMembers]
        | (next, other) :: members =>
            have others := readMembers_write next other members level fuel depth rest
              ((key, value.echo) :: read) fits.2
              (by simp [writeMembers] at enough ⊢; omega)
            simp only [writeMembers, List.cons_append, List.append_assoc]
            rw [skipBlanks_of_not_gap (by decide)]
            simp only [readMembers_append (layout.line_blank _), others]
            simp [depthOfMembers, fitting, echoMembers]
      · simp [depthOfMembers, fitting]
termination_by structural _ _ _ _ fuel => fuel

end

/-- A document in a layout nests as deep in its text as by itself, and is read with the doubles that
are not finite lost. -/
theorem scan?_write {json : Json} (fits : json.IntsFit) (level depth : Nat) :
    scan? depth (String.ofList (layout.write level json)) =
      if json.depth ≤ depth then some json.echo else none := by
  have past : IsPastNumber [] := by simp [IsPastNumber]
  have read := layout.readValue_write json level (2 * (layout.write level json).length + 2) depth
    fits (by omega) past
  rw [List.append_nil] at read
  unfold scan?
  simp only [String.toList_ofList, read]
  split <;> rename_i found
  · split at found <;> simp_all [skipBlanks]
  · split at found <;> simp_all

end Layout

theorem scan?_compact {json : Json} (fits : json.IntsFit) (depth : Nat) :
    scan? depth json.compact = if json.depth ≤ depth then some json.echo else none := by
  rw [compact, ← Layout.write_compact 0 json]
  exact Layout.compact.scan?_write fits 0 depth

theorem scan?_pretty {json : Json} (fits : json.IntsFit) (depth : Nat) :
    scan? depth json.pretty = if json.depth ≤ depth then some json.echo else none := by
  rw [pretty, ← Layout.write_indented 0 json]
  exact Layout.indented.scan?_write fits 0 depth

end ShelfLibrary.Json
