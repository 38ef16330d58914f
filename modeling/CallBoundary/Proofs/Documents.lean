import CallBoundary.Proofs.Spelling

/-! Documents as texts. Every document is read back from what is written for it, also where other
text follows, and what is read from any text is a document that can be written. -/
namespace CallBoundary.Json

variable {rest : List Char} {fuel : Nat}

/-- All numbers of the document can be spelled. -/
inductive Value.WellFormed : Value → Prop
  | null : WellFormed .null
  | bool : WellFormed (.bool b)
  | number : numeral.WellFormed → WellFormed (.number numeral)
  | string : WellFormed (.string literal)
  | array : (∀ item ∈ items, WellFormed item) → WellFormed (.array items)
  | object : (∀ m ∈ members, WellFormed m.2) → WellFormed (.object members)

theorem Value.wellFormed_array :
    (Value.array items).WellFormed ↔ ∀ item ∈ items, item.WellFormed := by
  constructor
  · intro wellFormed
    cases wellFormed with
    | array all => exact all
  · exact .array

theorem Value.wellFormed_object :
    (Value.object members).WellFormed ↔ ∀ m ∈ members, m.2.WellFormed := by
  constructor
  · intro wellFormed
    cases wellFormed with
    | object all => exact all
  · exact .object

theorem skipSpaces_cons (visible : isSpace c = false) : skipSpaces (c :: rest) = c :: rest := by
  simp [skipSpaces, visible]

/-- Characters that numbers begin with. -/
def StartsNumeral (c : Char) : Prop := c.isDigit = true ∨ c = '-'

theorem StartsNumeral.ne {c : Char} (starts : StartsNumeral c) (other : Char)
    (different : (other.isDigit || other == '-') = false) : c ≠ other := by
  rintro rfl
  rcases starts with digit | sign <;> simp_all

theorem StartsNumeral.visible {c : Char} (starts : StartsNumeral c) : isSpace c = false := by
  simp [isSpace, starts.ne]

theorem readValue?_numeral (starts : StartsNumeral c) (cs : List Char) :
    readValue? (fuel + 1) (c :: cs) =
      (readNumeral? (c :: cs)).map fun (numeral, rest) => (.number numeral, rest) := by
  have brace := starts.ne '{' rfl
  have bracket := starts.ne '[' rfl
  have quote := starts.ne '"' rfl
  have n := starts.ne 'n' rfl
  have t := starts.ne 't' rfl
  have f := starts.ne 'f' rfl
  simp [readValue?, skipSpaces_cons starts.visible, *]

/-- A document begins with something that is no blank and closes nothing. -/
theorem writeValue_cons (value : Value) : ∃ first others, writeValue value = first :: others ∧
    isSpace first = false ∧ first ≠ ']' ∧ first ≠ '}' := by
  cases value with
  | null => exact ⟨_, _, by rw [writeValue], by decide⟩
  | bool b => cases b <;> exact ⟨_, _, by rw [writeValue], by decide⟩
  | number numeral =>
    obtain ⟨first, others, shape, starts⟩ := numeral.write_cons
    have starts : StartsNumeral first := starts
    exact ⟨first, others, by rw [writeValue, shape], starts.visible, starts.ne ']' rfl,
      starts.ne '}' rfl⟩
  | string literal => cases literal <;> exact ⟨_, _, by rw [writeValue]; rfl, by decide⟩
  | array items => cases items <;> exact ⟨_, _, by rw [writeValue], by decide⟩
  | object members =>
    rcases members with _ | ⟨⟨key, value⟩, members⟩ <;> exact ⟨_, _, by rw [writeValue], by decide⟩

/-- With fuel for its text, the value is read from the front of any text that does not go on with
a number. -/
def ReadsBack (value : Value) : Prop := ∀ fuel rest, (writeValue value).length ≤ fuel →
  EndsNumeral rest → readValue? fuel (writeValue value ++ rest) = some (value, rest)

theorem endsNumeral_writeItems (items : List Value) (rest : List Char) :
    EndsNumeral (writeItems items ++ rest) := by
  cases items <;> simp [writeItems, EndsNumeral]

theorem endsNumeral_writeMembers (members : List Member) (rest : List Char) :
    EndsNumeral (writeMembers members ++ rest) := by
  rcases members with _ | ⟨⟨key, value⟩, members⟩ <;> simp [writeMembers, EndsNumeral]

theorem readItems?_last (value_read : readValue? fuel cs = some (value, ']' :: rest)) :
    readItems? (fuel + 1) cs = some ([value], rest) := by
  simp [readItems?, value_read, skipSpaces_cons, isSpace]

theorem readItems?_more (value_read : readValue? fuel cs = some (value, ',' :: next))
    (others : readItems? fuel next = some (values, rest)) :
    readItems? (fuel + 1) cs = some (value :: values, rest) := by
  simp [readItems?, value_read, others, skipSpaces_cons, isSpace]

theorem readItems?_write {items : List Value} (back : ∀ item ∈ first :: items, ReadsBack item)
    (enough : (writeValue first ++ writeItems items).length ≤ fuel) (rest : List Char) :
    readItems? fuel (writeValue first ++ (writeItems items ++ rest)) =
      some (first :: items, rest) := by
  induction items generalizing first fuel with
  | nil =>
    cases fuel with
    | zero => simp [writeItems] at enough
    | succ fuel =>
      have own : (writeValue first).length ≤ fuel := by simpa [writeItems] using enough
      have head := back first (by simp) fuel _ own (endsNumeral_writeItems [] rest)
      rw [writeItems] at head ⊢
      exact readItems?_last head
  | cons next items ih =>
    cases fuel with
    | zero => simp [writeItems] at enough
    | succ fuel =>
      simp only [writeItems, List.length_append, List.length_cons] at enough
      have own : (writeValue first).length ≤ fuel := by omega
      have behind : (writeValue next ++ writeItems items).length ≤ fuel := by
        rw [List.length_append]
        omega
      have head := back first (by simp) fuel _ own (endsNumeral_writeItems (next :: items) rest)
      have tail := ih (fun item member => back item (List.mem_cons_of_mem _ member)) behind
      rw [writeItems, List.cons_append, List.append_assoc] at head ⊢
      exact readItems?_more head tail

theorem readMembers?_last (value_read : readValue? fuel cs = some (value, '}' :: rest)) :
    readMembers? (fuel + 1) (writeLiteral key ++ ':' :: cs) = some ([(key, value)], rest) := by
  obtain ⟨behind, shape, key_read⟩ := readLiteral?_writeLiteral key (':' :: cs)
  simp [shape, readMembers?, key_read, value_read, skipSpaces_cons, isSpace]

theorem readMembers?_more (value_read : readValue? fuel cs = some (value, ',' :: next))
    (others : readMembers? fuel next = some (members, rest)) :
    readMembers? (fuel + 1) (writeLiteral key ++ ':' :: cs) =
      some ((key, value) :: members, rest) := by
  obtain ⟨behind, shape, key_read⟩ := readLiteral?_writeLiteral key (':' :: cs)
  simp [shape, readMembers?, key_read, value_read, others, skipSpaces_cons, isSpace]

theorem readMembers?_write {members : List Member}
    (back : ∀ m ∈ (key, value) :: members, ReadsBack m.2)
    (enough : (writeLiteral key ++ ':' :: (writeValue value ++ writeMembers members)).length ≤
      fuel) (rest : List Char) :
    readMembers? fuel
        (writeLiteral key ++ ':' :: (writeValue value ++ (writeMembers members ++ rest))) =
      some ((key, value) :: members, rest) := by
  induction members generalizing key value fuel with
  | nil =>
    cases fuel with
    | zero => simp at enough
    | succ fuel =>
      have own : (writeValue value).length ≤ fuel := by
        simp [writeMembers] at enough
        omega
      have head := back (key, value) (by simp) fuel _ own (endsNumeral_writeMembers [] rest)
      rw [writeMembers] at head ⊢
      exact readMembers?_last head
  | cons next members ih =>
    obtain ⟨name, content⟩ := next
    cases fuel with
    | zero => simp at enough
    | succ fuel =>
      simp only [writeMembers, List.length_append, List.length_cons] at enough
      have own : (writeValue value).length ≤ fuel := by omega
      have behind : (writeLiteral name ++ ':' ::
          (writeValue content ++ writeMembers members)).length ≤ fuel := by
        simp only [List.length_append, List.length_cons]
        omega
      have head := back (key, value) (by simp) fuel _ own
        (endsNumeral_writeMembers ((name, content) :: members) rest)
      have tail := ih (fun m member => back m (List.mem_cons_of_mem _ member)) behind
      simp only [writeMembers, List.cons_append, List.append_assoc] at head ⊢
      exact readMembers?_more head tail

theorem readValue?_array (visible : isSpace c = false) (nonempty : c ≠ ']')
    (items_read : readItems? fuel (c :: cs) = some (items, rest)) :
    readValue? (fuel + 1) ('[' :: c :: cs) = some (.array items, rest) := by
  simp [readValue?, skipSpaces_cons, isSpace.eq_1 '[', visible, nonempty, items_read]

theorem readValue?_object (members_read : readMembers? fuel ('"' :: cs) = some (members, rest)) :
    readValue? (fuel + 1) ('{' :: '"' :: cs) = some (.object members, rest) := by
  simp [readValue?, skipSpaces_cons, isSpace, members_read]

/-- No value has an empty text, so there is always fuel for a first step. -/
theorem readsBack_of_step {value : Value} (step : ∀ fuel rest,
    (writeValue value).length ≤ fuel + 1 → EndsNumeral rest →
      readValue? (fuel + 1) (writeValue value ++ rest) = some (value, rest)) : ReadsBack value := by
  intro fuel rest enough ends
  cases fuel with
  | zero =>
    obtain ⟨first, others, shape, -⟩ := writeValue_cons value
    simp [shape] at enough
  | succ fuel => exact step fuel rest enough ends

theorem readsBack_array {items : List Value} (back : ∀ item ∈ items, ReadsBack item) :
    ReadsBack (.array items) := by
  refine readsBack_of_step fun fuel rest enough _ => ?_
  cases items with
  | nil => simp [writeValue, readValue?, skipSpaces_cons, isSpace]
  | cons first items =>
    obtain ⟨c, others, shape, visible, opens, -⟩ := writeValue_cons first
    rw [writeValue, List.length_cons, Nat.add_le_add_iff_right] at enough
    have read := readItems?_write back enough rest
    rw [writeValue, List.cons_append, List.append_assoc]
    rw [shape, List.cons_append] at read ⊢
    exact readValue?_array visible opens read

theorem readsBack_object {members : List Member} (back : ∀ m ∈ members, ReadsBack m.2) :
    ReadsBack (.object members) := by
  refine readsBack_of_step fun fuel rest enough _ => ?_
  rcases members with _ | ⟨⟨key, value⟩, members⟩
  · simp [writeValue, readValue?, skipSpaces_cons, isSpace]
  · rw [writeValue, List.length_cons, Nat.add_le_add_iff_right] at enough
    have read := readMembers?_write back enough rest
    obtain ⟨behind, shape, -⟩ := readLiteral?_writeLiteral key
      (':' :: (writeValue value ++ (writeMembers members ++ rest)))
    simp only [writeValue, List.cons_append, List.append_assoc]
    rw [shape] at read ⊢
    exact readValue?_object read

theorem Value.WellFormed.readsBack {value : Value} (wellFormed : value.WellFormed) :
    ReadsBack value := by
  induction wellFormed with
  | null =>
    refine readsBack_of_step fun fuel rest _ _ => ?_
    simp [writeValue, readValue?, skipSpaces_cons, isSpace]
  | @bool b =>
    refine readsBack_of_step fun fuel rest _ _ => ?_
    cases b <;> simp [writeValue, readValue?, skipSpaces_cons, isSpace]
  | @number numeral decimal =>
    refine readsBack_of_step fun fuel rest _ ends => ?_
    obtain ⟨first, others, shape, starts⟩ := numeral.write_cons
    have read := Numeral.readNumeral?_write decimal ends
    rw [shape, List.cons_append] at read
    rw [writeValue, shape, List.cons_append, readValue?_numeral starts, read, Option.map_some]
  | @string literal =>
    refine readsBack_of_step fun fuel rest _ _ => ?_
    obtain ⟨behind, shape, read⟩ := readLiteral?_writeLiteral literal rest
    rw [writeValue, shape]
    simp [readValue?, skipSpaces_cons, isSpace, read]
  | array _ back => exact readsBack_array back
  | object _ back => exact readsBack_object back

/-- What is written for a document is read as that document. -/
theorem Value.read?_write {value : Value} (wellFormed : value.WellFormed) :
    Value.read? value.write = some value := by
  have enough : (writeValue value).length ≤ 2 * (writeValue value).length + 2 := by omega
  have read := wellFormed.readsBack _ [] enough endsNumeral_nil
  rw [List.append_nil] at read
  simp [Value.read?, Value.write, Value.ofChars?, read, skipSpaces]

/-- Everything that is read with the fuel is well-formed. -/
structure ReadsWellFormed (fuel : Nat) : Prop where
  value : ∀ {cs value rest}, readValue? fuel cs = some (value, rest) → value.WellFormed
  items : ∀ {cs items rest}, readItems? fuel cs = some (items, rest) →
    ∀ item ∈ items, item.WellFormed
  members : ∀ {cs members rest}, readMembers? fuel cs = some (members, rest) →
    ∀ m ∈ members, m.2.WellFormed

theorem wellFormed_of_readValue? (inside : ReadsWellFormed fuel)
    (read : readValue? (fuel + 1) cs = some (value, rest)) : value.WellFormed := by
  rw [readValue?] at read
  -- one case for each way in which a value begins; a number is what begins in no other way
  split at read
  · split at read
    · cases read
      exact .object (by simp)
    · obtain ⟨⟨members, next⟩, members_read, shape⟩ := Option.map_eq_some_iff.mp read
      cases shape
      exact .object (inside.members members_read)
  · split at read
    · cases read
      exact .array (by simp)
    · obtain ⟨⟨items, next⟩, items_read, shape⟩ := Option.map_eq_some_iff.mp read
      cases shape
      exact .array (inside.items items_read)
  · obtain ⟨⟨literal, next⟩, -, shape⟩ := Option.map_eq_some_iff.mp read
    cases shape
    exact .string
  · cases read
    exact .null
  · cases read
    exact .bool
  · cases read
    exact .bool
  · obtain ⟨⟨numeral, next⟩, numeral_read, shape⟩ := Option.map_eq_some_iff.mp read
    cases shape
    exact .number (Numeral.wellFormed_of_read numeral_read)

theorem wellFormed_of_readItems? (inside : ReadsWellFormed fuel)
    (read : readItems? (fuel + 1) cs = some (items, rest)) : ∀ item ∈ items, item.WellFormed := by
  rw [readItems?] at read
  obtain ⟨⟨first, next⟩, first_read, read⟩ := Option.bind_eq_some_iff.mp read
  have head := inside.value first_read
  dsimp only at read
  split at read
  next =>
    obtain ⟨⟨others, last⟩, others_read, shape⟩ := Option.bind_eq_some_iff.mp read
    cases shape
    exact List.forall_mem_cons.mpr ⟨head, inside.items others_read⟩
  next =>
    cases read
    simpa using head
  next => contradiction

theorem wellFormed_of_readMembers? (inside : ReadsWellFormed fuel)
    (read : readMembers? (fuel + 1) cs = some (members, rest)) :
    ∀ m ∈ members, m.2.WellFormed := by
  rw [readMembers?] at read
  split at read
  next =>
    obtain ⟨⟨key, behind⟩, -, read⟩ := Option.bind_eq_some_iff.mp read
    dsimp only at read
    split at read
    next =>
      obtain ⟨⟨first, next⟩, first_read, read⟩ := Option.bind_eq_some_iff.mp read
      have head := inside.value first_read
      dsimp only at read
      split at read
      next =>
        obtain ⟨⟨others, last⟩, others_read, shape⟩ := Option.bind_eq_some_iff.mp read
        cases shape
        exact List.forall_mem_cons.mpr ⟨head, inside.members others_read⟩
      next =>
        cases read
        simpa using head
      next => contradiction
    next => contradiction
  next => contradiction

theorem readsWellFormed (fuel : Nat) : ReadsWellFormed fuel := by
  induction fuel with
  | zero => constructor <;> simp [readValue?, readItems?, readMembers?]
  | succ fuel inside =>
    exact ⟨wellFormed_of_readValue? inside, wellFormed_of_readItems? inside,
      wellFormed_of_readMembers? inside⟩

/-- The well-formed documents are those that some text stands for. -/
theorem Value.wellFormed_iff_read {value : Value} :
    value.WellFormed ↔ ∃ text, Value.read? text = some value := by
  constructor
  · intro wellFormed
    exact ⟨value.write, read?_write wellFormed⟩
  · rintro ⟨text, read⟩
    rw [read?, ofChars?] at read
    split at read
    next found rest value_read =>
      obtain ⟨-, same⟩ := Option.ite_none_right_eq_some.mp read
      cases same
      exact (readsWellFormed _).value value_read
    next => contradiction

end CallBoundary.Json
