import CallBoundary.Json.Encode
import CallBoundary.Proofs.Documents
import CallBoundary.Proofs.Records
import CallBoundary.Proofs.Tables

/-! Reading back what was written, for every lawful format. A format is lawful if its fields and
its variants can be told apart by their names, if each value belongs to a variant, and if nothing
else is written as the null that stands for a missing value. -/
namespace CallBoundary.Json

variable {types : List Type} {slots : Slots types} {members : List Member} {row : Row types}

/-- Some variant is there for the value. -/
def Variants.Covers : {α : Type} → Variants α → α → Prop
  | _, .nil, _ => False
  | _, .plain _ value rest, a => a = value ∨ rest.Covers a
  | _, .holding _ _ arm rest, a => (arm.content? a).isSome = true ∨ rest.Covers a

mutual

def Format.Lawful : {α : Type} → Format α → Prop
  | _, .optional item => item.Lawful ∧ ∀ a, item.encode a ≠ .null
  | _, .list item => item.Lawful
  | _, .table item => item.Lawful
  | _, .record _ fields _ => fields.Lawful
  | _, .choice _ variants => variants.Lawful ∧ ∀ a, variants.Covers a
  | _, _ => True

def Fields.Lawful : {types : List Type} → Fields types → Prop
  | _, .nil => True
  | _, .cons name _ format rest => name ∉ rest.names ∧ format.Lawful ∧ rest.Lawful

def Variants.Lawful : {α : Type} → Variants α → Prop
  | _, .nil => True
  | _, .plain name _ rest => name ∉ rest.names ∧ rest.Lawful
  | _, .holding name format _ rest => name ∉ rest.names ∧ format.Lawful ∧ rest.Lawful

end

theorem Fields.Lawful.distinct {fields : Fields types} (lawful : fields.Lawful) :
    fields.names.Nodup := by
  induction fields with
  | nil => exact .nil
  | cons name presence format rest ih =>
    obtain ⟨fresh, -, lawful⟩ := lawful
    exact List.nodup_cons.mpr ⟨fresh, ih lawful⟩

/-- The words that are read are those of 32 bits. -/
theorem decode_word (n : UInt32) : Format.word.decode (.nat n.toNat) = .ok n := by
  have small : n.toNat < 0x100000000 := n.toNat_lt
  have fits : n.toNat < 0x10000000000000000 := by omega
  have word : (n.toNat : Int) < 0x100000000 := by omega
  simp [Value.nat, Format.decode, Numeral.number?, Numeral.integer?, Numeral.ofNat, fits, word]

theorem mapM_map_eq_ok {xs : List α} {f : α → β} {g : β → Except ε α}
    (back : ∀ x ∈ xs, g (f x) = .ok x) : (xs.map f).mapM g = .ok xs := by
  rw [mapM_eq_ok, List.forall₂_map_left_iff, List.forall₂_same]
  exact back

theorem valuesOf_members {fields : Fields types} {row : Row types} (fresh : name ∉ fields.names) :
    valuesOf name (fields.members row) = [] := by
  induction fields with
  | nil => rfl
  | cons other presence format rest ih =>
    obtain ⟨a, row⟩ := row
    have ⟨different, fresh⟩ := not_or.mp (mt List.mem_cons.mpr fresh)
    rw [Fields.members, member, valuesOf_cons_other (by simpa using Ne.symm different), ih fresh]

theorem readable_members {fields : Fields types} {row : Row types} :
    Readable (fields.members row) := by
  induction fields with
  | nil => simp [Readable, Fields.members]
  | cons other presence format rest ih =>
    obtain ⟨a, row⟩ := row
    exact List.forall_mem_cons.mpr ⟨rfl, ih⟩

theorem settle_cons_other {fields : Fields types} (fresh : name ∉ fields.names) :
    fields.Settle slots (member name value :: members) row ↔ fields.Settle slots members row := by
  refine Fields.settle_congr fun other found => valuesOf_cons_other ?_
  rintro ⟨⟩
  exact fresh found

/-- The value is written as a name, bare or with content, at which the variants lead back to it. -/
inductive Variants.Returns (variants : Variants α) (a : α) : Value → Prop
  | bare (known_name : name ∈ variants.names)
      (chosen : ∀ known, variants.choose known name none = .ok a) : Returns variants a (.text name)
  | full (known_name : name ∈ variants.names)
      (chosen : ∀ known, variants.choose known name (some content) = .ok a) :
      Returns variants a (.object [member name content])

/-- Variants in front of the right one are passed by, since they have other names. -/
theorem Variants.Returns.later {variants rest : Variants α} (returns : rest.Returns a written)
    (names : variants.names = name :: rest.names) (fresh : name ∉ rest.names)
    (skips : ∀ known other content, other ≠ name →
      variants.choose known other content = rest.choose known other content) :
    variants.Returns a written := by
  cases returns with
  | bare known_name chosen =>
    have other := ne_of_mem_of_not_mem known_name fresh
    refine .bare (names ▸ .tail _ known_name) fun known => ?_
    exact (skips known _ _ other).trans (chosen known)
  | full known_name chosen =>
    have other := ne_of_mem_of_not_mem known_name fresh
    refine .full (names ▸ .tail _ known_name) fun known => ?_
    exact (skips known _ _ other).trans (chosen known)

mutual

theorem Format.decode_encode : {α : Type} → (format : Format α) → format.Lawful → ∀ a : α,
    format.decode (format.encode a) = .ok a
  | _, .text, _, s => by simp [Format.encode, Format.decode, Value.text]
  | _, .flag, _, b => by simp [Format.encode, Format.decode]
  | _, .word, _, n => decode_word n
  | _, .optional item, lawful, none => by simp [Format.encode, Format.decode]
  | _, .optional item, lawful, some a => by
    obtain ⟨lawful, present⟩ := lawful
    have back := item.decode_encode lawful a
    simp [Format.encode, Format.decode, present a, back, Except.map]
  | _, .list item, lawful, as => by
    have back (a : _) (_ : a ∈ as) := item.decode_encode lawful a
    simpa only [Format.encode, Format.decode] using mapM_map_eq_ok back
  | _, .table item, lawful, table => by
    simp only [Format.encode, Format.decode]
    rw [mapM_map_eq_ok]
    · exact congrArg Except.ok Table.ofList_entries
    · intro entry _
      simp [member, item.decode_encode lawful entry.2, Except.map]
  | _, .record label fields view, lawful, a => by
    have settled := fields.settle_members lawful (view.row a)
    simp only [Format.encode]
    refine (Format.decode_object lawful.distinct).mpr ⟨readable_members, view.row a, settled, ?_⟩
    exact view.build_row a
  | _, .choice same variants, lawful, a => by
    obtain ⟨lawful, covered⟩ := lawful
    have returns := variants.encode_returns lawful same a (covered a)
    simp only [Format.encode]
    generalize variants.encode same a = written at returns
    cases returns with
    | bare _ chosen => simp [Value.text, Format.decode, chosen]
    | full _ chosen => simp [member, Format.decode, chosen]

theorem Fields.settle_members : {types : List Type} → (fields : Fields types) → fields.Lawful →
    ∀ row : Row types, fields.Settle (Slots.empty types) (fields.members row) row
  | _, .nil, _, _ => trivial
  | _, .cons name presence format rest, lawful, (a, row) => by
    obtain ⟨fresh, lawful, others⟩ := lawful
    have back := format.decode_encode lawful a
    refine ⟨?_, (settle_cons_other fresh).mpr (rest.settle_members others row)⟩
    rw [Fields.members, member, valuesOf_cons_self, valuesOf_members fresh]
    exact back

theorem Variants.encode_returns : {α : Type} → (variants : Variants α) → variants.Lawful →
    ∀ (same : DecidableEq α) (a : α), variants.Covers a →
    variants.Returns a (variants.encode same a)
  | _, .nil, _, _, _, covered => covered.elim
  | _, .plain name value rest, lawful, same, a, covered => by
    obtain ⟨fresh, lawful⟩ := lawful
    by_cases own : a = value
    · subst own
      simp only [Variants.encode, decide_true, if_true]
      exact .bare (.head _) fun known => by simp [Variants.choose]
    · have returns := rest.encode_returns lawful same a (covered.resolve_left own)
      simp only [Variants.encode, own, decide_false, Bool.false_eq_true, if_false]
      exact returns.later rfl fresh fun _ _ _ other => by simp [Variants.choose, other]
  | _, .holding name format arm rest, lawful, same, a, covered => by
    obtain ⟨fresh, lawful, others⟩ := lawful
    simp only [Variants.encode]
    split
    next content found =>
      have back := format.decode_encode lawful content
      refine .full (.head _) fun known => ?_
      simp [Variants.choose, back, Except.map, arm.build_content a content found]
    next missing =>
      have covered := covered.resolve_left (by simp [missing])
      have returns := rest.encode_returns others same a covered
      exact returns.later rfl fresh fun _ _ _ other => by simp [Variants.choose, other]

end

mutual

theorem Format.encode_wellFormed : {α : Type} → (format : Format α) → ∀ a : α,
    (format.encode a).WellFormed
  | _, .text, _ => by
    rw [Format.encode]
    exact .string
  | _, .flag, _ => by
    rw [Format.encode]
    exact .bool
  | _, .word, _ => by
    rw [Format.encode]
    exact .number (by simp [Numeral.WellFormed, Numeral.ofNat])
  | _, .optional _, none => by
    rw [Format.encode]
    exact .null
  | _, .optional item, some a => by
    rw [Format.encode]
    exact item.encode_wellFormed a
  | _, .list item, as => by
    rw [Format.encode]
    refine .array fun written member => ?_
    obtain ⟨a, -, rfl⟩ := List.mem_map.mp member
    exact item.encode_wellFormed a
  | _, .table item, table => by
    rw [Format.encode]
    refine .object fun m member => ?_
    obtain ⟨entry, -, rfl⟩ := List.mem_map.mp member
    exact item.encode_wellFormed entry.2
  | _, .record _ fields view, a => by
    rw [Format.encode]
    exact .object (fields.members_wellFormed (view.row a))
  | _, .choice same variants, a => by
    rw [Format.encode]
    exact variants.encode_wellFormed same a

theorem Fields.members_wellFormed : {types : List Type} → (fields : Fields types) →
    ∀ row : Row types, ∀ m ∈ fields.members row, m.2.WellFormed
  | _, .nil, _ => by simp [Fields.members]
  | _, .cons name presence format rest, (a, row) => by
    rw [Fields.members, List.forall_mem_cons]
    exact ⟨format.encode_wellFormed a, rest.members_wellFormed row⟩

theorem Variants.encode_wellFormed : {α : Type} → (variants : Variants α) →
    ∀ (same : DecidableEq α) (a : α), (variants.encode same a).WellFormed
  | _, .nil, _, _ => by
    rw [Variants.encode]
    exact .null
  | _, .plain name value rest, same, a => by
    rw [Variants.encode]
    split
    · exact .string
    · exact rest.encode_wellFormed same a
  | _, .holding name format arm rest, same, a => by
    rw [Variants.encode]
    split
    next content _ => exact .object (by simpa [member] using format.encode_wellFormed content)
    next => exact rest.encode_wellFormed same a

end

/-- The text that is written for a value is read as that value. -/
theorem Format.read_write {format : Format α} (lawful : format.Lawful) (a : α) :
    format.read (format.write a) = .ok a := by
  rw [Format.read, Format.write, Value.read?_write (format.encode_wellFormed a)]
  exact format.decode_encode lawful a

end CallBoundary.Json
