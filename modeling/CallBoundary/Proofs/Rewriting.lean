import CallBoundary.Proofs.DeclarationText
import Mathlib.Data.List.Perm.Basic
import Mathlib.Logic.Relation

/-! Changes to a document that leave what it is read as. The members of a record may come in any
order, members that are no fields may join them, and a field may be left out or spelled out where
its value is what it is when left out. The names of a table may come in any order too. A change
may happen at any depth, so long as the document around it is read. -/
namespace CallBoundary

theorem forall₂_replace {R : α → β → Prop} {before : List α} (kept : ∀ y, R x y → R other y)
    (related : List.Forall₂ R (before ++ x :: after) ys) :
    List.Forall₂ R (before ++ other :: after) ys := by
  induction before generalizing ys with
  | nil =>
    obtain ⟨y, ys, head, tail, rfl⟩ := List.forall₂_cons_left_iff.mp related
    exact .cons (kept y head) tail
  | cons first before ih =>
    obtain ⟨y, ys, head, tail, rfl⟩ := List.forall₂_cons_left_iff.mp related
    exact .cons head (ih tail)

theorem forall_mem_replace {p : α → Prop} {before : List α} (kept : p x → p other)
    (all : ∀ a ∈ before ++ x :: after, p a) : ∀ a ∈ before ++ other :: after, p a := by
  rw [List.forall_mem_append, List.forall_mem_cons] at *
  exact ⟨all.1, kept all.2.1, all.2.2⟩

namespace Json

inductive Fields.Has (name : String) (presence : Presence α) (format : Format α) :
    {types : List Type} → Fields types → Nat → Prop
  | here : Has name presence format (.cons name presence format rest) 0
  | later : Has name presence format rest position →
      Has name presence format (.cons other otherPresence otherFormat rest) (position + 1)

inductive Variants.Holds (name : String) (content : Format β) : {α : Type} → Variants α → Prop
  | here : Holds name content (.holding name content arm rest)
  | afterPlain : Holds name content rest → Holds name content (.plain other value rest)
  | afterHolding : Holds name content rest →
      Holds name content (.holding other otherContent arm rest)

/-- A change to the members of a record. -/
inductive Fields.Rewrite (fields : Fields types) : List Member → List Member → Prop
  | permute {members others : List Member} (perm : members.Perm others) :
      Rewrite fields members others
  /-- A member that is no field joins in, whatever document its value is. -/
  | insert (unknown : name ∉ fields.names) (wellFormed : value.WellFormed) :
      Rewrite fields (before ++ after) (before ++ member name value :: after)
  | leaveOut (has : fields.Has name presence format position)
      (absent : presence.byName? = some a) (same : format.decode value = .ok a) :
      Rewrite fields (before ++ member name value :: after) (before ++ after)
  | spellOut (has : fields.Has name presence format position)
      (absent : presence.byName? = some a) (same : format.decode value = .ok a)
      (wellFormed : value.WellFormed) (missing : valuesOf name (before ++ after) = []) :
      Rewrite fields (before ++ after) (before ++ member name value :: after)

/-- A change at one place in a document of the format. -/
inductive Format.Rewrite : {α : Type} → Format α → Value → Value → Prop
  | members (change : fields.Rewrite members others) :
      Rewrite (.record label fields view) (.object members) (.object others)
  | entries (perm : members.Perm others) (distinct : (members.map (·.1)).Nodup) :
      Rewrite (.table item) (.object members) (.object others)
  | field (has : fields.Has name presence format position) (inside : Rewrite format value other) :
      Rewrite (.record label fields view) (.object (before ++ member name value :: after))
        (.object (before ++ member name other :: after))
  | position (has : fields.Has name presence format before.length)
      (inside : Rewrite format value other) :
      Rewrite (.record label fields view) (.array (before ++ value :: after))
        (.array (before ++ other :: after))
  | optional (inside : Rewrite item value other) : Rewrite (.optional item) value other
  | item (inside : Rewrite item value other) :
      Rewrite (.list item) (.array (before ++ value :: after)) (.array (before ++ other :: after))
  | entry (inside : Rewrite item value other) :
      Rewrite (.table item) (.object (before ++ (key, value) :: after))
        (.object (before ++ (key, other) :: after))
  | content (holds : variants.Holds name content) (inside : Rewrite content value other) :
      Rewrite (.choice same variants) (.object [member name value]) (.object [member name other])

variable {types : List Type} {fields : Fields types} {slots : Slots types} {row : Row types}
  {members others before after : List Member} {value other : Value}

theorem Fields.Has.mem_names (has : fields.Has name presence format position) :
    name ∈ fields.names := by
  induction has with
  | here => exact .head _
  | later _ ih => exact .tail _ ih

theorem Fields.Has.lawful (has : fields.Has name presence format position)
    (lawful : fields.Lawful) : format.Lawful := by
  induction has with
  | here => exact lawful.2.1
  | later _ ih => exact ih lawful.2.2

theorem Variants.Holds.mem_names {variants : Variants α} (holds : variants.Holds name content) :
    name ∈ variants.names := by
  induction holds with
  | here => exact .head _
  | afterPlain _ ih => exact .tail _ ih
  | afterHolding _ ih => exact .tail _ ih

theorem Variants.Holds.lawful {variants : Variants α} (holds : variants.Holds name content)
    (lawful : variants.Lawful) : content.Lawful := by
  induction holds with
  | here => exact lawful.2.1
  | afterPlain _ ih => exact ih lawful.2
  | afterHolding _ ih => exact ih lawful.2.2

section settle

variable {presence : Presence α} {format : Format α}

theorem valuesOf_insert_self : valuesOf name (before ++ member name value :: after) =
    valuesOf name before ++ value :: valuesOf name after := by
  rw [valuesOf_append, member, valuesOf_cons_self]

theorem valuesOf_insert_other (different : key ≠ name) :
    valuesOf name (before ++ member key value :: after) = valuesOf name (before ++ after) := by
  rw [valuesOf_append, valuesOf_append, member, valuesOf_cons_other (by simpa using different)]

/-- A field with a value has no other value beside it. -/
theorem Presence.settles_insert {before after : List Value} :
    presence.Settles format a none (before ++ value :: after) ↔
      before = [] ∧ after = [] ∧ format.decode value = .ok a := by
  rcases before with _ | ⟨first, _ | ⟨second, before⟩⟩ <;> cases after <;> simp [Settles]

theorem Presence.Settles.perm {values others : List Value}
    (settles : presence.Settles format a slot values) (perm : values.Perm others) :
    presence.Settles format a slot others := by
  rcases values with _ | ⟨value, _ | ⟨next, values⟩⟩
  · rwa [← perm.nil_eq]
  · rwa [List.singleton_perm.mp perm] at settles
  · cases slot <;> simp [Settles] at settles

theorem Fields.settle_perm (settled : fields.Settle slots members row)
    (perm : members.Perm others) : fields.Settle slots others row := by
  induction fields with
  | nil => trivial
  | cons name presence format rest ih =>
    obtain ⟨slot, slots⟩ := slots
    obtain ⟨a, row⟩ := row
    obtain ⟨head, tail⟩ := settled
    exact ⟨head.perm (perm.filterMap _), ih tail⟩

/-- Where the values change under one name only, the other fields stay as they are. -/
theorem Fields.Has.settle (has : fields.Has name presence format position)
    (distinct : fields.names.Nodup)
    (same : ∀ other, other ≠ name → valuesOf other members = valuesOf other others)
    (kept : ∀ a, presence.Settles format a none (valuesOf name members) →
      presence.Settles format a none (valuesOf name others))
    (settled : fields.Settle (Slots.empty types) members row) :
    fields.Settle (Slots.empty types) others row := by
  induction has with
  | here =>
    obtain ⟨a, row⟩ := row
    obtain ⟨head, tail⟩ := settled
    obtain ⟨fresh, -⟩ := List.nodup_cons.mp distinct
    refine ⟨kept a head, (settle_congr fun other found => same other ?_).mp tail⟩
    exact ne_of_mem_of_not_mem found fresh
  | later has ih =>
    obtain ⟨a, row⟩ := row
    obtain ⟨head, tail⟩ := settled
    obtain ⟨fresh, distinct⟩ := List.nodup_cons.mp distinct
    have different := ne_of_mem_of_not_mem has.mem_names fresh
    exact ⟨same _ different.symm ▸ head, ih distinct tail⟩

theorem Fields.Rewrite.settle (change : fields.Rewrite members others)
    (distinct : fields.names.Nodup) (settled : fields.Settle (Slots.empty types) members row) :
    fields.Settle (Slots.empty types) others row := by
  cases change with
  | permute perm => exact settle_perm settled perm
  | insert unknown _ =>
    refine (settle_congr fun name found => ?_).mp settled
    exact (valuesOf_insert_other (ne_of_mem_of_not_mem found unknown).symm).symm
  | leaveOut has absent same =>
    refine has.settle distinct (fun _ different => valuesOf_insert_other different.symm) ?_ settled
    intro a settles
    rw [valuesOf_insert_self, Presence.settles_insert] at settles
    obtain ⟨none_before, none_after, read⟩ := settles
    rw [valuesOf_append, none_before, none_after]
    cases read.symm.trans same
    exact absent
  | spellOut has absent same _ missing =>
    refine has.settle distinct
      (fun _ different => (valuesOf_insert_other different.symm).symm) ?_ settled
    intro a settles
    rw [missing] at settles
    obtain ⟨none_before, none_after⟩ := List.append_eq_nil_iff.mp (valuesOf_append _ _ ▸ missing)
    rw [valuesOf_insert_self, Presence.settles_insert]
    cases absent.symm.trans settles
    exact ⟨none_before, none_after, same⟩

end settle

/-- Whatever held of all members still does, if it holds of those that joined them. -/
theorem Fields.Rewrite.forall_mem {p : Member → Prop} (change : fields.Rewrite members others)
    (joined : ∀ name value, value.WellFormed → p (member name value))
    (all : ∀ m ∈ members, p m) : ∀ m ∈ others, p m := by
  cases change with
  | permute perm => exact fun m found => all m (perm.mem_iff.mpr found)
  | insert _ wellFormed => grind
  | leaveOut => grind
  | spellOut _ _ _ wellFormed => grind

theorem Format.Rewrite.wellFormed {format : Format α} (change : format.Rewrite value other)
    (wellFormed : value.WellFormed) : other.WellFormed := by
  induction change with
  | members change =>
    rw [Value.wellFormed_object] at *
    exact change.forall_mem (fun _ _ joined => joined) wellFormed
  | entries perm _ =>
    rw [Value.wellFormed_object] at *
    exact fun m found => wellFormed m (perm.mem_iff.mpr found)
  | field _ _ ih =>
    rw [Value.wellFormed_object] at *
    exact forall_mem_replace ih wellFormed
  | position _ _ ih =>
    rw [Value.wellFormed_array] at *
    exact forall_mem_replace ih wellFormed
  | optional _ ih => exact ih wellFormed
  | item _ ih =>
    rw [Value.wellFormed_array] at *
    exact forall_mem_replace ih wellFormed
  | entry _ ih =>
    rw [Value.wellFormed_object] at *
    exact forall_mem_replace ih wellFormed
  | content _ _ ih =>
    rw [Value.wellFormed_object, List.forall_mem_singleton] at *
    exact ih wellFormed

/-- Nothing changes from or to the null that stands for a missing value. -/
theorem Format.Rewrite.present {format : Format α} (change : format.Rewrite value other) :
    value ≠ .null ∧ other ≠ .null := by
  induction change with
  | optional _ ih => exact ih
  | _ => simp

theorem Format.decode_optional {item : Format α} (present : value ≠ .null) :
    (Format.optional item).decode value = (item.decode value).map some := by
  cases value <;> first | contradiction | rw [Format.decode]; simp

def Format.ReadsEntry (item : Format α) (m : Member) (entry : String × α) : Prop :=
  m.1 = some entry.1 ∧ item.decode m.2 = .ok entry.2

theorem Format.decode_table {item : Format α} {table : Table α} :
    (Format.table item).decode (.object members) = .ok table ↔
      ∃ entries, List.Forall₂ item.ReadsEntry members entries ∧ .ofList entries = table := by
  rw [Format.decode]
  simp only [bind_eq_ok, mapM_eq_ok]
  refine exists_congr fun entries => and_congr (iff_of_eq ?_) (by simp [pure, Except.pure])
  refine congrArg (List.Forall₂ · members entries) (funext₂ fun m entry => propext ?_)
  obtain ⟨key, value⟩ := m
  obtain ⟨name, a⟩ := entry
  cases key <;> simp [ReadsEntry, map_eq_ok, and_left_comm]

theorem Format.readsEntry_unique {item : Format α} : Relator.RightUnique item.ReadsEntry := by
  intro m entry other read again
  have keys := Option.some.inj (read.1.symm.trans again.1)
  have values := Except.ok.inj (read.2.symm.trans again.2)
  exact Prod.ext keys values

theorem readsEntry_rearranged {item : Format α} {entries : List (String × α)}
    (same : Rearranged members others) (read : List.Forall₂ item.ReadsEntry members entries) :
    ∃ rearranged, List.Forall₂ item.ReadsEntry others rearranged ∧
      Rearranged entries rearranged := by
  have each : ∀ m ∈ others, ∃ entry, item.ReadsEntry m entry := by
    intro m found
    obtain ⟨entry, -, entry_read⟩ := partner_of_mem read (same.mem_iff.mpr found)
    exact ⟨entry, entry_read⟩
  obtain ⟨rearranged, others_read⟩ := exists_partners.mpr each
  refine ⟨rearranged, others_read, fun key => ?_⟩
  have keys (m : Member) (entry : String × α) (found : item.ReadsEntry m entry) :
      decide (m.1 = some key) = true ↔ decide (entry.1 = key) = true := by
    simp [found.1]
  have first := List.rel_filter (fun m entry => keys m entry) read
  have second := List.rel_filter (fun m entry => keys m entry) others_read
  rw [same (some key)] at first
  exact List.right_unique_forall₂' Format.readsEntry_unique first second

/-- The order in which a table lists its names leaves what it is read as. -/
theorem Format.decode_table_rearranged {item : Format α} {table : Table α}
    (same : Rearranged members others)
    (read : (Format.table item).decode (.object members) = .ok table) :
    (Format.table item).decode (.object others) = .ok table := by
  obtain ⟨entries, entries_read, rfl⟩ := decode_table.mp read
  obtain ⟨rearranged, others_read, moved⟩ := readsEntry_rearranged same entries_read
  exact decode_table.mpr ⟨rearranged, others_read, (Table.ofList_rearranged moved).symm⟩

/-- Fields in front of the changed one are read as before, and so are those behind it. -/
theorem Fields.Has.inOrder {before after : List Value} {total taken : Nat}
    (has : fields.Has name presence format before.length)
    (kept : ∀ a, format.decode value = .ok a → format.decode other = .ok a)
    (read : fields.inOrder label total taken (before ++ value :: after) = .ok found) :
    fields.inOrder label total taken (before ++ other :: after) = .ok found := by
  generalize place : before.length = position at has
  induction has generalizing before taken with
  | here =>
    rw [List.eq_nil_of_length_eq_zero place, List.nil_append, Fields.inOrder] at read ⊢
    obtain ⟨a, value_read, rest_read⟩ := bind_eq_ok.mp read
    exact bind_eq_ok.mpr ⟨a, kept a value_read, rest_read⟩
  | later has ih =>
    obtain ⟨first, before, rfl⟩ := List.exists_cons_of_length_eq_add_one place
    rw [List.cons_append, Fields.inOrder] at read ⊢
    obtain ⟨a, first_read, read⟩ := bind_eq_ok.mp read
    obtain ⟨⟨row, left⟩, rest_read, shape⟩ := bind_eq_ok.mp read
    have others := ih rest_read (by simpa using place)
    exact bind_eq_ok.mpr ⟨a, first_read, bind_eq_ok.mpr ⟨_, others, shape⟩⟩

theorem Variants.Holds.choose {variants : Variants α} (holds : variants.Holds name content)
    (lawful : variants.Lawful)
    (kept : ∀ b, content.decode value = .ok b → content.decode other = .ok b)
    (read : variants.choose known name (some value) = .ok a) :
    variants.choose known name (some other) = .ok a := by
  induction holds with
  | here =>
    simp only [Variants.choose, if_true, map_eq_ok] at read ⊢
    obtain ⟨b, content_read, shape⟩ := read
    exact ⟨b, kept b content_read, shape⟩
  | afterPlain holds ih =>
    have different := ne_of_mem_of_not_mem holds.mem_names lawful.1
    simp only [Variants.choose, if_neg different] at read ⊢
    exact ih lawful.2 read
  | afterHolding holds ih =>
    have different := ne_of_mem_of_not_mem holds.mem_names lawful.1
    simp only [Variants.choose, if_neg different] at read ⊢
    exact ih lawful.2.2 read

theorem Format.Rewrite.decode {format : Format α} (change : format.Rewrite value other)
    (lawful : format.Lawful) : ∀ a, format.decode value = .ok a → format.decode other = .ok a := by
  induction change with
  | members change =>
    intro a read
    obtain ⟨readable, row, settled, build⟩ := (decode_object lawful.distinct).mp read
    have kept := change.settle lawful.distinct settled
    refine (decode_object lawful.distinct).mpr ⟨?_, row, kept, build⟩
    exact change.forall_mem (fun _ _ _ => rfl) readable
  | entries perm distinct =>
    exact fun table read => decode_table_rearranged (rearranged_of_perm distinct perm) read
  | field has inside ih =>
    intro a read
    have kept := ih (has.lawful lawful)
    obtain ⟨readable, row, settled, build⟩ := (decode_object lawful.distinct).mp read
    refine (decode_object lawful.distinct).mpr ⟨?_, row, ?_, build⟩
    · exact forall_mem_replace (p := fun (m : Member) => m.1.isSome = true) (fun _ => rfl) readable
    refine has.settle lawful.distinct (fun _ different => ?_) (fun a settles => ?_) settled
    · rw [valuesOf_insert_other different.symm, valuesOf_insert_other different.symm]
    · rw [valuesOf_insert_self, Presence.settles_insert] at settles ⊢
      exact settles.imp_right (And.imp_right (kept a))
  | position has inside ih =>
    intro a read
    have kept := ih (has.lawful lawful)
    rw [Format.decode] at read ⊢
    obtain ⟨found, fields_read, shape⟩ := bind_eq_ok.mp read
    exact bind_eq_ok.mpr ⟨found, has.inOrder kept fields_read, shape⟩
  | optional inside ih =>
    intro a read
    rw [decode_optional inside.present.1, map_eq_ok] at read
    rw [decode_optional inside.present.2, map_eq_ok]
    obtain ⟨a, item_read, shape⟩ := read
    exact ⟨a, ih lawful.1 a item_read, shape⟩
  | item inside ih =>
    intro as read
    rw [Format.decode, mapM_eq_ok] at read ⊢
    exact forall₂_replace (ih lawful) read
  | entry inside ih =>
    intro table read
    obtain ⟨entries, entries_read, build⟩ := decode_table.mp read
    refine decode_table.mpr ⟨entries, forall₂_replace (fun entry => ?_) entries_read, build⟩
    exact And.imp_right (ih lawful entry.2)
  | content holds inside ih =>
    intro a read
    have kept := ih (holds.lawful lawful.1)
    simp only [Format.decode, member] at read ⊢
    obtain ⟨found, chosen, shape⟩ := bind_eq_ok.mp read
    exact bind_eq_ok.mpr ⟨found, holds.choose lawful.1 kept chosen, shape⟩

/-- Any number of changes leaves what the document is read as. -/
theorem Format.decode_rewritten {format : Format α} (lawful : format.Lawful)
    (changes : Relation.ReflTransGen format.Rewrite value other)
    (read : format.decode value = .ok a) : format.decode other = .ok a := by
  induction changes with
  | refl => exact read
  | tail _ change ih => exact change.decode lawful a ih

theorem Format.wellFormed_rewritten {format : Format α} (wellFormed : value.WellFormed)
    (changes : Relation.ReflTransGen format.Rewrite value other) : other.WellFormed := by
  induction changes with
  | refl => exact wellFormed
  | tail _ change ih => exact change.wellFormed ih

end Json

namespace Declaration

open Json

theorem File.parse_eq_ok : File.parse text = .ok file ↔ ∃ document,
    Value.read? text = some document ∧ format.decode document = .ok file := by
  rw [parse, Format.read]
  cases Value.read? text with
  | none => simp
  | some document => cases result : format.decode document <;> simp [result]

/-- A text for a changed document exists, and each of them is parsed as the same file. -/
theorem File.parse_rewritten (stands : Value.read? text = some document)
    (parsed : File.parse text = .ok file)
    (changes : Relation.ReflTransGen format.Rewrite document changed) :
    (∃ rewritten, Value.read? rewritten = some changed) ∧
      ∀ rewritten, Value.read? rewritten = some changed → File.parse rewritten = .ok file := by
  constructor
  · have wellFormed := Value.wellFormed_iff_read.mpr ⟨text, stands⟩
    exact Value.wellFormed_iff_read.mp (Format.wellFormed_rewritten wellFormed changes)
  · intro rewritten changed_stands
    obtain ⟨found, found_stands, read⟩ := parse_eq_ok.mp parsed
    cases found_stands.symm.trans stands
    have read := Format.decode_rewritten format_lawful changes read
    exact parse_eq_ok.mpr ⟨changed, changed_stands, read⟩

def soleFunction (function : Value) : Value :=
  .object ([] ++ member "functions" (.array ([] ++ function :: [])) :: [])

theorem soleFunction_change (change : Function.format.Rewrite value other) :
    File.format.Rewrite (soleFunction value) (soleFunction other) :=
  .field (.later (.later .here)) (.item change)

def flushName : Member := member "name" (.text "glFlush")

/-- A member that is no field, with an unpaired surrogate and a number out of range. -/
def flushNote : Member :=
  member "type_key" (.array [.string none, .number ⟨false, 1, [], some 999⟩])

def flushReturned : Member := member "returns" (.object [member "type" (.text "void")])

/-- The note joins behind the name and moves in front, and the return value is spelled out. -/
theorem flush_changes : Relation.ReflTransGen Function.format.Rewrite (.object [flushName])
    (.object [flushReturned, flushNote, flushName]) := by
  have numeral : Numeral.WellFormed ⟨false, 1, [], some 999⟩ := by simp [Numeral.WellFormed]
  have note : flushNote.2.WellFormed :=
    .array (by simp [Value.WellFormed.string, Value.WellFormed.number numeral])
  have returned : flushReturned.2.WellFormed := .object (by simpa using .string)
  have joined : Function.format.Rewrite (.object ([flushName] ++ []))
      (.object ([flushName] ++ flushNote :: [])) := .members (.insert (by decide) note)
  have moved : Function.format.Rewrite (.object [flushName, flushNote])
      (.object [flushNote, flushName]) := .members (.permute (.swap _ _ _))
  have spelled : Function.format.Rewrite (.object ([] ++ [flushNote, flushName]))
      (.object ([] ++ flushReturned :: [flushNote, flushName])) :=
    .members (.spellOut (.later (.later .here)) rfl rfl returned rfl)
  exact .tail (.tail (.single joined) moved) spelled

theorem flush_parsed :
    File.parse (soleFunction (.object [flushReturned, flushNote, flushName])).write =
      .ok ⟨none, .empty, [⟨"glFlush", false, .void, []⟩]⟩ := by
  have wellFormed : (soleFunction (.object [flushName])).WellFormed := by
    simp [soleFunction, flushName, member, Value.text, Value.wellFormed_object,
      Value.wellFormed_array, Value.WellFormed.string]
  have stands := Value.read?_write wellFormed
  have parsed : File.parse (soleFunction (.object [flushName])).write =
      .ok ⟨none, .empty, [⟨"glFlush", false, .void, []⟩]⟩ := by decide +kernel
  have changes := flush_changes.lift soleFunction fun _ _ => soleFunction_change
  have changed := Value.read?_write (Format.wellFormed_rewritten wellFormed changes)
  exact (File.parse_rewritten stands parsed changes).2 _ changed

end Declaration

end CallBoundary
