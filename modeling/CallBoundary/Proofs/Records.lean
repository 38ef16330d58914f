import CallBoundary.Json.Decode
import CallBoundary.Proofs.Traversal

/-! What an object of a record is read as. Each field has the one value that its name has among
the members, or else what it is when left out; where the members stand does not matter, and
members that are no fields do not matter at all. -/
namespace CallBoundary.Json

variable {types : List Type} {fields : Fields types} {slots : Slots types}
  {members : List Member} {row : Row types}

/-- The values of the members with the name, in order. -/
def valuesOf (name : String) (members : List Member) : List Value :=
  members.filterMap fun m => if m.1 = some name then some m.2 else none

@[simp] theorem valuesOf_nil : valuesOf name [] = [] := rfl

theorem valuesOf_cons_self : valuesOf name ((some name, value) :: members) =
    value :: valuesOf name members := by simp [valuesOf]

theorem valuesOf_cons_other (other : key ≠ some name) :
    valuesOf name ((key, value) :: members) = valuesOf name members := by simp [valuesOf, other]

theorem valuesOf_append (before after : List Member) :
    valuesOf name (before ++ after) = valuesOf name before ++ valuesOf name after :=
  List.filterMap_append

/-- What a field comes to be: what it was met as before, or else its one value, or else what it is
when left out. -/
def Presence.Settles (presence : Presence α) (format : Format α) (a : α) :
    Option α → List Value → Prop
  | some found, [] => found = a
  | none, [value] => format.decode value = .ok a
  | none, [] => presence.byName? = some a
  | _, _ => False

/-- The row to which the members complete the fields that were met before. -/
def Fields.Settle : {types : List Type} → Fields types → Slots types → List Member →
    Row types → Prop
  | _, .nil, _, _, _ => True
  | _, .cons name presence format rest, (slot, slots), members, (a, row) =>
    presence.Settles format a slot (valuesOf name members) ∧ rest.Settle slots members row

/-- Induction over the fields alone, whatever their formats are. -/
@[induction_eliminator]
theorem Fields.induction {motive : {types : List Type} → Fields types → Prop} (nil : motive .nil)
    (cons : ∀ {α : Type} {types : List Type} (name : String) (presence : Presence α)
      (format : Format α) (rest : Fields types), motive rest →
      motive (.cons name presence format rest)) :
    ∀ {types : List Type} (fields : Fields types), motive fields
  | _, .nil => nil
  | _, .cons name presence format rest =>
    cons name presence format rest (induction nil cons rest)

theorem Presence.settles_nil {presence : Presence α} {format : Format α} :
    presence.Settles format a slot [] ↔ (slot <|> presence.byName?) = some a := by
  cases slot <;> simp [Settles]

theorem Fields.complete_eq_ok : fields.complete slots = .ok row ↔ fields.Settle slots [] row := by
  induction fields with
  | nil => simp [complete, Settle]; rfl
  | cons name presence format rest ih =>
    obtain ⟨slot, slots⟩ := slots
    obtain ⟨a, row⟩ := row
    simp only [complete, Settle, valuesOf_nil, Presence.settles_nil, ← ih]
    cases slot <|> presence.byName? with
    | none => simp [throw, throwThe, MonadExceptOf.throw]
    | some value =>
      refine bind_eq_ok.trans ?_
      simp [pure, Except.pure, and_comm]

/-- Only the values under the names of the fields matter. -/
theorem Fields.settle_congr {others : List Member}
    (same : ∀ name ∈ fields.names, valuesOf name members = valuesOf name others) :
    fields.Settle slots members row ↔ fields.Settle slots others row := by
  induction fields with
  | nil => simp [Settle]
  | cons name presence format rest ih =>
    obtain ⟨slot, slots⟩ := slots
    obtain ⟨a, row⟩ := row
    obtain ⟨head, tail⟩ := List.forall_mem_cons.mp same
    simp only [Settle, head, ih tail]

theorem Presence.settles_cons {presence : Presence α} {format : Format α} {values : List Value} :
    presence.Settles format a slot (value :: values) ↔
      slot = none ∧ ∃ found, format.decode value = .ok found ∧
        presence.Settles format a (some found) values := by
  cases slot <;> cases values <;> simp [Settles]

theorem exists_map_eq_ok {x : Except ε α} {f : α → β} {p : β → Prop} :
    (∃ b, x.map f = .ok b ∧ p b) ↔ ∃ a, x = .ok a ∧ p (f a) := by
  cases x <;> simp [Except.map]

/-- Taking one member in leaves the others to settle what is still open. -/
theorem Fields.place_settle (distinct : fields.names.Nodup) :
    (∃ met, fields.place slots name value = .ok met ∧ fields.Settle met members row) ↔
      fields.Settle slots ((some name, value) :: members) row := by
  induction fields with
  | nil => simp [place, Settle]
  | cons field presence format rest ih =>
    obtain ⟨slot, slots⟩ := slots
    obtain ⟨a, row⟩ := row
    obtain ⟨fresh, distinct⟩ := List.nodup_cons.mp distinct
    by_cases own : name = field
    · subst own
      have others : rest.Settle slots ((some name, value) :: members) row ↔
          rest.Settle slots members row := by
        refine settle_congr fun other member => valuesOf_cons_other ?_
        exact fun same => fresh (Option.some.inj same ▸ member)
      simp only [place, if_true, Settle, valuesOf_cons_self, Presence.settles_cons, others]
      cases slot with
      | some met => simp
      | none =>
        refine exists_map_eq_ok.trans ?_
        simp only [Settle, true_and, ← and_assoc, exists_and_right]
    · have skipped : valuesOf field ((some name, value) :: members) = valuesOf field members :=
        valuesOf_cons_other (by simpa using own)
      simp only [place, if_neg own, Settle, skipped, ← ih distinct]
      refine exists_map_eq_ok.trans ?_
      rw [← exists_and_left]
      exact exists_congr fun _ => and_left_comm

theorem bind_map_comm (x : Except ε α) (f : α → Except ε β) (g : β → γ) :
    (x >>= fun a => f a >>= fun b => pure (g b)) = (x.bind f).map g := by
  cases x with
  | error => rfl
  | ok a => cases result : f a <;> simp [bind, Except.bind, result, Except.map, pure, Except.pure]

/-- Takes in the members of an object one after the other. -/
def Fields.collect (fields : Fields types) (slots : Slots types) (members : List Member) :
    Except Fault (Slots types) :=
  members.foldlM (fun slots (m : Member) =>
    match m.1 with
    | some name => fields.place slots name m.2
    | none => .error .malformed) slots

theorem Format.decode_record_object {view : View types α} :
    (Format.record label fields view).decode (.object members) =
      ((fields.collect (Slots.empty types) members).bind fields.complete).map view.build := by
  rw [Format.decode]
  exact bind_map_comm _ _ _

theorem Fields.collect_cons : fields.collect slots ((some name, value) :: members) =
    (fields.place slots name value >>= fun met => fields.collect met members) := rfl

/-- Every key is a string that stands for a text. -/
def Readable (members : List Member) : Prop := ∀ m ∈ members, m.1.isSome = true

theorem Fields.collect_settle (distinct : fields.names.Nodup) :
    (∃ met, fields.collect slots members = .ok met ∧ fields.Settle met [] row) ↔
      Readable members ∧ fields.Settle slots members row := by
  induction members generalizing slots with
  | nil => simp [collect, pure, Except.pure, Readable]
  | cons m members ih =>
    obtain ⟨key, value⟩ := m
    cases key with
    | none => simp [collect, Readable, bind, Except.bind]
    | some name =>
      have readable : Readable ((some name, value) :: members) ↔ Readable members := by
        simp [Readable]
      calc (∃ met, fields.collect slots ((some name, value) :: members) = .ok met ∧
              fields.Settle met [] row)
        _ ↔ ∃ first, fields.place slots name value = .ok first ∧ ∃ met,
              fields.collect first members = .ok met ∧ fields.Settle met [] row := by
          simp only [collect_cons, bind_eq_ok]
          grind
        _ ↔ Readable members ∧ ∃ first, fields.place slots name value = .ok first ∧
              fields.Settle first members row := by
          simp only [ih]
          grind
        _ ↔ Readable ((some name, value) :: members) ∧
              fields.Settle slots ((some name, value) :: members) row := by
          rw [readable, place_settle distinct]

/-- An object is read field by field, wherever in it the members stand. -/
theorem Format.decode_object {view : View types α} (distinct : fields.names.Nodup) :
    (Format.record label fields view).decode (.object members) = .ok a ↔
      Readable members ∧ ∃ row, fields.Settle (Slots.empty types) members row ∧
        view.build row = a := by
  have settled : ∀ row, ((fields.collect (Slots.empty types) members).bind fields.complete) =
      .ok row ↔ Readable members ∧ fields.Settle (Slots.empty types) members row := by
    intro row
    rw [← Fields.collect_settle distinct]
    simp only [← Fields.complete_eq_ok]
    exact bind_eq_ok
  simp only [decode_record_object, map_eq_ok, settled, and_assoc, exists_and_left]

end CallBoundary.Json
