import CallBoundary.Json.Format
import CallBoundary.Json.Reader

/-! Reading values from documents. Of several faults the first in the order of the document is
reported; what is missing from an object shows at its end. -/
namespace CallBoundary.Json

def Format.bareFault : Format α → Fault
  | .record (.variant _ _) _ _ => .wrongType .bareVariant .variantWithRecord
  | _ => .wrongType .bareVariant .variantWithContent

/-- What the members of an object leave open is filled in, in the order of the fields. -/
def Fields.complete : {types : List Type} → Fields types → Slots types → Except Fault (Row types)
  | _, .nil, _ => .ok ()
  | _, .cons name presence _ rest, (slot, slots) => do
    let some value := slot <|> presence.byName? | throw (.missingField name)
    return (value, ← rest.complete slots)

mutual

def Format.decode : {α : Type} → Format α → Value → Except Fault α
  | _, .text, .string (some s) => .ok s
  | _, .text, value => .error (value.misplaced .text)
  | _, .flag, .bool b => .ok b
  | _, .flag, value => .error (value.misplaced .flag)
  | _, .word, .number numeral =>
    match numeral.number? with
    | some (.integer n) =>
      if 0 ≤ n ∧ n < 0x100000000 then .ok (UInt32.ofNat n.toNat) else .error (.outOfRange n .word)
    | some (.floating x) => .error (.wrongType (.floating x) .word)
    | none => .error .malformed
  | _, .word, value => .error (value.misplaced .word)
  | _, .optional _, .null => .ok none
  | _, .optional item, value => (item.decode value).map some
  | _, .list item, .array values => values.mapM item.decode
  | _, .list _, value => .error (value.misplaced .sequence)
  | _, .table item, .object members => do
    let entries ← members.mapM fun (m : Member) =>
      match m.1 with
      | some name => (item.decode m.2).map (name, ·)
      | none => .error .malformed
    return .ofList entries
  | _, .table _, value => .error (value.misplaced .table)
  | _, .record _ fields view, .object members => do
    let slots ← members.foldlM (fun slots (m : Member) =>
      match m.1 with
      | some name => fields.place slots name m.2
      | none => .error .malformed) (Slots.empty _)
    return view.build (← fields.complete slots)
  | _, .record label fields view, .array values => do
    let (row, rest) ← fields.inOrder label fields.count 0 values
    if rest.isEmpty then return view.build row else throw .malformed
  | _, .record label _ _, value => .error (value.misplaced (.record label))
  | _, .choice _ variants, .string (some name) => variants.choose variants.names name none
  | _, .choice _ variants, .object ((some name, content) :: members) => do
    let value ← variants.choose variants.names name (some content)
    if members.isEmpty then return value else throw .malformed
  | _, .choice _ _, _ => .error .malformed

/-- Takes in one member of an object. A name that is no field is passed over, whatever its
value. -/
def Fields.place : {types : List Type} → Fields types → Slots types → String → Value →
    Except Fault (Slots types)
  | _, .nil, slots, _, _ => .ok slots
  | _, .cons field _ format rest, (slot, slots), name, value =>
    if name = field then
      match slot with
      | some _ => .error (.duplicateField field)
      | none => (format.decode value).map fun found => (some found, slots)
    else (rest.place slots name value).map (slot, ·)

/-- Takes the fields from the front of an array, of which some are taken already, and gives back
what is left. -/
def Fields.inOrder : {types : List Type} → Fields types → Label → (count taken : Nat) →
    List Value → Except Fault (Row types × List Value)
  | _, .nil, _, _, _, values => .ok ((), values)
  | _, .cons _ presence _ rest, label, count, taken, [] => do
    let some value := presence.byPosition? | throw (.tooShort taken label count)
    let (row, values) ← rest.inOrder label count (taken + 1) []
    return ((value, row), values)
  | _, .cons _ _ format rest, label, count, taken, value :: values => do
    let found ← format.decode value
    let (row, values) ← rest.inOrder label count (taken + 1) values
    return ((found, row), values)

def Variants.choose : {α : Type} → Variants α → (known : List String) → String → Option Value →
    Except Fault α
  | _, .nil, known, name, _ => .error (.unknownVariant name known)
  | _, .plain variant value rest, known, name, content =>
    if name = variant then
      match content with
      | none => .ok value
      | some .null => .ok value
      | some other => .error (other.misplaced .nothing)
    else rest.choose known name content
  | _, .holding variant format arm rest, known, name, content =>
    if name = variant then
      match content with
      | none => .error format.bareFault
      | some value => (format.decode value).map arm.build
    else rest.choose known name content

end

/-- Reads a text, which has to be a document as a whole before anything else about it counts. -/
def Format.read (format : Format α) (text : String) : Except Fault α :=
  match Value.read? text with
  | some value => format.decode value
  | none => .error .malformed

end CallBoundary.Json
