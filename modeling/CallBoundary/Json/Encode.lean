import CallBoundary.Json.Format
import CallBoundary.Json.Writer

/-! Writing values as documents: every field is written, also one that could be left out. -/
namespace CallBoundary.Json

mutual

def Format.encode : {α : Type} → Format α → α → Value
  | _, .text, s => .text s
  | _, .flag, b => .bool b
  | _, .word, n => .nat n.toNat
  | _, .optional _, none => .null
  | _, .optional item, some a => item.encode a
  | _, .list item, as => .array (as.map item.encode)
  | _, .table item, table =>
    .object (table.entries.map fun (name, a) => member name (item.encode a))
  | _, .record _ fields view, a => .object (fields.members (view.row a))
  | _, .choice same variants, a => variants.encode same a

def Fields.members : {types : List Type} → Fields types → Row types → List Member
  | _, .nil, _ => []
  | _, .cons name _ format rest, (a, row) => member name (format.encode a) :: rest.members row

/-- The first variant that the value belongs to. -/
def Variants.encode : {α : Type} → Variants α → DecidableEq α → α → Value
  | _, .nil, _, _ => .null
  | _, .plain name value rest, same, a =>
    if (same a value).decide then .text name else rest.encode same a
  | _, .holding name format arm rest, same, a =>
    match arm.content? a with
    | some content => .object [member name (format.encode content)]
    | none => rest.encode same a

end

def Format.write (format : Format α) (a : α) : String := (format.encode a).write

end CallBoundary.Json
