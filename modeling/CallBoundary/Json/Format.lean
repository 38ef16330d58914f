import CallBoundary.Json.Fault
import CallBoundary.Table

/-! Formats: how the values of a type are written as JSON. A format is data, so that reading and
writing follow one description and cannot drift apart. -/
namespace CallBoundary.Json

/-- The values of the fields of a record, in order. -/
def Row : List Type → Type
  | [] => Unit
  | α :: types => α × Row types

/-- The fields of a record that were met so far. -/
def Slots : List Type → Type
  | [] => Unit
  | α :: types => Option α × Slots types

def Slots.empty : (types : List Type) → Slots types
  | [] => ()
  | _ :: types => (none, empty types)

/-- A record seen as the row of its fields. -/
structure View (types : List Type) (α : Type) where
  build : Row types → α
  row : α → Row types
  build_row : ∀ a, build (row a) = a := by intro a; rfl

def View.single : View [α] α where
  build row := row.1
  row a := (a, ())

def View.pair : View [α, β] (α × β) where
  build row := (row.1, row.2.1)
  row a := (a.1, a.2, ())

/-- The content of one variant of a choice. -/
structure Arm (β α : Type) where
  build : β → α
  content? : α → Option β
  build_content : ∀ a b, content? a = some b → build b = a := by
    intro a b h; cases a <;> cases h <;> rfl

/-- Whether a field may be left out, and what it then is. Only a defaulted one may be left out of an
array too, if no later field follows. -/
inductive Presence (α : Type) where
  | required
  | nullable (absent : α)
  | defaulted (absent : α)

def Presence.byName? : Presence α → Option α
  | .required => none
  | .nullable absent => some absent
  | .defaulted absent => some absent

def Presence.byPosition? : Presence α → Option α
  | .defaulted absent => some absent
  | _ => none

mutual

inductive Format : Type → Type 1 where
  | text : Format String
  | flag : Format Bool
  | word : Format UInt32
  | optional {α : Type} (item : Format α) : Format (Option α)
  | list {α : Type} (item : Format α) : Format (List α)
  | table {α : Type} (item : Format α) : Format (Table α)
  /-- An object with a member for each field, or an array of the fields. -/
  | record {α : Type} {types : List Type} (label : Label) (fields : Fields types)
      (view : View types α) : Format α
  /-- The name of a variant, or an object whose one member has that name and the content. -/
  | choice {α : Type} (same : DecidableEq α) (variants : Variants α) : Format α

inductive Fields : List Type → Type 1 where
  | nil : Fields []
  | cons {α : Type} {types : List Type} (name : String) (presence : Presence α)
      (format : Format α) (rest : Fields types) : Fields (α :: types)

inductive Variants : Type → Type 1 where
  | nil {α : Type} : Variants α
  | plain {α : Type} (name : String) (value : α) (rest : Variants α) : Variants α
  | holding {α β : Type} (name : String) (content : Format β) (arm : Arm β α)
      (rest : Variants α) : Variants α

end

def Fields.count : {types : List Type} → Fields types → Nat
  | _, .nil => 0
  | _, .cons _ _ _ rest => rest.count + 1

def Fields.names : {types : List Type} → Fields types → List String
  | _, .nil => []
  | _, .cons name _ _ rest => name :: rest.names

def Variants.names : {α : Type} → Variants α → List String
  | _, .nil => []
  | _, .plain name _ rest => name :: rest.names
  | _, .holding name _ _ rest => name :: rest.names

def Format.oneOf [same : DecidableEq α] (variants : Variants α) : Format α := .choice same variants

def Variants.ofNames (names : List (String × α)) : Variants α :=
  names.foldr (fun entry rest => .plain entry.1 entry.2 rest) .nil

end CallBoundary.Json
