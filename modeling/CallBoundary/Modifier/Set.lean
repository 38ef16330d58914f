import CallBoundary.Modifier.Basic

/-! The modifiers of one element, at most one of each kind. -/
namespace CallBoundary

/-- The modifiers in the order of their kinds. Each stands under its own kind, so the kinds are not
stored as keys beside them: only `insert?` adds a modifier, and it refuses a kind that is there. -/
structure ModifierSet where
  entries : List Modifier
  deriving DecidableEq, Repr

namespace ModifierSet

def empty : ModifierSet := ⟨[]⟩

def isEmpty (s : ModifierSet) : Bool := s.entries.isEmpty

def size (s : ModifierSet) : Nat := s.entries.length

def has (s : ModifierSet) (kind : Modifier.Kind) : Bool :=
  s.entries.any fun m => m.kind == kind

/-- Puts a modifier before the first one of a later kind. -/
def place (m : Modifier) : List Modifier → List Modifier
  | [] => [m]
  | first :: rest =>
    if m.kind.rank < first.kind.rank then m :: first :: rest else first :: place m rest

def insert? (s : ModifierSet) (m : Modifier) : Option ModifierSet :=
  if s.has m.kind then none else some ⟨place m s.entries⟩

def erase (s : ModifierSet) (kind : Modifier.Kind) : ModifierSet :=
  ⟨s.entries.filter fun m => m.kind != kind⟩

def isSpecial (s : ModifierSet) : Bool := s.entries.any Modifier.isSpecial

def hasArrayFamily (s : ModifierSet) : Bool := Modifier.Kind.arrayFamily.any s.has

/-- Takes the array family away. An optional argument of several types is never checked for
null, so it is not nullable afterwards. -/
def withoutArrayFamily (s : ModifierSet) : ModifierSet :=
  let kept := if s.has .optional && s.has .multiType then s.erase .nullable else s
  Modifier.Kind.arrayFamily.foldl erase kept

end ModifierSet

end CallBoundary
