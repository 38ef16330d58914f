/-! Tables from names to values. The entries stand in the order of their names, so equal contents
are equal tables, and a table shows its entries in one order only. -/
namespace CallBoundary

/-- Puts an entry in its place, instead of the one with its name if there is one. -/
def insertEntry (name : String) (value : α) : List (String × α) → List (String × α)
  | [] => [(name, value)]
  | entry :: entries =>
    if name < entry.1 then (name, value) :: entry :: entries
    else if name = entry.1 then (name, value) :: entries
    else entry :: insertEntry name value entries

theorem mem_insertEntry {entries : List (String × α)} {entry : String × α}
    (h : entry ∈ insertEntry name value entries) : entry = (name, value) ∨ entry ∈ entries := by
  induction entries with
  | nil => simpa [insertEntry] using h
  | cons first rest ih =>
    simp only [insertEntry] at h
    split at h
    · simpa using h
    · split at h
      · simp only [List.mem_cons] at h ⊢
        exact h.imp_right .inr
      · simp only [List.mem_cons] at h ⊢
        rcases h with h | h
        · exact .inr (.inl h)
        · exact (ih h).imp_right .inr

def Ordered (entries : List (String × α)) : Prop := entries.Pairwise (·.1 < ·.1)

theorem insertEntry_ordered {entries : List (String × α)} (ordered : Ordered entries) :
    Ordered (insertEntry name value entries) := by
  induction entries with
  | nil => simp [insertEntry, Ordered]
  | cons first rest ih =>
    have ⟨before, tail⟩ := List.pairwise_cons.mp ordered
    simp only [insertEntry]
    split
    next low =>
      refine List.pairwise_cons.mpr ⟨fun entry h => ?_, ordered⟩
      rcases List.mem_cons.mp h with rfl | h
      · exact low
      · exact String.lt_trans low (before entry h)
    next high =>
      split
      next same => exact List.pairwise_cons.mpr ⟨fun entry h => same ▸ before entry h, tail⟩
      next other =>
        refine List.pairwise_cons.mpr ⟨fun entry h => ?_, ih tail⟩
        rcases mem_insertEntry h with rfl | h
        · exact Std.lt_of_le_of_ne (String.not_lt.mp high) (Ne.symm other)
        · exact before entry h

structure Table (α : Type) where
  entries : List (String × α)
  ordered : Ordered entries

def Table.empty : Table α := ⟨[], .nil⟩

/-- A name that is there already gets the new value. -/
def Table.insert (table : Table α) (name : String) (value : α) : Table α :=
  ⟨insertEntry name value table.entries, insertEntry_ordered table.ordered⟩

def Table.find? (table : Table α) (name : String) : Option α :=
  (table.entries.find? fun entry => entry.1 == name).map (·.2)

/-- Of entries with one name the last counts. -/
def Table.ofList (entries : List (String × α)) : Table α :=
  entries.foldl (fun table entry => table.insert entry.1 entry.2) .empty

theorem Table.ext {a b : Table α} (same : a.entries = b.entries) : a = b := by
  cases a; cases b; cases same; rfl

instance [DecidableEq α] : DecidableEq (Table α) := fun a b =>
  decidable_of_iff (a.entries = b.entries) ⟨Table.ext, congrArg _⟩

end CallBoundary
