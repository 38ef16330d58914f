import CallBoundary.Table
import Mathlib.Data.List.Induction
import Mathlib.Data.List.Nodup

/-! Tables as finite maps. A table is known by what it finds, and the order in which a list of
entries fills it matters among entries of one name only, of which the last counts. -/
namespace CallBoundary

variable {entries others : List (String × α)}

/-- No name is there twice. -/
def DistinctNames (entries : List (String × α)) : Prop := (entries.map (·.1)).Nodup

theorem Ordered.distinctNames (ordered : Ordered entries) : DistinctNames entries := by
  refine List.pairwise_map.mpr (ordered.imp fun before => ?_)
  exact fun same => String.lt_irrefl _ (same ▸ before)

theorem lookup_cons_ite : ((key, value) :: entries).lookup name =
    if name = key then some value else entries.lookup name := by
  by_cases found : name = key
  · simp [found]
  · simp [List.lookup_cons, beq_false_of_ne found, found]

theorem lookup_insertEntry : (insertEntry other value entries).lookup name =
    if name = other then some value else entries.lookup name := by
  induction entries with
  | nil => rw [insertEntry, lookup_cons_ite]
  | cons first rest ih =>
    obtain ⟨key, old⟩ := first
    simp only [insertEntry]
    split
    next => rw [lookup_cons_ite]
    next =>
      split
      next same => grind [lookup_cons_ite]
      next different => grind [lookup_cons_ite]

theorem lookup_eq_some (distinct : DistinctNames entries) :
    entries.lookup name = some value ↔ (name, value) ∈ entries := by
  induction entries with
  | nil => simp
  | cons first rest ih =>
    obtain ⟨key, old⟩ := first
    obtain ⟨fresh, distinct⟩ := List.nodup_cons.mp distinct
    by_cases found : name = key
    · subst found
      have gone : (name, value) ∉ rest := fun member => fresh (List.mem_map.mpr ⟨_, member, rfl⟩)
      simp [gone, eq_comm]
    · simp [lookup_cons_ite, found, ih distinct]

section Rearranged

variable [DecidableEq κ]

/-- Of each key the listings have the same entries in the same order. A listing with distinct keys
is so rearranged into every order. -/
def Rearranged (entries others : List (κ × α)) : Prop :=
  ∀ key, entries.filter (·.1 = key) = others.filter (·.1 = key)

variable {entries others : List (κ × α)}

theorem rearranged_of_perm (distinct : (entries.map (·.1)).Nodup) (perm : entries.Perm others) :
    Rearranged entries others := by
  intro key
  have distinct' : (others.map (·.1)).Nodup := (perm.map _).nodup_iff.mp distinct
  refine (perm.filter _).eq_of_pairwise (fun x y first second before _ => ?_)
    ((List.pairwise_map.mp distinct).filter _) ((List.pairwise_map.mp distinct').filter _)
  simp only [List.mem_filter, decide_eq_true_iff] at first second
  exact absurd (first.2.trans second.2.symm) before

theorem Rearranged.mem_iff (same : Rearranged entries others) :
    entry ∈ entries ↔ entry ∈ others := by
  have filtered := congrArg (entry ∈ ·) (same entry.1)
  simpa using filtered

end Rearranged

namespace Table

variable {table : Table α}

theorem find?_eq_lookup : table.find? name = table.entries.lookup name := by
  rw [find?]
  induction table.entries with
  | nil => rfl
  | cons first rest ih =>
    obtain ⟨key, value⟩ := first
    by_cases found : name = key
    · simp [found]
    · simp [lookup_cons_ite, found, Ne.symm found, ih]

@[simp] theorem find?_empty : (empty : Table α).find? name = none := rfl

theorem find?_insert : (table.insert other value).find? name =
    if name = other then some value else table.find? name := by
  simp only [find?_eq_lookup, insert, lookup_insertEntry]

theorem find?_eq_some : table.find? name = some value ↔ (name, value) ∈ table.entries := by
  rw [find?_eq_lookup, lookup_eq_some table.ordered.distinctNames]

/-- The order of the names leaves no choice, so the contents determine the table. -/
theorem ext_find? {a b : Table α} (same : ∀ name, a.find? name = b.find? name) : a = b := by
  have members : ∀ entry, entry ∈ a.entries ↔ entry ∈ b.entries := by
    intro entry
    rw [← find?_eq_some, ← find?_eq_some, same]
  have perm : a.entries.Perm b.entries :=
    (List.perm_ext_iff_of_nodup (List.Nodup.of_map _ a.ordered.distinctNames)
      (List.Nodup.of_map _ b.ordered.distinctNames)).mpr members
  refine Table.ext (perm.eq_of_pairwise (fun x y _ _ before after => ?_) a.ordered b.ordered)
  exact absurd (String.lt_trans before after) (String.lt_irrefl _)

theorem find?_foldl_insert (distinct : DistinctNames entries) :
    (entries.foldl (fun table entry => table.insert entry.1 entry.2) table).find? name =
      (entries.lookup name).or (table.find? name) := by
  induction entries generalizing table with
  | nil => simp
  | cons first rest ih =>
    obtain ⟨key, value⟩ := first
    obtain ⟨fresh, distinct⟩ := List.nodup_cons.mp distinct
    rw [List.foldl_cons, ih distinct, find?_insert, lookup_cons_ite]
    by_cases found : name = key
    · subst found
      have gone : rest.lookup name = none := by
        refine List.lookup_eq_none_iff.mpr fun entry member => bne_iff_ne.mpr fun same => ?_
        exact fresh (List.mem_map.mpr ⟨entry, member, same.symm⟩)
      simp [gone]
    · simp [found]

theorem find?_ofList (distinct : DistinctNames entries) :
    (ofList entries).find? name = entries.lookup name := by
  rw [ofList, find?_foldl_insert distinct, find?_empty, Option.or_none]

theorem ofList_entries : ofList table.entries = table := by
  refine ext_find? fun name => ?_
  rw [find?_ofList table.ordered.distinctNames, find?_eq_lookup]

theorem find?_ofList_last :
    (ofList entries).find? name = (entries.filter (·.1 = name)).getLast?.map (·.2) := by
  induction entries using List.reverseRecOn with
  | nil => rfl
  | append_singleton entries entry ih =>
    have last : ofList (entries ++ [entry]) = (ofList entries).insert entry.1 entry.2 := by
      simp [ofList]
    rw [last, find?_insert, ih, List.filter_append, List.getLast?_append]
    by_cases found : name = entry.1
    · simp [found]
    · simp [found, Ne.symm found]

theorem ofList_rearranged (same : Rearranged entries others) : ofList entries = ofList others :=
  ext_find? fun name => by rw [find?_ofList_last, find?_ofList_last, same name]

end Table

end CallBoundary
