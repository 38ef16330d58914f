import CallBoundary.Proofs.Traversal
import Mathlib.Data.List.Infix
import Mathlib.Data.List.Nodup

/-! Of the faults that a computation would find, in the order in which it looks for them, it
reports the first. A list that is checked member by member is checked in turn: each member with
those before it. -/
namespace CallBoundary

section failureOf

/-- The failure of a computation that fails. -/
def failureOf : Except ε α → Option ε
  | .ok _ => none
  | .error e => some e

variable {x : Except ε α}

@[simp] theorem failureOf_ok (a : α) : failureOf (.ok a : Except ε α) = none := rfl

@[simp] theorem failureOf_error (e : ε) : failureOf (.error e : Except ε α) = some e := rfl

theorem failureOf_eq_none : failureOf x = none ↔ ∃ a, x = .ok a := by
  cases x <;> simp

theorem failureOf_eq_none_unit {x : Except ε Unit} : failureOf x = none ↔ x = .ok () := by
  cases x <;> simp

theorem failureOf_eq_some : failureOf x = some e ↔ x = .error e := by
  cases x <;> simp

@[simp] theorem failureOf_map {f : α → β} : failureOf (x.map f) = failureOf x := by
  cases x <;> rfl

@[simp] theorem failureOf_mapError {f : ε → δ} :
    failureOf (x.mapError f) = (failureOf x).map f := by
  cases x <;> rfl

/-- The faults of a step stand before those of the next, which is not taken if there are any. -/
theorem failureOf_bind {f : α → Except ε β} {faults more : List ε}
    (first : failureOf x = faults.head?)
    (second : ∀ a, x = .ok a → failureOf (f a) = more.head?) :
    failureOf (x >>= f) = (faults ++ more).head? := by
  rw [List.head?_append, ← first]
  cases x with
  | ok a => exact second a rfl
  | error e => rfl

theorem failureOf_mapM_cons {x : α} {xs : List α} {f : α → Except ε β} :
    failureOf ((x :: xs).mapM f) = (failureOf (f x)).or (failureOf (xs.mapM f)) := by
  cases result : f x with
  | ok y => rw [mapM_cons_ok result, failureOf_map, failureOf_ok, Option.none_or]
  | error e =>
    rw [mapM_cons_error result]
    rfl

theorem failureOf_mapM {xs : List α} {f : α → Except ε β} {faults : α → List ε}
    (each : ∀ x ∈ xs, failureOf (f x) = (faults x).head?) :
    failureOf (xs.mapM f) = (xs.flatMap faults).head? := by
  induction xs with
  | nil => rfl
  | cons x xs ih =>
    obtain ⟨head, tail⟩ := List.forall_mem_cons.mp each
    rw [failureOf_mapM_cons, List.flatMap_cons, List.head?_append, head, ih tail]

end failureOf

section inTurn

/-- What is found on the members of a list in turn, each with those before it. -/
def inTurn (find : List α → α → List β) (xs : List α) : List β :=
  (List.zipWith find xs.inits xs).flatten

variable {find : List α → α → List β} {xs : List α}

@[simp] theorem inTurn_nil : inTurn find [] = [] := rfl

theorem inTurn_cons : inTurn find (x :: xs) =
    find [] x ++ inTurn (fun earlier => find (x :: earlier)) xs := by
  simp [inTurn, List.zipWith_map_left]

theorem inTurn_map {g : β → γ} :
    (inTurn find xs).map g = inTurn (fun earlier x => (find earlier x).map g) xs := by
  simp [inTurn, List.map_flatten, List.map_zipWith]

theorem mem_inTurn (member : b ∈ inTurn find xs) : ∃ earlier, ∃ x ∈ xs, b ∈ find earlier x := by
  induction xs generalizing find with
  | nil => contradiction
  | cons first rest ih =>
    rw [inTurn_cons, List.mem_append] at member
    rcases member with here | later
    · exact ⟨[], first, by simp, here⟩
    · obtain ⟨earlier, x, member, found⟩ := ih later
      exact ⟨first :: earlier, x, by simp [member], found⟩

theorem inTurn_congr {R : α → γ → Prop} {ys : List γ} {other : List γ → γ → List β}
    (related : List.Forall₂ R xs ys)
    (same : ∀ as bs a b, List.Forall₂ R as bs → R a b → find as a = other bs b) :
    inTurn find xs = inTurn other ys := by
  -- What was before the tail is part of what is looked for on it, so both tests vary.
  induction related generalizing find other with
  | nil => rfl
  | cons head _ ih =>
    rw [inTurn_cons, inTurn_cons, same [] [] _ _ .nil head]
    rw [ih fun as bs a b before => same _ _ a b (.cons head before)]

theorem inTurn_eq_nil : inTurn find xs = [] ↔
    ∀ earlier x later, xs = earlier ++ x :: later → find earlier x = [] := by
  induction xs generalizing find with
  | nil => simp
  | cons first rest ih =>
    rw [inTurn_cons, List.append_eq_nil_iff, ih]
    constructor
    · intro clean earlier x later split
      rcases List.cons_eq_append_iff.mp split with ⟨rfl, same⟩ | ⟨_, rfl, rfl⟩
      · obtain ⟨rfl, -⟩ := List.cons.inj same
        exact clean.1
      · exact clean.2 _ x later rfl
    · intro clean
      refine ⟨clean [] first rest rfl, fun earlier x later split => ?_⟩
      exact clean (first :: earlier) x later (by rw [split, List.cons_append])

theorem nodup_iff_fresh {f : α → γ} : (xs.map f).Nodup ↔
    ∀ earlier x later, xs = earlier ++ x :: later → f x ∉ earlier.map f := by
  constructor
  · intro distinct earlier x later split
    rw [split, List.map_append, List.map_cons, List.nodup_middle, List.nodup_cons] at distinct
    exact fun repeated => distinct.1 (List.mem_append_left _ repeated)
  · intro fresh
    induction xs using List.reverseRecOn with
    | nil => exact List.nodup_nil
    | append_singleton xs last ih =>
      rw [List.map_append, List.map_singleton, List.nodup_middle, List.append_nil, List.nodup_cons]
      refine ⟨fresh xs last [] rfl, ih fun earlier x later split => ?_⟩
      exact fresh earlier x (later ++ [last]) (by rw [split, List.append_assoc, List.cons_append])

/-- A list is clean where no member has a fault of its own or repeats an earlier one. -/
theorem inTurn_clean {fine : α → Prop} {f : α → γ}
    (clean : ∀ earlier x, find earlier x = [] ↔ fine x ∧ f x ∉ earlier.map f) :
    inTurn find xs = [] ↔ (∀ x ∈ xs, fine x) ∧ (xs.map f).Nodup := by
  simp only [inTurn_eq_nil, clean, nodup_iff_fresh]
  constructor
  · intro each
    refine ⟨fun x member => ?_, fun earlier x later split => (each earlier x later split).2⟩
    obtain ⟨earlier, later, split⟩ := List.append_of_mem member
    exact (each earlier x later split).1
  · intro parts earlier x later split
    exact ⟨parts.1 x (by simp [split]), parts.2 earlier x later split⟩

/-- The first fault is found at the first place where there is one. -/
theorem inTurn_head?_eq_some : (inTurn find xs).head? = some b ↔
    ∃ i x, xs[i]? = some x ∧ (find (xs.take i) x).head? = some b ∧
      ∀ j < i, ∀ y, xs[j]? = some y → find (xs.take j) y = [] := by
  induction xs generalizing find with
  | nil => simp
  | cons first rest ih =>
    rw [inTurn_cons, List.head?_append]
    cases faults : find [] first with
    | nil =>
      rw [List.head?_nil, Option.none_or, ih]
      constructor
      · intro later
        obtain ⟨i, x, place, fault, before⟩ := later
        refine ⟨i + 1, x, place, fault, fun j low y other => ?_⟩
        cases j with
        | zero =>
          obtain rfl := Option.some.inj other
          exact faults
        | succ j => exact before j (Nat.lt_of_succ_lt_succ low) y other
      · intro found
        obtain ⟨i, x, place, fault, before⟩ := found
        cases i with
        | zero =>
          obtain rfl := Option.some.inj place
          simp [faults] at fault
        | succ i =>
          refine ⟨i, x, place, fault, fun j low y other => ?_⟩
          exact before (j + 1) (Nat.succ_lt_succ low) y other
    | cons fault more =>
      rw [List.head?_cons, Option.some_or, Option.some.injEq]
      constructor
      · rintro rfl
        exact ⟨0, first, rfl, by simp [faults], by simp⟩
      · intro found
        obtain ⟨i, x, place, head, before⟩ := found
        cases i with
        | zero =>
          obtain rfl := Option.some.inj place
          simpa [faults] using head
        | succ i =>
          have clean := before 0 (Nat.succ_pos i) first rfl
          simp [faults] at clean

/-- The first member of a list that is at fault behind those before it stands at the place. -/
structure FirstAt (faulty : List α → α → Prop) (xs : List α) (place : Nat) (x : α) : Prop where
  here : xs[place]? = some x
  fault : faulty (xs.take place) x
  before : ∀ i < place, ∀ other, xs[i]? = some other → ¬ faulty (xs.take i) other

/-- Where each member at fault has one fault that counts, that of the first is reported. -/
theorem inTurn_head?_iff_firstAt {faulty : List α → α → Prop} {fault : α → β}
    (counts : ∀ earlier x b, (find earlier x).head? = some b ↔ faulty earlier x ∧ b = fault x) :
    (inTurn find xs).head? = some b ↔ ∃ place x, FirstAt faulty xs place x ∧ b = fault x := by
  have clean (earlier : List α) (x : α) : find earlier x = [] ↔ ¬ faulty earlier x := by
    rw [← List.head?_eq_none_iff, Option.eq_none_iff_forall_ne_some]
    simp [counts]
  simp only [inTurn_head?_eq_some, counts, clean]
  constructor
  · intro found
    obtain ⟨place, x, here, ⟨misplaced, same⟩, before⟩ := found
    exact ⟨place, x, ⟨here, misplaced, before⟩, same⟩
  · intro found
    obtain ⟨place, x, first, same⟩ := found
    exact ⟨place, x, first.here, ⟨first.fault, same⟩, first.before⟩

end inTurn

end CallBoundary
