import Mathlib.Data.List.Forall2

/-! Computations that may fail, and going through a list with one. The first failure ends the
traversal; without one there is a result for each member, in order. -/
namespace CallBoundary

theorem bind_eq_ok {x : Except ε α} {f : α → Except ε β} :
    (x >>= f) = .ok b ↔ ∃ a, x = .ok a ∧ f a = .ok b := by
  cases x <;> simp [bind, Except.bind]

theorem map_eq_ok {x : Except ε α} {f : α → β} : x.map f = .ok b ↔ ∃ a, x = .ok a ∧ f a = b := by
  cases x <;> simp [Except.map]

theorem map_eq_error {x : Except ε α} {f : α → β} : x.map f = .error e ↔ x = .error e := by
  cases x <;> simp [Except.map]

theorem mapError_eq_ok {x : Except ε α} {f : ε → δ} : x.mapError f = .ok a ↔ x = .ok a := by
  cases x <;> simp [Except.mapError]

theorem toOption_eq_some {x : Except ε α} : x.toOption = some a ↔ x = .ok a := by
  cases x <;> simp [Except.toOption]

/-- What succeeds and what fails are the two ways of ending. -/
theorem not_ok_iff_error {x : Except ε α} : (¬ ∃ a, x = .ok a) ↔ ∃ e, x = .error e := by
  cases x <;> simp

section mapM

variable {xs : List α} {ys : List β} {f g : α → Except ε β}

theorem mapM_cons_ok (head : f x = .ok y) :
    (x :: xs).mapM f = (xs.mapM f).map (y :: ·) := by
  rw [List.mapM_cons, head]
  cases xs.mapM f <;> rfl

theorem mapM_cons_error (head : f x = .error e) :
    (x :: xs).mapM f = .error e := by
  rw [List.mapM_cons, head]
  rfl

theorem mapM_congr (same : ∀ x ∈ xs, f x = g x) :
    xs.mapM f = xs.mapM g := by
  induction xs with
  | nil => rfl
  | cons x xs ih =>
    obtain ⟨head, tail⟩ := List.forall_mem_cons.mp same
    rw [List.mapM_cons, List.mapM_cons, head, ih tail]

theorem mapM_eq_ok : xs.mapM f = .ok ys ↔ List.Forall₂ (fun x y => f x = .ok y) xs ys := by
  induction xs generalizing ys with
  | nil => simp [pure, Except.pure, eq_comm]
  | cons x xs ih =>
    cases head : f x with
    | error e => simp [mapM_cons_error head, List.forall₂_cons_left_iff, head]
    | ok y =>
      simp only [mapM_cons_ok head, map_eq_ok, ih, List.forall₂_cons_left_iff, head,
        Except.ok.injEq]
      constructor
      · rintro ⟨tail, rest, rfl⟩
        exact ⟨y, tail, rfl, rest, rfl⟩
      · rintro ⟨_, tail, rfl, rest, rfl⟩
        exact ⟨tail, rest, rfl⟩

theorem partner_of_mem {R : α → β → Prop} (related : List.Forall₂ R xs ys) (member : x ∈ xs) :
    ∃ y ∈ ys, R x y := by
  induction related with
  | nil => contradiction
  | cons head _ ih =>
    rcases List.mem_cons.mp member with rfl | member
    · exact ⟨_, by simp, head⟩
    · obtain ⟨y, found, related⟩ := ih member
      exact ⟨y, by simp [found], related⟩

theorem exists_results {R : α → β → Prop} {P : β → Prop} :
    (∃ ys, List.Forall₂ R xs ys ∧ ∀ y ∈ ys, P y) ↔ ∀ x ∈ xs, ∃ y, R x y ∧ P y := by
  constructor
  · intro results x member
    obtain ⟨ys, related, holds⟩ := results
    obtain ⟨y, found, related⟩ := partner_of_mem related member
    exact ⟨y, related, holds y found⟩
  · intro each
    induction xs with
    | nil => exact ⟨[], .nil, by simp⟩
    | cons x xs ih =>
      obtain ⟨⟨y, head, first⟩, tail⟩ := List.forall_mem_cons.mp each
      obtain ⟨ys, related, rest⟩ := ih tail
      exact ⟨y :: ys, .cons head related, List.forall_mem_cons.mpr ⟨first, rest⟩⟩

theorem exists_partners {R : α → β → Prop} :
    (∃ ys, List.Forall₂ R xs ys) ↔ ∀ x ∈ xs, ∃ y, R x y := by
  simpa using exists_results (P := fun _ => True)

theorem mapM_length (all : xs.mapM f = .ok ys) : ys.length = xs.length :=
  (mapM_eq_ok.mp all).length_eq.symm

theorem mapM_getElem? {i : Nat} (all : xs.mapM f = .ok ys) (source : xs[i]? = some x)
    (result : ys[i]? = some y) : f x = .ok y := by
  obtain ⟨_, rfl⟩ := List.getElem?_eq_some_iff.mp source
  obtain ⟨_, rfl⟩ := List.getElem?_eq_some_iff.mp result
  exact (mapM_eq_ok.mp all).get _ _

theorem mapM_result {i : Nat} (all : xs.mapM f = .ok ys) (source : xs[i]? = some x) :
    ∃ y, ys[i]? = some y ∧ f x = .ok y := by
  obtain ⟨place, -⟩ := List.getElem?_eq_some_iff.mp source
  rw [← mapM_length all] at place
  have result : ys[i]? = some ys[i] := List.getElem?_eq_getElem place
  exact ⟨_, result, mapM_getElem? all source result⟩

/-- The failure is that of the first member that fails. -/
theorem mapM_eq_error :
    xs.mapM f = .error e ↔ ∃ before x after, xs = before ++ x :: after ∧
      (∀ b ∈ before, ∃ y, f b = .ok y) ∧ f x = .error e := by
  induction xs with
  | nil => simp [pure, Except.pure]
  | cons x xs ih =>
    simp only [List.cons_eq_append_iff]
    cases head : f x with
    | error reason =>
      rw [mapM_cons_error head]
      constructor
      · rintro ⟨⟩
        exact ⟨[], x, xs, .inl ⟨rfl, rfl⟩, by simp, head⟩
      · intro failing
        obtain ⟨before, first, after, shape, fine, failed⟩ := failing
        rcases shape with ⟨rfl, same⟩ | ⟨_, rfl, -⟩
        · obtain ⟨rfl, -⟩ := List.cons.inj same
          cases head.symm.trans failed
          rfl
        · obtain ⟨_, ok⟩ := fine x (by simp)
          cases head.symm.trans ok
    | ok y =>
      rw [mapM_cons_ok head, map_eq_error, ih]
      constructor
      · intro failing
        obtain ⟨before, first, after, rfl, fine, failed⟩ := failing
        refine ⟨x :: before, first, after, .inr ⟨before, rfl, rfl⟩, ?_, failed⟩
        exact List.forall_mem_cons.mpr ⟨⟨y, head⟩, fine⟩
      · intro failing
        obtain ⟨before, first, after, shape, fine, failed⟩ := failing
        rcases shape with ⟨rfl, same⟩ | ⟨tail, rfl, rfl⟩
        · obtain ⟨rfl, -⟩ := List.cons.inj same
          cases head.symm.trans failed
        · exact ⟨tail, first, after, rfl, fun b member => fine b (by simp [member]), failed⟩

/-- Where a test tells which members fail, the first that it finds is the one reported. -/
theorem mapM_eq_error_of_test {fails : α → Bool} {failure : α → ε}
    (spec : ∀ x ∈ xs, ∀ e, f x = .error e ↔ fails x = true ∧ e = failure x) :
    xs.mapM f = .error e ↔ ∃ x, xs.find? fails = some x ∧ e = failure x := by
  have fine (x : α) (member : x ∈ xs) : (∃ y, f x = .ok y) ↔ fails x = false := by
    rw [← not_iff_not, not_ok_iff_error]
    simp [spec x member]
  simp only [mapM_eq_error, List.find?_eq_some_iff_append]
  constructor
  · intro failing
    obtain ⟨before, x, after, rfl, earlier, failed⟩ := failing
    obtain ⟨found, rfl⟩ := (spec x (by simp) e).mp failed
    refine ⟨x, ⟨found, before, after, rfl, fun b member => ?_⟩, rfl⟩
    simp [(fine b (by simp [member])).mp (earlier b member)]
  · intro found
    obtain ⟨x, ⟨found, before, after, rfl, earlier⟩, rfl⟩ := found
    refine ⟨before, x, after, rfl, fun b member => ?_, (spec x (by simp) _).mpr ⟨found, rfl⟩⟩
    exact (fine b (by simp [member])).mpr (by simpa using earlier b member)

end mapM

end CallBoundary
