/-! Which members of a sequence are new when they come, as a set tells that is filled with them one
after the other. -/
namespace CallBoundary

variable {α : Type} {same : α → α → Bool} {before members : List α}

/-- Marks each member that is the same as none of those before it. -/
def newcomersAfter (same : α → α → Bool) (before : List α) : List α → List Bool
  | [] => []
  | a :: rest => (!before.any (same a)) :: newcomersAfter same (a :: before) rest

def newcomers (same : α → α → Bool) (members : List α) : List Bool :=
  newcomersAfter same [] members

theorem newcomersAfter_all : (newcomersAfter same before members).all id = true ↔
    (∀ a ∈ members, ∀ b ∈ before, same a b = false) ∧
      members.Pairwise fun a b => same b a = false := by
  induction members generalizing before with
  | nil => simp [newcomersAfter]
  | cons a rest ih =>
    have new : (!before.any (same a)) = true ↔ ∀ b ∈ before, same a b = false := by simp
    rw [newcomersAfter, List.all_cons, Bool.and_eq_true, ih, id, new, List.pairwise_cons,
      List.forall_mem_cons]
    constructor
    · intro all
      obtain ⟨first, others, apart⟩ := all
      refine ⟨⟨first, fun b member c seen => ?_⟩, fun b member => ?_, apart⟩
      · exact others b member c (List.mem_cons_of_mem a seen)
      · exact others b member a List.mem_cons_self
    · intro all
      obtain ⟨⟨first, others⟩, fresh, apart⟩ := all
      refine ⟨first, fun b member c seen => ?_, apart⟩
      rcases List.mem_cons.mp seen with rfl | seen
      · exact fresh b member
      · exact others b member c seen

/-- All members are new exactly if none is the same as an earlier one. -/
theorem newcomers_all : (newcomers same members).all id = true ↔
    members.Pairwise fun a b => same b a = false := by
  rw [newcomers, newcomersAfter_all]
  simp

end CallBoundary
