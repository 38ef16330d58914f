import CallBoundary.Element
import CallBoundary.Proofs.Traversal

/-! Modifier sets as what they hold, and the elements that carry them. An element is valid if it
holds at most one modifier of each kind and each of them suits its native type. Attaching keeps
elements valid, and so does taking the array family away. -/
namespace CallBoundary

theorem Modifier.Kind.rank_injective {a b : Modifier.Kind} (same : a.rank = b.rank) : a = b := by
  cases a <;> cases b <;> simp_all [Modifier.Kind.rank]

namespace ModifierSet

variable {s : ModifierSet}

theorem has_iff : s.has kind = true ↔ ∃ m ∈ s.entries, m.kind = kind := by
  simp [has]

/-- The entries stand in the order of their kinds, so no kind is there twice. -/
def Ordered (s : ModifierSet) : Prop := s.entries.Pairwise (·.kind.rank < ·.kind.rank)

theorem place_perm (new : Modifier) (ms : List Modifier) : (place new ms).Perm (new :: ms) := by
  induction ms with
  | nil => exact .refl _
  | cons first rest ih =>
    by_cases low : new.kind.rank < first.kind.rank
    · rw [place, if_pos low]
    · rw [place, if_neg low]
      exact (ih.cons first).trans (.swap new first rest)

theorem mem_place {ms : List Modifier} : m ∈ place new ms ↔ m = new ∨ m ∈ ms := by
  rw [(place_perm new ms).mem_iff, List.mem_cons]

theorem place_ordered {ms : List Modifier} (ordered : ms.Pairwise (·.kind.rank < ·.kind.rank))
    (fresh : ∀ m ∈ ms, m.kind ≠ new.kind) :
    (place new ms).Pairwise (·.kind.rank < ·.kind.rank) := by
  induction ms with
  | nil => simp [place]
  | cons first rest ih =>
    have ⟨before, tail⟩ := List.pairwise_cons.mp ordered
    have ⟨other, others⟩ := List.forall_mem_cons.mp fresh
    simp only [place]
    split
    next low =>
      refine List.pairwise_cons.mpr ⟨List.forall_mem_cons.mpr ⟨low, fun m member => ?_⟩, ordered⟩
      exact Nat.lt_trans low (before m member)
    next high =>
      refine List.pairwise_cons.mpr ⟨fun m member => ?_, ih tail others⟩
      rcases mem_place.mp member with rfl | member
      · have different := mt Modifier.Kind.rank_injective other
        omega
      · exact before m member

theorem Ordered.distinct (ordered : s.Ordered) : (s.entries.map Modifier.kind).Nodup := by
  refine List.pairwise_map.mpr (List.Pairwise.imp (fun before same => ?_) ordered)
  exact Nat.lt_irrefl _ (same ▸ before)

/-- The order of the kinds leaves no choice, so the same modifiers are the same set. -/
theorem eq_of_perm (ordered : s.Ordered) (others : t.Ordered)
    (perm : s.entries.Perm t.entries) : s = t := by
  have same : s.entries = t.entries :=
    perm.eq_of_pairwise (fun _ _ _ _ low high => absurd (Nat.lt_trans low high) (Nat.lt_irrefl _))
      ordered others
  cases s
  cases t
  exact congrArg ModifierSet.mk same

theorem insert?_eq_some :
    s.insert? new = some t ↔ s.has new.kind = false ∧ t = ⟨place new s.entries⟩ := by
  cases present : s.has new.kind <;> simp [insert?, present, eq_comm]

theorem insert?_ordered (ordered : s.Ordered) (inserted : s.insert? new = some t) : t.Ordered := by
  obtain ⟨absent, rfl⟩ := insert?_eq_some.mp inserted
  refine place_ordered ordered fun m member same => ?_
  exact absurd (has_iff.mpr ⟨m, member, same⟩) (by simp [absent])

/-- What is left of a set for the plain overload: all that is not there to derive overloads, and
no null check for an optional argument of several types. -/
def keeps (s : ModifierSet) (kind : Modifier.Kind) : Bool :=
  !Modifier.Kind.arrayFamily.contains kind &&
    !(kind == .nullable && s.has .optional && s.has .multiType)

theorem eraseAll_entries (kinds : List Modifier.Kind) :
    (kinds.foldl erase s).entries = s.entries.filter fun m => !kinds.contains m.kind := by
  induction kinds generalizing s with
  | nil => simp
  | cons kind kinds ih =>
    rw [List.foldl_cons, ih, erase, List.filter_filter]
    exact List.filter_congr fun m _ => by simp [bne, Bool.and_comm, Bool.beq_eq_decide_eq]

theorem withoutArrayFamily_entries :
    s.withoutArrayFamily.entries = s.entries.filter fun m => s.keeps m.kind := by
  simp only [withoutArrayFamily, eraseAll_entries]
  split
  next several =>
    obtain ⟨optional, multiType⟩ := Bool.and_eq_true_iff.mp several
    rw [erase, List.filter_filter]
    exact List.filter_congr fun m _ => by simp [keeps, optional, multiType, bne]
  next plain =>
    exact List.filter_congr fun m _ => by simp [keeps, Bool.and_assoc, plain]

theorem mem_withoutArrayFamily :
    m ∈ s.withoutArrayFamily.entries ↔ m ∈ s.entries ∧ s.keeps m.kind = true := by
  rw [withoutArrayFamily_entries, List.mem_filter]

theorem has_withoutArrayFamily :
    s.withoutArrayFamily.has kind = (s.has kind && s.keeps kind) := by
  rw [Bool.eq_iff_iff, Bool.and_eq_true, has_iff, has_iff]
  constructor
  · intro has
    obtain ⟨m, member, rfl⟩ := has
    obtain ⟨member, kept⟩ := mem_withoutArrayFamily.mp member
    exact ⟨⟨m, member, rfl⟩, kept⟩
  · intro has
    obtain ⟨⟨m, member, rfl⟩, kept⟩ := has
    exact ⟨m, mem_withoutArrayFamily.mpr ⟨member, kept⟩, rfl⟩

theorem withoutArrayFamily_hasArrayFamily : s.withoutArrayFamily.hasArrayFamily = false := by
  simp [hasArrayFamily, Modifier.Kind.arrayFamily, has_withoutArrayFamily, keeps]

/-- The exception for null checks needs a modifier of the array family. -/
theorem withoutArrayFamily_eq_self (plain : s.hasArrayFamily = false) :
    s.withoutArrayFamily = s := by
  have absent : ∀ kind ∈ Modifier.Kind.arrayFamily, s.has kind = false := by
    simpa [hasArrayFamily] using plain
  have kept : ∀ m ∈ s.entries, s.keeps m.kind = true := by
    intro m member
    have outside : m.kind ∉ Modifier.Kind.arrayFamily := by
      intro inside
      simpa [absent m.kind inside] using has_iff.mpr ⟨m, member, rfl⟩
    simp [keeps, outside, absent .multiType (by decide)]
  have same : s.withoutArrayFamily.entries = s.entries := by
    rw [withoutArrayFamily_entries, List.filter_eq_self.mpr kept]
  exact congrArg ModifierSet.mk same

theorem withoutArrayFamily_idempotent :
    s.withoutArrayFamily.withoutArrayFamily = s.withoutArrayFamily :=
  withoutArrayFamily_eq_self withoutArrayFamily_hasArrayFamily

theorem withoutArrayFamily_ordered (ordered : s.Ordered) : s.withoutArrayFamily.Ordered := by
  rw [Ordered, withoutArrayFamily_entries]
  exact ordered.filter _

end ModifierSet

section attachEach

variable {s out : ModifierSet} {ms : List Modifier}

theorem attachEach_cons :
    attachEach t role origin s (m :: ms) = .ok out ↔ m.objection t role = none ∧
      ∃ next, s.insert? m = some next ∧ attachEach t role origin next ms = .ok out := by
  simp only [attachEach]
  cases m.objection t role with
  | some reason => simp
  | none => cases s.insert? m <;> simp

theorem attachEach_perm (attached : attachEach t role origin s ms = .ok out) :
    out.entries.Perm (s.entries ++ ms) := by
  induction ms generalizing s with
  | nil =>
    cases attached
    rw [List.append_nil]
  | cons new ms ih =>
    obtain ⟨-, next, inserted, rest⟩ := attachEach_cons.mp attached
    obtain ⟨-, rfl⟩ := ModifierSet.insert?_eq_some.mp inserted
    have placed := (ModifierSet.place_perm new s.entries).append_right ms
    exact (ih rest).trans (placed.trans List.perm_middle.symm)

theorem mem_attachEach (attached : attachEach t role origin s ms = .ok out) :
    m ∈ out.entries ↔ m ∈ s.entries ∨ m ∈ ms := by
  rw [(attachEach_perm attached).mem_iff, List.mem_append]

theorem attachEach_fits (attached : attachEach t role origin s ms = .ok out) :
    ∀ m ∈ ms, m.objection t role = none := by
  induction ms generalizing s with
  | nil => simp
  | cons new ms ih =>
    obtain ⟨fits, next, -, rest⟩ := attachEach_cons.mp attached
    exact List.forall_mem_cons.mpr ⟨fits, ih rest⟩

theorem attachEach_ordered (ordered : s.Ordered)
    (attached : attachEach t role origin s ms = .ok out) : out.Ordered := by
  induction ms generalizing s with
  | nil =>
    cases attached
    exact ordered
  | cons new ms ih =>
    obtain ⟨-, next, inserted, rest⟩ := attachEach_cons.mp attached
    exact ih (ModifierSet.insert?_ordered ordered inserted) rest

end attachEach

namespace Element

structure Valid (role : Role) (e : Element) : Prop where
  ordered : e.modifiers.Ordered
  fits : ∀ m ∈ e.modifiers.entries, m.objection e.nativeType role = none

theorem attach_eq_ok {e out : Element} (attached : e.attach role origin ms = .ok out) :
    out.nativeType = e.nativeType ∧
      attachEach e.nativeType role origin e.modifiers ms = .ok out.modifiers := by
  simp only [attach] at attached
  split at attached
  · contradiction
  · obtain ⟨modifiers, each, rfl⟩ := map_eq_ok.mp attached
    exact ⟨rfl, each⟩

theorem ofType_valid : (ofType t).Valid role := ⟨.nil, by simp [ofType, ModifierSet.empty]⟩

theorem attach_valid {e out : Element} (valid : e.Valid role)
    (attached : e.attach role origin ms = .ok out) : out.Valid role := by
  obtain ⟨same, attached⟩ := attach_eq_ok attached
  refine ⟨attachEach_ordered valid.ordered attached, fun m member => ?_⟩
  rw [same]
  rcases (mem_attachEach attached).mp member with old | new
  · exact valid.fits m old
  · exact attachEach_fits attached m new

theorem withoutArrayFamily_valid {e : Element} (valid : e.Valid role) :
    Valid role { e with modifiers := e.modifiers.withoutArrayFamily } where
  ordered := ModifierSet.withoutArrayFamily_ordered valid.ordered
  fits m member := valid.fits m (ModifierSet.mem_withoutArrayFamily.mp member).1

end Element

end CallBoundary
