import CallBoundary.Proofs.Attachment
import CallBoundary.Proofs.Workshop

/-! Histories of one parameter. Modifiers are attached to a parameter that has none, so what was
attached first bars all that comes later, for as long as any of it is left. Stripping a parameter
of the array family is the one way to be rid of modifiers, and it leaves the others there. -/
namespace CallBoundary

/-- Some of the modifiers are there for more than to derive overloads. -/
def Lasting (ms : List Modifier) : Prop := ∃ m ∈ ms, m.kind ∉ Modifier.Kind.arrayFamily

theorem Lasting.ne_nil (lasting : Lasting ms) : ms ≠ [] := by
  obtain ⟨m, member, -⟩ := lasting
  exact List.ne_nil_of_mem member

theorem lasting_congr (same : ∀ m, m ∈ ms ↔ m ∈ others) : Lasting ms ↔ Lasting others := by
  simp only [Lasting, same]

namespace ModifierSet

variable {s : ModifierSet}

theorem ne_empty_iff : s ≠ .empty ↔ s.entries ≠ [] :=
  not_congr ⟨congrArg entries, congrArg mk⟩

/-- A null check gives way to an optional argument of several types, but the latter stays
optional. -/
theorem lasting_withoutArrayFamily :
    Lasting s.withoutArrayFamily.entries ↔ Lasting s.entries := by
  constructor
  · intro lasting
    obtain ⟨m, member, outside⟩ := lasting
    exact ⟨m, (mem_withoutArrayFamily.mp member).1, outside⟩
  · intro lasting
    obtain ⟨m, member, outside⟩ := lasting
    by_cases kept : s.keeps m.kind = true
    · exact ⟨m, mem_withoutArrayFamily.mpr ⟨member, kept⟩, outside⟩
    · have optional : s.has .optional = true := by
        by_contra required
        simp [keeps, outside, required] at kept
      obtain ⟨other, member, kind⟩ := has_iff.mp optional
      refine ⟨other, mem_withoutArrayFamily.mpr ⟨member, ?_⟩, ?_⟩
      · simp [kind, keeps, Modifier.Kind.arrayFamily]
      · simp [kind, Modifier.Kind.arrayFamily]

theorem withoutArrayFamily_ne_empty : s.withoutArrayFamily ≠ .empty ↔ Lasting s.entries := by
  rw [← lasting_withoutArrayFamily, ne_empty_iff]
  refine ⟨fun some => ?_, Lasting.ne_nil⟩
  obtain ⟨m, member⟩ := List.exists_mem_of_ne_nil _ some
  have kept := (mem_withoutArrayFamily.mp member).2
  simp only [keeps, Bool.and_eq_true, Bool.not_eq_true', List.contains_eq_mem,
    decide_eq_false_iff_not] at kept
  exact ⟨m, member, kept.1⟩

end ModifierSet

inductive Parameter.Step where
  | attach (ms : List Modifier)
  | link (links : String) (mode : LinkMode)
  | strip
  deriving DecidableEq, Repr

namespace Parameter

inductive Fresh : Parameter → Prop where
  | ofType (t : NativeType) (name : String) (direction : Direction) (documentation : String) :
      Fresh (.ofType t name direction documentation)
  | callContext (t : NativeType) : Fresh (.callContext t)

/-- An attachment that is refused changes nothing. -/
def perform (p : Parameter) : Step → Parameter
  | .attach ms => attempt (·.withModifiers ms) p
  | .link links mode => p.withLinks links mode
  | .strip => p.withoutArrayFamily

def after (p : Parameter) (history : List Step) : Parameter := history.foldl perform p

variable {p : Parameter} {history before later : List Step} {ms : List Modifier}

/-- After the history, modifiers are attached: there are some in the list, and it is accepted. -/
def Attaches (p : Parameter) (history : List Step) (ms : List Modifier) : Prop :=
  ms ≠ [] ∧ ∃ out, (p.after history).withModifiers ms = .ok out

/-- The list was attached in the history, with the later steps after it. -/
def Attached (p : Parameter) (history : List Step) (ms : List Modifier) (later : List Step) :
    Prop :=
  ∃ before, history = before ++ .attach ms :: later ∧ p.Attaches before ms

/-- Of what was attached in the history some is left: all of it if nothing was stripped since, and
what is not of the array family in any case. -/
def Occupied (p : Parameter) (history : List Step) : Prop :=
  ∃ ms later, p.Attached history ms later ∧ (Step.strip ∈ later → Lasting ms)

def Committed (p : Parameter) (history : List Step) : Prop :=
  ∃ ms later, p.Attached history ms later ∧ Lasting ms

theorem after_concat : p.after (history ++ [step]) = (p.after history).perform step := by
  rw [after, after, List.foldl_append]
  rfl

theorem perform_identity (step : Step) : (p.perform step).identity = p.identity := by
  cases step with
  | attach ms => exact p.withModifiers_identity ms
  | link links mode => exact p.withLinks_identity links mode
  | strip => rfl

theorem after_identity (history : List Step) : (p.after history).identity = p.identity := by
  induction history generalizing p with
  | nil => rfl
  | cons step history ih => exact ih.trans (perform_identity step)

theorem attached_concat : p.Attached (history ++ [step]) ms later ↔
    (step = .attach ms ∧ later = [] ∧ p.Attaches history ms) ∨
      ∃ between, later = between ++ [step] ∧ p.Attached history ms between := by
  constructor
  · intro attached
    obtain ⟨before, split, attaches⟩ := attached
    rcases List.eq_nil_or_concat' later with rfl | ⟨between, last, rfl⟩
    · obtain ⟨rfl, same⟩ := List.append_inj' split rfl
      exact .inl ⟨List.singleton_inj.mp same, rfl, attaches⟩
    · rw [← List.cons_append, ← List.append_assoc] at split
      obtain ⟨rfl, same⟩ := List.append_inj' split rfl
      exact .inr ⟨between, by rw [List.singleton_inj.mp same], before, rfl, attaches⟩
  · rintro (⟨rfl, rfl, attaches⟩ | ⟨between, rfl, before, rfl, attaches⟩)
    · exact ⟨history, rfl, attaches⟩
    · exact ⟨before, by simp, attaches⟩

theorem exists_attached_concat {Q : List Modifier → List Step → Prop} :
    (∃ ms later, p.Attached (history ++ [step]) ms later ∧ Q ms later) ↔
      (∃ ms, step = .attach ms ∧ p.Attaches history ms ∧ Q ms []) ∨
        ∃ ms between, p.Attached history ms between ∧ Q ms (between ++ [step]) := by
  simp only [attached_concat]
  constructor
  · rintro ⟨ms, later, ⟨rfl, rfl, attaches⟩ | ⟨between, rfl, attached⟩, holds⟩
    · exact .inl ⟨ms, rfl, attaches, holds⟩
    · exact .inr ⟨ms, between, attached, holds⟩
  · rintro (⟨ms, rfl, attaches, holds⟩ | ⟨ms, between, attached, holds⟩)
    · exact ⟨ms, [], .inl ⟨rfl, rfl, attaches⟩, holds⟩
    · exact ⟨ms, _, .inr ⟨between, rfl, attached⟩, holds⟩

theorem committed_concat : p.Committed (history ++ [step]) ↔
    (∃ ms, step = .attach ms ∧ p.Attaches history ms ∧ Lasting ms) ∨ p.Committed history :=
  exists_attached_concat

theorem occupied_concat : p.Occupied (history ++ [step]) ↔
    (∃ ms, step = .attach ms ∧ p.Attaches history ms) ∨
      if step = .strip then p.Committed history else p.Occupied history := by
  rw [Occupied, exists_attached_concat]
  by_cases stripped : step = .strip
  · simp [stripped, Committed]
  · simp [stripped, Ne.symm stripped, Occupied]

theorem perform_attach (some : ms ≠ []) (attached : p.withModifiers ms = .ok out) :
    p.modifiers = .empty ∧ (p.perform (.attach ms)).modifiers.entries.Perm ms := by
  have bare : p.modifiers = .empty := by
    by_contra present
    rw [p.withModifiers_rules.again ms present some] at attached
    contradiction
  obtain ⟨each, -⟩ := withModifiers_eq_ok attached
  rw [bare] at each
  refine ⟨bare, ?_⟩
  simp only [perform, attempt, attached]
  exact attachEach_perm each

theorem perform_attach_refused (refused : ¬ (ms ≠ [] ∧ ∃ out, p.withModifiers ms = .ok out)) :
    p.perform (.attach ms) = p := by
  simp only [perform, attempt]
  cases attached : p.withModifiers ms with
  | error refusal => rfl
  | ok out =>
    have none : ms = [] := by
      by_contra some
      exact refused ⟨some, out, attached⟩
    rw [none, p.withModifiers_rules.nothing] at attached
    exact (Except.ok.inj attached).symm

/-- The history of a parameter tells what is left at its end: whether there are any modifiers, and
whether any of them lasts. -/
theorem after_modifiers (bare : p.modifiers = .empty) (history : List Step) :
    ((p.after history).modifiers ≠ .empty ↔ p.Occupied history) ∧
      (Lasting (p.after history).modifiers.entries ↔ p.Committed history) := by
  induction history using List.reverseRecOn with
  | nil =>
    have none (ms : List Modifier) (later : List Step) : ¬ p.Attached [] ms later := by
      simp [Attached]
    simp [after, bare, Occupied, Committed, none, Lasting, ModifierSet.empty]
  | append_singleton history step ih =>
    obtain ⟨some, lasting⟩ := ih
    rw [after_concat, occupied_concat, committed_concat]
    cases step with
    | attach ms =>
      by_cases attaches : p.Attaches history ms
      · obtain ⟨_, attached⟩ := attaches.2
        obtain ⟨vacant, perm⟩ := perform_attach attaches.1 attached
        have uncommitted : ¬ p.Committed history := by
          rw [← lasting, vacant]
          simp [Lasting, ModifierSet.empty]
        constructor
        · have filled : ((p.after history).perform (.attach ms)).modifiers ≠ .empty :=
            ModifierSet.ne_empty_iff.mpr fun none => attaches.1 (List.nil_perm.mp (none ▸ perm))
          exact iff_of_true filled (.inl ⟨ms, rfl, attaches⟩)
        · rw [lasting_congr fun _ => perm.mem_iff]
          simp [uncommitted, attaches]
      · rw [perform_attach_refused attaches, some, lasting]
        simp [attaches]
    | link links mode => simp [perform, some, lasting]
    | strip =>
      rw [perform, withoutArrayFamily, ModifierSet.withoutArrayFamily_ne_empty,
        ModifierSet.lasting_withoutArrayFamily, lasting]
      simp

theorem Fresh.bare (fresh : p.Fresh) : p.modifiers = .empty := by
  cases fresh <;> rfl

theorem after_origin (history : List Step) : (p.after history).origin = p.origin := by
  have same := congrArg Prod.fst (p.after_identity history)
  exact congrArg Origin.parameter same

/-- The refusal for modifiers that are there already is given for no other reason. -/
theorem withModifiers_alreadySet (some : ms ≠ []) :
    p.withModifiers ms = .error (.modifiersAlreadySet p.origin) ↔ p.modifiers ≠ .empty := by
  refine ⟨fun refused bare => ?_, fun present => p.withModifiers_rules.again ms present some⟩
  obtain ⟨_, m, -, said⟩ := (p.withModifiers_rules.refuses ms _ bare).mp refused
  rw [Modifier.misfit] at said
  split at said <;> contradiction

theorem alreadySet_iff_occupied (fresh : p.Fresh) (history : List Step) (some : ms ≠ []) :
    (p.after history).withModifiers ms = .error (.modifiersAlreadySet p.origin) ↔
      p.Occupied history := by
  rw [← p.after_origin history, withModifiers_alreadySet some]
  exact (after_modifiers fresh.bare history).1

/-- After a list was attached, all others are refused, unless the parameter was stripped since and
the list held nothing but the array family. So two lists are attached in one history only with such
a step between them. -/
theorem attached_once (fresh : p.Fresh) :
    (∀ history ms, ms ≠ [] →
      ((p.after history).withModifiers ms = .error (.modifiersAlreadySet p.origin) ↔
        ∃ before earlier later, history = before ++ .attach earlier :: later ∧
          p.Attaches before earlier ∧
          (Step.strip ∈ later → ∃ m ∈ earlier, m.kind ∉ Modifier.Kind.arrayFamily))) ∧
    ∀ before earlier between ms, p.Attaches before earlier →
      p.Attaches (before ++ .attach earlier :: between) ms →
        Step.strip ∈ between ∧ ∀ m ∈ earlier, m.kind ∈ Modifier.Kind.arrayFamily := by
  constructor
  · intro history ms some
    rw [alreadySet_iff_occupied fresh history some]
    constructor
    · rintro ⟨earlier, later, ⟨before, split, attaches⟩, left⟩
      exact ⟨before, earlier, later, split, attaches, left⟩
    · rintro ⟨before, earlier, later, split, attaches, left⟩
      exact ⟨earlier, later, ⟨before, split, attaches⟩, left⟩
  · intro before earlier between ms attaches again
    obtain ⟨some, _, attached⟩ := again
    have vacant : ¬ p.Occupied (before ++ .attach earlier :: between) := by
      rw [← alreadySet_iff_occupied fresh _ some, attached]
      rintro ⟨⟩
    have gone : ¬ (Step.strip ∈ between → Lasting earlier) := fun left =>
      vacant ⟨earlier, between, ⟨before, rfl, attaches⟩, left⟩
    simpa [Lasting] using gone

def pixels : Parameter := .ofType (.pointer "void" .data) "pixels" .input ""

/-- The null check outlasts the step that strips the parameter. -/
theorem pixels_attached : pixels.Fresh ∧
    (pixels.after [.attach [.singleValue "pixel", .nullable], .strip, .link "GL_RGB" .single,
      .attach []]).withModifiers [.const] =
        .error (.modifiersAlreadySet (.parameter "pixels")) := by
  have fresh : pixels.Fresh := .ofType ..
  refine ⟨fresh, ((attached_once fresh).1 _ [.const] (by simp)).mpr ?_⟩
  exact ⟨[], _, _, rfl, ⟨by simp, _, rfl⟩, fun _ => ⟨.nullable, by simp, by decide⟩⟩

theorem pixels_reattached : pixels.Fresh ∧ pixels.Attaches [] [.singleValue "pixel"] ∧
    pixels.Attaches [.attach [.singleValue "pixel"], .strip] [.nullable] :=
  ⟨.ofType .., ⟨by simp, _, rfl⟩, by simp, _, rfl⟩

end Parameter

end CallBoundary
