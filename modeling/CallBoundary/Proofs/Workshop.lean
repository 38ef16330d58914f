import CallBoundary.Proofs.Reachable

/-! Runs of the public operations, in any order and with any arguments. A workshop holds all that
was made so far; an operation adds to it or changes one thing in it, and a call that fails changes
nothing. What a run makes is well kept, and the identity of what it made never changes. -/
namespace CallBoundary

structure Workshop where
  parameters : List Parameter
  returned : List ReturnValue
  functions : List BoundFunction

/-- Things are named by their places in the workshop. A place that holds nothing stands for
nothing. -/
inductive Workshop.Operation where
  | newParameter (t : NativeType) (name : String) (direction : Direction) (documentation : String)
  | newCallContext (t : NativeType)
  | newReturnValue (t : NativeType)
  | returns (ms : List Modifier) (t : NativeType)
  | copyParameter (place : Nat)
  | copyReturnValue (place : Nat)
  | copyFunction (place : Nat)
  | takeParameter (function place : Nat)
  | takeReturnValue (function : Nat)
  | link (place : Nat) (links : String) (mode : LinkMode)
  | modifyParameter (place : Nat) (ms : List Modifier)
  | modifyReturnValue (place : Nat) (ms : List Modifier)
  | strip (place : Nat)
  /-- Declares a function with copies of its elements. -/
  | declare (name : String) (returned : Nat) (parameters : List Nat)
  | addRawVariant (place : Nat)
  | deriveBase (place : Nat)

/-- A call that fails leaves what it was made on as it was. -/
def attempt (f : α → Except ε α) (a : α) : α :=
  match f a with
  | .ok b => b
  | .error _ => a

theorem attempt_induction {P : α → Prop} {f : α → Except ε α} (old : P a)
    (new : ∀ b, f a = .ok b → P b) : P (attempt f a) := by
  rw [attempt]
  split
  next b made => exact new b made
  next => exact old

namespace Workshop

def empty : Workshop := ⟨[], [], []⟩

/-- The function that a declaration with elements of the workshop makes, if it makes one. -/
def declared? (w : Workshop) (name : String) (returned : Nat) (parameters : List Nat) :
    Option BoundFunction :=
  w.returned[returned]?.bind fun r =>
    (BoundFunction.declare name r (parameters.filterMap (w.parameters[·]?))).toOption

def perform (w : Workshop) : Operation → Workshop
  | .newParameter t name direction documentation =>
    { w with parameters := w.parameters ++ [.ofType t name direction documentation] }
  | .newCallContext t => { w with parameters := w.parameters ++ [.callContext t] }
  | .newReturnValue t => { w with returned := w.returned ++ [.ofType t] }
  | .returns ms t =>
    { w with returned := w.returned ++ (ReturnValue.ofModifiers ms t).toOption.toList }
  | .copyParameter place => { w with parameters := w.parameters ++ w.parameters[place]?.toList }
  | .copyReturnValue place => { w with returned := w.returned ++ w.returned[place]?.toList }
  | .copyFunction place => { w with functions := w.functions ++ w.functions[place]?.toList }
  | .takeParameter function place =>
    let taken := w.functions[function]?.bind fun f => f.parameters[place]?
    { w with parameters := w.parameters ++ taken.toList }
  | .takeReturnValue function =>
    { w with returned := w.returned ++ (w.functions[function]?.map (·.returned)).toList }
  | .link place links mode =>
    { w with parameters := w.parameters.modify place (·.withLinks links mode) }
  | .modifyParameter place ms =>
    { w with parameters := w.parameters.modify place (attempt (·.withModifiers ms)) }
  | .modifyReturnValue place ms =>
    { w with returned := w.returned.modify place (attempt (·.withModifiers ms)) }
  | .strip place => { w with parameters := w.parameters.modify place (·.withoutArrayFamily) }
  | .declare name returned parameters =>
    { w with functions := w.functions ++ (w.declared? name returned parameters).toList }
  | .addRawVariant place =>
    { w with functions := w.functions.modify place (·.withRawVariant) }
  | .deriveBase place =>
    { w with functions := w.functions ++ (w.functions[place]?.map (·.baseOverload)).toList }

def run (w : Workshop) (operations : List Operation) : Workshop := operations.foldl perform w

structure AllReachable (w : Workshop) : Prop where
  parameters : ∀ p ∈ w.parameters, p.Reachable
  returned : ∀ r ∈ w.returned, r.Reachable
  functions : ∀ f ∈ w.functions, f.Reachable

end Workshop

section lists

variable {P : α → Prop} {xs : List α} {key : α → β} {f : α → α}

theorem forall_mem_concat (old : ∀ x ∈ xs, P x) (new : P y) : ∀ x ∈ xs ++ [y], P x := by
  rw [List.forall_mem_append, List.forall_mem_singleton]
  exact ⟨old, new⟩

theorem forall_mem_append_toList {made : Option α} (old : ∀ x ∈ xs, P x)
    (new : ∀ x, made = some x → P x) : ∀ x ∈ xs ++ made.toList, P x := by
  cases made with
  | none => simpa using old
  | some x => exact forall_mem_concat old (new x rfl)

theorem forall_mem_modify (old : ∀ x ∈ xs, P x) (kept : ∀ x, P x → P (f x)) :
    ∀ x ∈ xs.modify place f, P x := by
  induction xs generalizing place with
  | nil => simp
  | cons x xs ih =>
    obtain ⟨head, tail⟩ := List.forall_mem_cons.mp old
    cases place with
    | zero => exact List.forall_mem_cons.mpr ⟨kept x head, tail⟩
    | succ place => exact List.forall_mem_cons.mpr ⟨head, ih tail⟩

theorem prefix_map_append (ys : List α) : xs.map key <+: (xs ++ ys).map key := by
  rw [List.map_append]
  exact List.prefix_append _ _

theorem prefix_map_modify (same : ∀ x, key (f x) = key x) :
    xs.map key <+: (xs.modify place f).map key := by
  have kept : (xs.modify place f).map key = xs.map key := by
    induction xs generalizing place with
    | nil => simp
    | cons x xs ih => cases place <;> simp [same, ih]
  exact kept ▸ List.prefix_rfl

/-- Where the keys are distinct, at most one member goes by any of them. -/
theorem length_filter_le_one {p : α → Bool} (distinct : (xs.map key).Nodup)
    (same : ∀ x ∈ xs, p x = true → key x = k) : (xs.filter p).length ≤ 1 := by
  have kept : ((xs.filter p).map key).Nodup := distinct.sublist (List.filter_sublist.map key)
  have one : ∀ found ∈ (xs.filter p).map key, found = k := by
    intro found mapped
    obtain ⟨x, filtered, rfl⟩ := List.mem_map.mp mapped
    obtain ⟨member, holds⟩ := List.mem_filter.mp filtered
    exact same x member holds
  rw [List.eq_replicate_of_mem one, List.nodup_replicate, List.length_map] at kept
  exact kept

/-- Where the keys are distinct, each is found under its own. -/
theorem find?_key [BEq β] [LawfulBEq β] (distinct : (xs.map key).Nodup) (member : x ∈ xs) :
    xs.find? (key · == key x) = some x := by
  induction xs with
  | nil => contradiction
  | cons first xs ih =>
    obtain ⟨fresh, distinct⟩ := List.nodup_cons.mp distinct
    rcases List.mem_cons.mp member with rfl | member
    · simp
    · have different : key first ≠ key x := fun same => fresh (same ▸ List.mem_map_of_mem member)
      simp [different, ih distinct member]

end lists

/-- A function is made of elements that can be made. -/
theorem BoundFunction.Reachable.elements {f : BoundFunction} (reachable : f.Reachable) :
    f.returned.Reachable ∧ ∀ p ∈ f.parameters, p.Reachable := by
  induction reachable with
  | declare returned parameters declared =>
    obtain ⟨-, -, rfl⟩ := declare_eq_ok.mp declared
    exact ⟨returned, parameters⟩
  | withRawVariant _ ih => exact ih
  | baseOverload _ ih =>
    refine ⟨ih.1, List.forall_mem_map.mpr fun p member => ?_⟩
    exact .withoutArrayFamily (ih.2 p member)

namespace Workshop

variable {w : Workshop}

theorem AllReachable.declared {returned : Nat} {parameters : List Nat} (all : w.AllReachable)
    (made : w.declared? name returned parameters = some f) : f.Reachable := by
  obtain ⟨r, found, made⟩ := Option.bind_eq_some_iff.mp made
  have result := all.returned r (List.mem_of_getElem? found)
  refine .declare result (fun p member => ?_) (toOption_eq_some.mp made)
  obtain ⟨place, -, found⟩ := List.mem_filterMap.mp member
  exact all.parameters p (List.mem_of_getElem? found)

theorem AllReachable.perform (all : w.AllReachable) (operation : Operation) :
    (w.perform operation).AllReachable := by
  cases operation with
  | newParameter =>
    exact { all with parameters := forall_mem_concat all.parameters (.ofType ..) }
  | newCallContext =>
    exact { all with parameters := forall_mem_concat all.parameters (.callContext _) }
  | newReturnValue =>
    exact { all with returned := forall_mem_concat all.returned (.ofType _) }
  | returns ms t =>
    refine { all with returned := forall_mem_append_toList all.returned fun r made => ?_ }
    exact .withModifiers (.ofType t) (toOption_eq_some.mp made)
  | copyParameter place =>
    refine { all with parameters := forall_mem_append_toList all.parameters fun p found => ?_ }
    exact all.parameters p (List.mem_of_getElem? found)
  | copyReturnValue place =>
    refine { all with returned := forall_mem_append_toList all.returned fun r found => ?_ }
    exact all.returned r (List.mem_of_getElem? found)
  | copyFunction place =>
    refine { all with functions := forall_mem_append_toList all.functions fun f found => ?_ }
    exact all.functions f (List.mem_of_getElem? found)
  | takeParameter function place =>
    refine { all with parameters := forall_mem_append_toList all.parameters fun p found => ?_ }
    obtain ⟨f, function_found, found⟩ := Option.bind_eq_some_iff.mp found
    have reachable := all.functions f (List.mem_of_getElem? function_found)
    exact reachable.elements.2 p (List.mem_of_getElem? found)
  | takeReturnValue function =>
    refine { all with returned := forall_mem_append_toList all.returned fun r found => ?_ }
    obtain ⟨f, function_found, rfl⟩ := Option.map_eq_some_iff.mp found
    exact (all.functions f (List.mem_of_getElem? function_found)).elements.1
  | link =>
    exact { all with parameters := forall_mem_modify all.parameters fun p => .withLinks }
  | modifyParameter place ms =>
    refine { all with parameters := forall_mem_modify all.parameters fun p reachable => ?_ }
    exact attempt_induction reachable fun _ => .withModifiers reachable
  | modifyReturnValue place ms =>
    refine { all with returned := forall_mem_modify all.returned fun r reachable => ?_ }
    exact attempt_induction reachable fun _ => .withModifiers reachable
  | strip =>
    exact { all with parameters := forall_mem_modify all.parameters fun p => .withoutArrayFamily }
  | declare name returned parameters =>
    exact { all with functions := forall_mem_append_toList all.functions fun f => all.declared }
  | addRawVariant =>
    exact { all with functions := forall_mem_modify all.functions fun f => .withRawVariant }
  | deriveBase place =>
    refine { all with functions := forall_mem_append_toList all.functions fun base made => ?_ }
    obtain ⟨f, found, rfl⟩ := Option.map_eq_some_iff.mp made
    exact .baseOverload (all.functions f (List.mem_of_getElem? found))

theorem AllReachable.run (all : w.AllReachable) (operations : List Operation) :
    (w.run operations).AllReachable := by
  induction operations generalizing w with
  | nil => exact all
  | cons operation operations ih => exact ih (all.perform operation)

end Workshop

/-- What of a parameter never changes. -/
def Parameter.identity (p : Parameter) : String × NativeType × Direction × Bool :=
  (p.name, p.nativeType, p.direction, p.isCallContext)

/-- What of a function never changes. -/
def BoundFunction.identity (f : BoundFunction) :
    String × NativeType × List (String × NativeType × Direction × Bool) :=
  (f.name, f.returned.nativeType, f.parameters.map Parameter.identity)

theorem Parameter.withLinks_identity (p : Parameter) (links : String) (mode : LinkMode) :
    (p.withLinks links mode).identity = p.identity := by
  simp only [withLinks]
  split <;> rfl

theorem Parameter.withModifiers_identity (p : Parameter) (ms : List Modifier) :
    (attempt (·.withModifiers ms) p).identity = p.identity := by
  refine attempt_induction (P := fun (out : Parameter) => out.identity = p.identity) rfl
    fun out attached => ?_
  obtain ⟨-, same⟩ := withModifiers_eq_ok attached
  rw [same]
  rfl

theorem ReturnValue.withModifiers_nativeType (r : ReturnValue) (ms : List Modifier) :
    (attempt (·.withModifiers ms) r).nativeType = r.nativeType := by
  refine attempt_induction (P := fun (out : ReturnValue) => out.nativeType = r.nativeType) rfl
    fun out attached => ?_
  exact (withModifiers_eq_ok attached).2

namespace Workshop

variable {w : Workshop}

/-- Whatever stands in the one workshop stands in the same place of the other, with the same
identity. -/
structure Precedes (w later : Workshop) : Prop where
  parameters : w.parameters.map Parameter.identity <+: later.parameters.map Parameter.identity
  returned : w.returned.map (·.nativeType) <+: later.returned.map (·.nativeType)
  functions : w.functions.map BoundFunction.identity <+: later.functions.map BoundFunction.identity

theorem Precedes.refl (w : Workshop) : w.Precedes w :=
  ⟨List.prefix_rfl, List.prefix_rfl, List.prefix_rfl⟩

theorem Precedes.trans {a b c : Workshop} (first : a.Precedes b) (second : b.Precedes c) :
    a.Precedes c where
  parameters := first.parameters.trans second.parameters
  returned := first.returned.trans second.returned
  functions := first.functions.trans second.functions

theorem precedes_perform (w : Workshop) (operation : Operation) :
    w.Precedes (w.perform operation) := by
  have same := Precedes.refl w
  cases operation with
  | newParameter | newCallContext | copyParameter | takeParameter =>
    exact { same with parameters := prefix_map_append _ }
  | newReturnValue | returns | copyReturnValue | takeReturnValue =>
    exact { same with returned := prefix_map_append _ }
  | copyFunction | declare | deriveBase => exact { same with functions := prefix_map_append _ }
  | link _ links mode =>
    exact { same with parameters := prefix_map_modify (·.withLinks_identity links mode) }
  | modifyParameter _ ms =>
    exact { same with parameters := prefix_map_modify (·.withModifiers_identity ms) }
  | modifyReturnValue _ ms =>
    exact { same with returned := prefix_map_modify (·.withModifiers_nativeType ms) }
  | strip => exact { same with parameters := prefix_map_modify fun _ => rfl }
  | addRawVariant => exact { same with functions := prefix_map_modify fun _ => rfl }

theorem precedes_run (w : Workshop) (operations : List Operation) :
    w.Precedes (w.run operations) := by
  induction operations generalizing w with
  | nil => exact .refl w
  | cons operation operations ih => exact (precedes_perform w operation).trans (ih _)

end Workshop

/-- The modifiers of an element: at most one of a kind, each found under its own kind, and each
fit for the native type in the role. -/
structure Element.WellKept (role : Role) (e : Element) : Prop where
  distinct : (e.modifiers.entries.map Modifier.kind).Nodup
  found : ∀ m ∈ e.modifiers.entries, e.modifiers.entries.find? (·.kind == m.kind) = some m
  fits : ∀ m ∈ e.modifiers.entries, m.objection e.nativeType role = none

structure ReturnValue.WellKept (r : ReturnValue) : Prop where
  element : r.toElement.WellKept .returnValue
  suitable : ∀ m ∈ r.modifiers.entries, m = .const ∨ m = .nullable
  special : r.isSpecial = true ↔ r.nativeType.isData = true

structure BoundFunction.WellKept (f : BoundFunction) : Prop where
  returned : f.returned.WellKept
  parameters : ∀ p ∈ f.parameters, p.toElement.WellKept .parameter
  result : f.returned.nativeType.inconsistency = none
  consistent : ∀ p ∈ f.parameters, p.nativeType.inconsistency = none
  distinct : (f.parameters.map (·.name)).Nodup
  oneContext : (f.parameters.filter (·.isCallContext)).length ≤ 1

structure Workshop.WellKept (w : Workshop) : Prop where
  parameters : ∀ p ∈ w.parameters, p.toElement.WellKept .parameter
  returned : ∀ r ∈ w.returned, r.WellKept
  functions : ∀ f ∈ w.functions, f.WellKept

theorem Element.Valid.wellKept {e : Element} (valid : e.Valid role) : e.WellKept role :=
  have distinct := valid.ordered.distinct
  ⟨distinct, fun _ member => find?_key distinct member, valid.fits⟩

/-- Only the modifiers that fit a return value are there, and none of them is special. -/
theorem ReturnValue.Reachable.wellKept {r : ReturnValue} (reachable : r.Reachable) :
    r.WellKept := by
  have valid := reachable.valid
  have suitable : ∀ m ∈ r.modifiers.entries, m = .const ∨ m = .nullable := by
    intro m member
    have fits := valid.fits m member
    cases m <;> simp [Modifier.objection, Modifier.suitsReturnValue] at fits ⊢
  refine ⟨valid.wellKept, suitable, ?_⟩
  have plain : r.modifiers.isSpecial = false := by
    rw [ModifierSet.isSpecial, List.any_eq_false]
    intro m member
    rcases suitable m member with rfl | rfl <;> simp [Modifier.isSpecial]
  simp [ReturnValue.isSpecial, Element.isSpecial, plain]

theorem Parameter.Reachable.context_name {p : Parameter} (reachable : p.Reachable)
    (context : p.isCallContext = true) : p.name = callContextName := by
  induction reachable with
  | ofType => contradiction
  | callContext => rfl
  | @withLinks p links mode _ ih =>
    have same := p.withLinks_identity links mode
    simp only [identity, Prod.mk.injEq] at same
    obtain ⟨name, -, -, flag⟩ := same
    exact name.trans (ih (flag.symm.trans context))
  | withModifiers _ attached ih =>
    obtain ⟨e, -, rfl⟩ := map_eq_ok.mp attached
    exact ih context
  | withoutArrayFamily _ ih => exact ih context

/-- All call contexts have one name, and no name is there twice. -/
theorem BoundFunction.Reachable.oneContext {f : BoundFunction} (reachable : f.Reachable) :
    (f.parameters.filter (·.isCallContext)).length ≤ 1 :=
  length_filter_le_one reachable.sound.distinct fun p member context =>
    (reachable.elements.2 p member).context_name context

theorem BoundFunction.Reachable.wellKept {f : BoundFunction} (reachable : f.Reachable) :
    f.WellKept := by
  have sound := reachable.sound
  obtain ⟨returned, parameters⟩ := reachable.elements
  obtain ⟨_, passes⟩ := sound.result
  exact {
    returned := returned.wellKept
    parameters := fun p member => (parameters p member).valid.wellKept
    result := passes.consistent
    consistent := fun p member => (sound.passable p member).elim fun _ passes => passes.consistent
    distinct := sound.distinct
    oneContext := reachable.oneContext }

namespace Workshop

theorem AllReachable.wellKept {w : Workshop} (all : w.AllReachable) : w.WellKept where
  parameters p member := (all.parameters p member).valid.wellKept
  returned r member := (all.returned r member).wellKept
  functions f member := (all.functions f member).wellKept

/-- Whatever operations are performed, all that is there is well kept, and it stays what it is
under all later ones. -/
theorem run_wellKept (operations later : List Operation) :
    (empty.run operations).WellKept ∧
      (empty.run operations).Precedes ((empty.run operations).run later) := by
  have none_made : empty.AllReachable := by constructor <;> simp [empty]
  exact ⟨(none_made.run operations).wellKept, precedes_run _ later⟩

example : ((empty.run
    [.newParameter (.pointer "void" .data) "data" .input "", .modifyParameter 0 [.nullable],
      .modifyParameter 0 [.const]]).parameters.map (·.modifiers.entries)) = [[.nullable]] := by
  decide

end Workshop

end CallBoundary
