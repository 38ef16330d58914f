import CallBoundary.Proofs.Attachment
import CallBoundary.Proofs.Building
import CallBoundary.Proofs.LinkText

/-! What is wrong with a declaration, in the order in which it is looked for. A function is built
exactly if nothing is found, and then it is what was declared; otherwise the first finding is
reported, at its place in the function. -/
namespace CallBoundary

theorem Parameter.failureOf_withModifiers {p : Parameter} (ms : List Modifier)
    (plain : p.modifiers = .empty) :
    failureOf (p.withModifiers ms) =
      (modifierRefusals p.nativeType .parameter p.origin ms).head? :=
  failureOf_map.trans (Element.failureOf_attach plain)

theorem ReturnValue.failureOf_withModifiers {r : ReturnValue} (ms : List Modifier)
    (plain : r.modifiers = .empty) :
    failureOf (r.withModifiers ms) =
      (modifierRefusals r.nativeType .returnValue .returnValue ms).head? :=
  failureOf_map.trans (Element.failureOf_attach plain)

namespace Declaration

variable {types : Table NativeType}

/-- Blank links leave the documentation as it is declared, and all others are appended to it. -/
structure Parameter.Documented (p : Parameter) (documentation : String) : Prop where
  blank : (∀ c ∈ p.links.toList, Text.isBlank c = true) → documentation = p.documentation
  linked : (∃ c ∈ p.links.toList, Text.isBlank c = false) →
    p.linkMode.Appended p.documentation p.links documentation

theorem Parameter.linkedDocumentation_documented (p : Parameter) :
    p.Documented p.linkedDocumentation where
  blank blank := if_pos (Text.isAllBlank_iff.mpr blank)
  linked visible := by
    have visible := Text.not_isAllBlank_iff.mpr visible
    rw [linkedDocumentation, if_neg (Bool.eq_false_iff.mp visible)]
    exact LinkMode.append_appended visible

/-- A built parameter has the type and the modifiers that are declared. A call context has nothing
else of its own. -/
structure Parameter.Built (types : Table NativeType) (p : Parameter) (q : CallBoundary.Parameter) :
    Prop where
  type : types.find? p.typeKey = some q.nativeType
  modifiers : q.modifiers.entries.Perm p.modifiers
  isCallContext : q.isCallContext = p.isCallContext
  ordinary : p.isCallContext = false →
    q.name = p.name ∧ q.direction = p.direction ∧ p.Documented q.documentation
  context : p.isCallContext = true →
    q.name = "__env" ∧ q.direction = .input ∧ q.documentation = "the call context"

theorem Parameter.Built.name_eq {p : Parameter} {q : CallBoundary.Parameter}
    (built : p.Built types q) : q.name = p.effectiveName := by
  cases context : p.isCallContext with
  | true => rw [p.effectiveName_context context, (built.context context).1]
  | false => rw [p.effectiveName_ordinary context, (built.ordinary context).1]

theorem Parameter.built_names {ps : List Parameter} {qs : List CallBoundary.Parameter}
    (built : List.Forall₂ (Parameter.Built types) ps qs) :
    qs.map (·.name) = ps.map (·.effectiveName) := by
  induction built with
  | nil => rfl
  | cons head _ ih => rw [List.map_cons, List.map_cons, head.name_eq, ih]

inductive Finding where
  | unknownType (subject : Subject) (key : String)
  | refused (refusal : Refusal)
  deriving DecidableEq, Repr

def Finding.failure (function : String) : Finding → Failure
  | unknownType subject key =>
    .declaration ⟨some function, subject⟩ ("unknown native type `" ++ key ++ "`")
  | refused refusal => .declaration (refusal.origin.inFunction function) refusal.message

/-- What is wrong with an element: its key, or its modifiers. A key is reported under the declared
name of the element, and modifiers under the name that it goes by. -/
def elementFindings (types : Table NativeType) (key : String) (role : Role)
    (declared shown : Subject) (ms : List Modifier) : List Finding :=
  match types.find? key with
  | none => [.unknownType declared key]
  | some t => (modifierRefusals t role ⟨none, shown⟩ ms).map .refused

/-- An element can be built: its type is declared and consistent, and takes its modifiers. -/
def Acceptable (types : Table NativeType) (key : String) (role : Role) (ms : List Modifier) :
    Prop :=
  ∃ t, types.find? key = some t ∧ t.inconsistency = none ∧
    (∀ m ∈ ms, m.objection t role = none) ∧ (ms.map (·.kind)).Nodup

namespace Function

variable {d : Function}

def typeFindings (d : Function) (types : Table NativeType) (subject : Subject) (key : String) :
    List Finding :=
  ((types.find? key).bind NativeType.inconsistency).toList.map fun reason =>
    .refused (.inconsistentType ⟨some d.name, subject⟩ reason)

/-- What is wrong with the signature: the type of the result, and then the parameters in turn, each
with a type and a name that was not there before. -/
def signatureFindings (d : Function) (types : Table NativeType) : List Finding :=
  d.typeFindings types .returnValue d.returned.typeKey ++
  inTurn (fun earlier p => d.typeFindings types (.parameter p.effectiveName) p.typeKey ++
    if p.effectiveName ∈ earlier.map (·.effectiveName) then
      [.refused (.duplicateParameter p.effectiveName d.name)] else []) d.parameters

/-- All that is wrong with a function: its elements one by one, the return value before the
parameters, and then its signature, in the same order. -/
def findings (d : Function) (types : Table NativeType) : List Finding :=
  elementFindings types d.returned.typeKey .returnValue .returnValue .returnValue
    d.returned.modifiers ++
  d.parameters.flatMap (fun p => elementFindings types p.typeKey .parameter (.parameter p.name)
    (.parameter p.effectiveName) p.modifiers) ++
  d.signatureFindings types

theorem failureOf_attached {attached : Except Refusal α}
    (refusals : failureOf attached = (modifierRefusals t role origin ms).head?) :
    failureOf (attached.mapError d.locate) =
      (((modifierRefusals t role origin ms).map Finding.refused).map
        (·.failure d.name)).head? := by
  have located : (modifierRefusals t role origin ms).map d.locate =
      (modifierRefusals t role origin ms).map fun refusal =>
        (Finding.refused refusal).failure d.name := by
    simp only [modifierRefusals, inTurn_map]
    congr 1
    funext earlier m
    simp only [Modifier.refusals, List.map_append, List.map_map]
    split <;> rfl
  rw [failureOf_mapError, refusals, ← List.head?_map, located, List.map_map]
  rfl

theorem failureOf_buildReturned : failureOf (d.buildReturned types) =
    ((elementFindings types d.returned.typeKey .returnValue .returnValue .returnValue
      d.returned.modifiers).map (·.failure d.name)).head? := by
  simp only [buildReturned, elementFindings, lookup]
  cases types.find? d.returned.typeKey with
  | none => rfl
  | some t => exact failureOf_attached (ReturnValue.failureOf_withModifiers _ rfl)

theorem failureOf_buildParameter {p : Parameter} : failureOf (d.buildParameter types p) =
    ((elementFindings types p.typeKey .parameter (.parameter p.name) (.parameter p.effectiveName)
      p.modifiers).map (·.failure d.name)).head? := by
  simp only [buildParameter, elementFindings, lookup]
  cases types.find? p.typeKey with
  | none => rfl
  | some t =>
    apply failureOf_attached
    have plain : (p.plain t).modifiers = .empty := by
      rw [p.plain_toElement]
      rfl
    have origin : (p.plain t).origin = .parameter p.effectiveName := by
      rw [CallBoundary.Parameter.origin, p.plain_name]
    have refusals := CallBoundary.Parameter.failureOf_withModifiers p.modifiers plain
    rwa [origin, p.plain_toElement] at refusals

theorem buildReturned_built {result : ReturnValue} (built : d.buildReturned types = .ok result) :
    types.find? d.returned.typeKey = some result.nativeType ∧
      result.modifiers.entries.Perm d.returned.modifiers := by
  obtain ⟨t, found, attached⟩ := buildReturned_made.mp built
  obtain ⟨each, same⟩ := ReturnValue.withModifiers_eq_ok attached
  rw [found, same]
  exact ⟨rfl, attachEach_perm each⟩

theorem buildParameter_built {p : Parameter} {q : CallBoundary.Parameter}
    (built : d.buildParameter types p = .ok q) : p.Built types q := by
  obtain ⟨t, found, attached⟩ := buildParameter_made.mp built
  obtain ⟨each, same⟩ := CallBoundary.Parameter.withModifiers_eq_ok attached
  rw [p.plain_toElement] at each
  rw [same]
  exact {
    type := by rw [found, p.plain_toElement]; rfl
    modifiers := attachEach_perm each
    isCallContext := p.plain_isCallContext t
    ordinary := fun ordinary => by
      rw [p.plain_ordinary t ordinary]
      exact ⟨rfl, rfl, p.linkedDocumentation_documented⟩
    context := fun context => by rw [p.plain_context t context]; exact ⟨rfl, rfl, rfl⟩ }

/-- The signature is checked on what was built, and has the findings of the declaration. -/
theorem failureOf_declare {result : ReturnValue} {parameters : List CallBoundary.Parameter}
    (found : types.find? d.returned.typeKey = some result.nativeType)
    (built : List.Forall₂ (Parameter.Built types) d.parameters parameters) :
    failureOf ((BoundFunction.declare d.name result parameters).mapError Refusal.failure) =
      ((d.signatureFindings types).map (·.failure d.name)).head? := by
  have result_type : (result.nativeType.inconsistency.toList.map
      (Refusal.inconsistentType (Origin.returnValue.inFunction d.name))).map Refusal.failure =
      (d.typeFindings types .returnValue d.returned.typeKey).map (·.failure d.name) := by
    simp only [typeFindings, found, Option.bind_some, List.map_map]
    rfl
  rw [failureOf_mapError, BoundFunction.failureOf_declare, ← List.head?_map, signatureRefusals,
    signatureFindings, List.map_append, List.map_append, result_type, inTurn_map, inTurn_map]
  congr 2
  symm
  apply inTurn_congr built
  intro ps qs p q before head
  rw [CallBoundary.Parameter.refusals, typeFindings, head.type, head.name_eq,
    Parameter.built_names before, CallBoundary.Parameter.origin, head.name_eq]
  simp only [Option.bind_some, List.map_append, List.map_map]
  split <;> rfl

theorem failureOf_build : failureOf (d.build types) =
    ((d.findings types).map (·.failure d.name)).head? := by
  simp only [build, findings, List.map_append, List.append_assoc]
  apply failureOf_bind failureOf_buildReturned
  intro result returned
  rw [List.map_flatMap]
  apply failureOf_bind (failureOf_mapM fun _ _ => failureOf_buildParameter)
  intro parameters each
  have built : List.Forall₂ (Parameter.Built types) d.parameters parameters :=
    (mapM_eq_ok.mp each).imp fun _ _ => buildParameter_built
  rw [← failureOf_declare (buildReturned_built returned).1 built]
  cases BoundFunction.declare d.name result parameters <;> rfl

theorem acceptable_iff (d : Function) (declared shown subject : Subject) :
    Acceptable types key role ms ↔ elementFindings types key role declared shown ms = [] ∧
      d.typeFindings types subject key = [] := by
  rw [Acceptable, elementFindings, typeFindings]
  cases types.find? key with
  | none => simp
  | some t => simp [modifierRefusals_eq_nil, and_comm]

theorem signatureFindings_eq_nil : d.signatureFindings types = [] ↔
    d.typeFindings types .returnValue d.returned.typeKey = [] ∧
      (∀ p ∈ d.parameters,
        d.typeFindings types (.parameter p.effectiveName) p.typeKey = []) ∧
      (d.parameters.map (·.effectiveName)).Nodup := by
  rw [signatureFindings, List.append_eq_nil_iff]
  apply and_congr_right
  intro _
  apply inTurn_clean
  intro earlier p
  rw [List.append_eq_nil_iff]
  simp

theorem findings_eq_nil : d.findings types = [] ↔
    Acceptable types d.returned.typeKey .returnValue d.returned.modifiers ∧
      (∀ p ∈ d.parameters, Acceptable types p.typeKey .parameter p.modifiers) ∧
      (d.parameters.map (·.effectiveName)).Nodup := by
  have each (p : Parameter) : Acceptable types p.typeKey .parameter p.modifiers ↔
      elementFindings types p.typeKey .parameter (.parameter p.name) (.parameter p.effectiveName)
          p.modifiers = [] ∧
        d.typeFindings types (.parameter p.effectiveName) p.typeKey = [] :=
    acceptable_iff d ..
  rw [acceptable_iff d .returnValue .returnValue .returnValue, findings, List.append_eq_nil_iff,
    List.append_eq_nil_iff, List.flatMap_eq_nil_iff, signatureFindings_eq_nil]
  constructor
  · intro clean
    obtain ⟨⟨result, elements⟩, type, consistent, distinct⟩ := clean
    refine ⟨⟨result, type⟩, fun p member => (each p).mpr ?_, distinct⟩
    exact ⟨elements p member, consistent p member⟩
  · intro parts
    obtain ⟨⟨result, type⟩, acceptable, distinct⟩ := parts
    have parameters := fun p member => (each p).mp (acceptable p member)
    exact ⟨⟨result, fun p member => (parameters p member).1⟩, type,
      fun p member => (parameters p member).2, distinct⟩

theorem build_eq_error {failure : Failure} : d.build types = .error failure ↔
    ∃ finding, (d.findings types).head? = some finding ∧ failure = finding.failure d.name := by
  rw [← failureOf_eq_some, failureOf_build, List.head?_map, Option.map_eq_some_iff]
  simp only [eq_comm]

/-- Whatever keeps a function from being built, its declaration is at fault. -/
theorem build_fault {failure : Failure} (failed : d.build types = .error failure) :
    ∃ subject reason, failure = .declaration ⟨some d.name, subject⟩ reason := by
  obtain ⟨finding, -, rfl⟩ := build_eq_error.mp failed
  cases finding with
  | unknownType subject key => exact ⟨subject, _, rfl⟩
  | refused refusal => exact ⟨refusal.origin.subject, _, rfl⟩

/-- A function is built exactly if nothing is wrong with its declaration, and then it is what was
declared. Otherwise the first finding is reported, under the name of the function. -/
theorem build_decided (d : Function) (types : Table NativeType) :
    ((∃ f, d.build types = .ok f) ↔
      Acceptable types d.returned.typeKey .returnValue d.returned.modifiers ∧
        (∀ p ∈ d.parameters, Acceptable types p.typeKey .parameter p.modifiers) ∧
        (d.parameters.map (·.effectiveName)).Nodup) ∧
    (∀ f, d.build types = .ok f → f.name = d.name ∧ f.hasRawVariant = d.hasRawVariant ∧
      types.find? d.returned.typeKey = some f.returned.nativeType ∧
      f.returned.modifiers.entries.Perm d.returned.modifiers ∧
      List.Forall₂ (Parameter.Built types) d.parameters f.parameters) ∧
    (∀ failure, d.build types = .error failure ↔
      ∃ finding, (d.findings types).head? = some finding ∧ failure = finding.failure d.name) ∧
    ∀ failure, d.build types = .error failure →
      ∃ subject reason, failure = .declaration ⟨some d.name, subject⟩ reason := by
  refine ⟨?_, fun f built => ?_, fun _ => build_eq_error, fun _ => build_fault⟩
  · rw [← failureOf_eq_none, failureOf_build, List.head?_map, Option.map_eq_none_iff,
      List.head?_eq_none_iff, findings_eq_nil]
  · obtain ⟨result, parameters, base, returned, each, declared, rfl⟩ := build_eq_ok.mp built
    obtain ⟨-, -, rfl⟩ := BoundFunction.declare_eq_ok.mp declared
    obtain ⟨found, modifiers⟩ := buildReturned_built returned
    have built := each.imp fun _ _ => buildParameter_built
    cases d.hasRawVariant <;> exact ⟨rfl, rfl, found, modifiers, built⟩

def drawTypes : Table NativeType := .ofList [(voidKey, .void),
  ("context", .pointer "GLcontext" .sealed), ("mode", .primitive "GLenum" .int),
  ("odd", ⟨"GLodd", .void, .scalar .int, false⟩)]

/-- Draws in a context. The name that is declared for the context is that of the mode. -/
def draw : Function := ⟨"glDraw", true, .void,
  [⟨"context", "mode", .both, "a context", "", .single, [.nullable], true⟩,
    ⟨"mode", "mode", .input, "the mode", "GL_LINES GL_POINTS", .single, [], false⟩]⟩

/-- Its result contradicts itself, its context takes no element types, and a key is not there. -/
def misdrawn : Function := ⟨"glMisdraw", false, ⟨"odd", []⟩,
  [⟨"context", "", .input, "", "", .single, [.nullable, .multiType [], .nullable], true⟩,
    ⟨"shape", "shape", .input, "", "", .single, [], false⟩]⟩

theorem draw_decided :
    (∃ f, draw.build drawTypes = .ok f ∧ f.name = "glDraw" ∧ f.hasRawVariant = true ∧
      List.Forall₂ (Parameter.Built drawTypes) draw.parameters f.parameters ∧
      f.parameters.map (·.documentation) =
        ["the call context", "the mode. One of: GL_LINES GL_POINTS"]) ∧
    misdrawn.build drawTypes = .error (.declaration ⟨some "glMisdraw", .parameter "__env"⟩
      ("modifier `MultiType` is not valid on parameter `__env`: " ++
        "`GLcontext` is not a data pointer")) := by
  obtain ⟨f, built⟩ :=
    (build_decided draw drawTypes).1.mpr (findings_eq_nil.mp (by decide +kernel))
  obtain ⟨name, raw, -, -, parameters⟩ := (build_decided draw drawTypes).2.1 f built
  have documented : (draw.build drawTypes).map (fun f => f.parameters.map (·.documentation)) =
      .ok ["the call context", "the mode. One of: GL_LINES GL_POINTS"] := by decide +kernel
  rw [built] at documented
  refine ⟨⟨f, built, name, raw, parameters, Except.ok.inj documented⟩, ?_⟩
  rw [(build_decided misdrawn drawTypes).2.2.1]
  exact ⟨.refused (.invalidModifier .multiType (.parameter "__env")
    "`GLcontext` is not a data pointer"), by decide +kernel, by decide +kernel⟩

end Function

end Declaration

end CallBoundary
