import CallBoundary.Proofs.Circumstances
import CallBoundary.Proofs.Workshop
import Mathlib.Data.List.DropRight

/-! Reading the generated texts back. What stands between the parentheses of a declaration or of a
call is cut into pieces at the separators. The pieces of the three texts of a function belong to
the same parameters, place by place. -/
namespace CallBoundary

section Cutting

variable {piece head body : List Char}

/-- Cuts at each comma behind which a blank stands. -/
def cut : List Char → List (List Char)
  | [] => [[]]
  | ',' :: ' ' :: rest => [] :: cut rest
  | c :: rest => (cut rest).modifyHead (c :: ·)

theorem cut_cons (other : c ≠ ',') (rest : List Char) :
    cut (c :: rest) = (cut rest).modifyHead (c :: ·) :=
  cut.eq_3 c rest fun _ comma _ => other comma

theorem cut_of_not_mem (whole : ',' ∉ piece) : cut piece = [piece] := by
  induction piece with
  | nil => rfl
  | cons c piece ih =>
    obtain ⟨other, whole⟩ := List.ne_and_not_mem_of_not_mem_cons whole
    rw [cut_cons other.symm, ih whole, List.modifyHead_cons]

theorem cut_append (whole : ',' ∉ piece) (rest : List Char) :
    cut (piece ++ [',', ' '] ++ rest) = piece :: cut rest := by
  induction piece with
  | nil => rfl
  | cons c piece ih =>
    obtain ⟨other, whole⟩ := List.ne_and_not_mem_of_not_mem_cons whole
    rw [List.cons_append, List.cons_append, cut_cons other.symm, ih whole, List.modifyHead_cons]

/-- Cutting undoes joining, where there is a piece and no comma in any. -/
theorem cut_intercalate {pieces : List (List Char)} (inhabited : pieces ≠ [])
    (whole : ∀ piece ∈ pieces, ',' ∉ piece) : cut ([',', ' '].intercalate pieces) = pieces := by
  induction pieces with
  | nil => contradiction
  | cons piece others ih =>
    obtain ⟨first, rest⟩ := List.forall_mem_cons.mp whole
    cases others with
    | nil => rw [List.intercalate_singleton, cut_of_not_mem first]
    | cons next others =>
      rw [List.intercalate_cons_cons, cut_append first, ih (List.cons_ne_nil _ _) rest]

/-- What stands between the first opening parenthesis and the last closing one. -/
def inside (text : List Char) : List Char :=
  ((text.dropWhile (· != '(')).tail.rdropWhile (· != ')')).dropLast

theorem inside_parentheses (opening : '(' ∉ head) :
    inside (head ++ '(' :: (body ++ [')'])) = body := by
  have before : ∀ c ∈ head, (c != '(') = true := by
    intro c member
    exact bne_iff_ne.mpr fun same => opening (same ▸ member)
  rw [inside, List.dropWhile_append_of_pos before, List.dropWhile_cons_of_neg (by simp),
    List.tail_cons, List.rdropWhile_concat_neg _ _ ')' (by simp), List.dropLast_concat]

/-- The pieces between the parentheses of a text. Nothing in between is no piece. -/
def pieces (text : String) : List String :=
  let body := inside text.toList
  if body.isEmpty then [] else (cut body).map String.ofList

/-- A text that comes out whole when it is cut out of others. -/
structure IsPiece (text : String) : Prop where
  nonempty : text ≠ ""
  comma : ',' ∉ text.toList

theorem pieces_joined {head : String} {texts : List String} (opening : '(' ∉ head.toList)
    (whole : ∀ text ∈ texts, IsPiece text) :
    pieces (head ++ "(" ++ BoundFunction.joined texts ++ ")") = texts := by
  have found : inside (head ++ "(" ++ BoundFunction.joined texts ++ ")").toList =
      [',', ' '].intercalate (texts.map String.toList) := by
    simpa [BoundFunction.joined, String.toList_intercalate] using inside_parentheses opening
  by_cases absent : texts = []
  · rw [pieces, found, absent]
    rfl
  · have parted : cut ([',', ' '].intercalate (texts.map String.toList)) =
        texts.map String.toList :=
      cut_intercalate (by simpa using absent)
        (by simpa using fun text member => (whole text member).comma)
    -- One piece without characters would be taken for none.
    have inhabited : [',', ' '].intercalate (texts.map String.toList) ≠ [] := by
      intro empty
      have blank : [] ∈ texts.map String.toList := by
        rw [← parted, empty]
        exact List.mem_singleton_self _
      obtain ⟨text, member, empty⟩ := List.mem_map.mp blank
      exact (whole text member).nonempty (String.toList_eq_nil_iff.mp empty)
    rw [pieces, found, if_neg (by simpa using inhabited), parted, List.map_map]
    simp

example : pieces "nglFlush()" = [] := by decide

end Cutting

/-- A name that takes no part in the punctuation of a text. -/
structure IsPlainName (name : String) : Prop extends IsPiece name where
  opening : '(' ∉ name.toList
  closing : ')' ∉ name.toList

instance (name : String) : Decidable (IsPlainName name) :=
  decidable_of_iff ((name ≠ "" ∧ ',' ∉ name.toList) ∧ '(' ∉ name.toList ∧ ')' ∉ name.toList)
    ⟨fun h => ⟨⟨h.1.1, h.1.2⟩, h.2.1, h.2.2⟩, fun h => ⟨⟨h.1.1, h.1.2⟩, h.2, h.3⟩⟩

theorem Mapping.managedName_plain (m : Mapping) : IsPlainName m.managedName := by
  cases m with
  | void => decide
  | scalar s => cases s <;> decide
  | pointer p => cases p <;> decide

theorem Mapping.prototypeName_plain (m : Mapping) : IsPlainName m.prototypeName := by
  cases m with
  | void => decide
  | scalar s => cases s <;> decide
  | pointer _ => exact (by decide : IsPlainName "long")

/-- Only structs and objects bring a name of their own. -/
theorem NativeType.managedName_plain {t : NativeType}
    (named : t.kind = .struct ∨ t.kind = .object → IsPlainName t.name) :
    IsPlainName t.managedName := by
  rw [managedName]
  split
  next kind => exact named (.inl kind)
  next kind => exact named (.inr kind)
  next => exact t.mapping.managedName_plain

theorem Argument.text_piece (argument : Argument) (plain : IsPlainName name) :
    IsPiece (argument.text name) := by
  have whole := plain.toIsPiece
  cases argument <;> constructor <;> simp [whole.nonempty, whole.comma]

theorem IsPlainName.declaration (type : IsPlainName t) (name : IsPlainName n) :
    IsPiece (t ++ " " ++ n) := by
  constructor <;> simp [type.comma, name.comma]

namespace BoundFunction

variable {f : BoundFunction} {binding : Option Binding} {mode : Mode}

/-- The names that show in the texts of a function. -/
structure PlainNames (f : BoundFunction) : Prop where
  name : IsPlainName f.name
  parameters : ∀ p ∈ f.parameters, IsPlainName p.name
  types : ∀ t ∈ f.returned.nativeType :: f.parameters.map (·.nativeType),
    t.kind = .struct ∨ t.kind = .object → IsPlainName t.name

theorem PlainNames.managedName (plain : f.PlainNames)
    (member : t ∈ f.returned.nativeType :: f.parameters.map (·.nativeType)) :
    IsPlainName t.managedName :=
  NativeType.managedName_plain (plain.types t member)

theorem PlainNames.passed (plain : f.PlainNames) (member : p ∈ f.passed) :
    IsPlainName p.name ∧ IsPlainName p.nativeType.managedName := by
  have member : p ∈ f.parameters := List.mem_of_mem_filter member
  have shown : p.nativeType ∈ f.parameters.map (·.nativeType) := List.mem_map_of_mem member
  exact ⟨plain.parameters p member, plain.managedName (List.mem_cons_of_mem _ shown)⟩

/-- A declaration lists a type and a name for each parameter that is passed. -/
theorem pieces_declaration {head : String} {type : Parameter → String} (plain : f.PlainNames)
    (opening : '(' ∉ head.toList) (types : ∀ p ∈ f.passed, IsPlainName (type p)) :
    pieces (head ++ "(" ++ joined (f.passed.map fun p => type p ++ " " ++ p.name) ++ ")") =
      f.passed.map fun p => type p ++ " " ++ p.name := by
  refine pieces_joined opening ?_
  intro text member
  obtain ⟨p, passed, rfl⟩ := List.mem_map.mp member
  exact (types p passed).declaration (plain.passed passed).1

theorem pieces_managedDeclaration (plain : f.PlainNames) : pieces f.managedDeclaration =
    f.passed.map fun p => p.nativeType.managedName ++ " " ++ p.name := by
  have result := plain.managedName List.mem_cons_self
  have opening : '(' ∉ (f.returned.nativeType.managedName ++ " " ++ f.name).toList := by
    simp [result.opening, plain.name.opening]
  exact pieces_declaration plain opening fun p passed => (plain.passed passed).2

theorem pieces_nativeDeclaration (plain : f.PlainNames) : pieces f.nativeDeclaration =
    f.passed.map fun p => p.nativeType.prototypeName ++ " " ++ p.name := by
  have result := f.returned.nativeType.mapping.prototypeName_plain
  have opening : '(' ∉ (f.returned.nativeType.prototypeName ++ " n" ++ f.name).toList := by
    simp [NativeType.prototypeName, result.opening, plain.name.opening]
  exact pieces_declaration plain opening fun p _ => p.nativeType.mapping.prototypeName_plain

theorem pieces_call (plain : f.PlainNames) (called : f.call binding mode = .ok text) :
    f.arguments binding mode = .ok (pieces text) := by
  obtain ⟨arguments, written, rfl⟩ := call_eq_ok.mp called
  have whole : ∀ text ∈ arguments, IsPiece text := by
    intro text member
    obtain ⟨p, passed, argument⟩ := partner_of_mem (mapM_eq_ok.mp written).flip member
    obtain ⟨shape, -, rfl⟩ := map_eq_ok.mp argument
    exact shape.text_piece (plain.passed passed).1
  rw [pieces_joined (by simp [plain.name.opening]) whole, written]

theorem Reachable.passed_length (reachable : f.Reachable) :
    f.parameters.length = f.passed.length ∨ f.parameters.length = f.passed.length + 1 := by
  have split := f.parameters.length_eq_length_filter_add (·.isCallContext)
  have contexts := reachable.oneContext
  simp only [passed]
  omega

/-- The declarations and the call of a function list the same parameters in the same order, each
with its own name. Only the context of the call is left out, and there is one at most. -/
theorem texts_aligned (reachable : f.Reachable) (plain : f.PlainNames)
    (called : f.call binding mode = .ok text) :
    (pieces f.managedDeclaration).length = f.passed.length ∧
    (pieces f.nativeDeclaration).length = f.passed.length ∧
    (pieces text).length = f.passed.length ∧
    (f.parameters.length = f.passed.length ∨ f.parameters.length = f.passed.length + 1) ∧
    ∀ (k : Nat) (p : Parameter), f.passed[k]? = some p →
      (pieces f.managedDeclaration)[k]? = some (p.nativeType.managedName ++ " " ++ p.name) ∧
      (pieces f.nativeDeclaration)[k]? = some (p.nativeType.prototypeName ++ " " ++ p.name) ∧
      ∃ shape, p.argument (f.callSite binding) mode = .ok shape ∧
        (pieces text)[k]? = some (shape.text p.name) := by
  have written := pieces_call plain called
  rw [pieces_managedDeclaration plain, pieces_nativeDeclaration plain]
  refine ⟨List.length_map .., List.length_map .., mapM_length written,
    reachable.passed_length, ?_⟩
  intro k p found
  refine ⟨by rw [List.getElem?_map, found]; rfl, by rw [List.getElem?_map, found]; rfl, ?_⟩
  obtain ⟨piece, place, spelled⟩ := mapM_result written found
  obtain ⟨shape, argument, rfl⟩ := map_eq_ok.mp spelled
  exact ⟨shape, argument, place⟩

/-- The device that calls go to. -/
def device : Parameter := .callContext (.object "VkDevice")

def bufferInfo : Parameter :=
  { Parameter.ofType (.struct "VkBufferCreateInfo" false) "info" .input "" with
    modifiers := ⟨[.nullable]⟩ }

def createBuffer : BoundFunction where
  name := "vkCreateBuffer"
  hasRawVariant := false
  returned := .ofType (.primitive "VkResult" .int)
  parameters := [device, bufferInfo, .ofType (.primitive "VkBool32" .boolean4) "shared" .input "",
    .ofType (.pointer "VkBuffer" .pointers) "buffer" .output ""]

theorem createBuffer_reachable : createBuffer.Reachable := by
  have declared : declare "vkCreateBuffer" createBuffer.returned createBuffer.parameters =
      .ok createBuffer := rfl
  refine .declare (.ofType _) ?_ declared
  simp only [createBuffer, List.forall_mem_cons]
  refine ⟨.callContext _, ?_, .ofType .., .ofType .., by simp⟩
  exact Parameter.Reachable.modified (.ofType (.struct "VkBufferCreateInfo" false) "info" .input "")
    [.nullable] rfl

/-- The argument of the struct holds parentheses of its own, and its name twice. -/
theorem createBuffer_aligned : createBuffer.Reachable ∧ createBuffer.PlainNames ∧
    ∃ text, createBuffer.call none .normal = .ok text ∧
      createBuffer.passed[0]? = some bufferInfo ∧
      (pieces createBuffer.managedDeclaration)[0]? = some "VkBufferCreateInfo info" ∧
      (pieces createBuffer.nativeDeclaration)[0]? = some "long info" ∧
      (pieces text)[0]? = some "info == null ? NULL : info.address()" := by
  have plain : createBuffer.PlainNames := ⟨by decide, by decide, by decide⟩
  have called : createBuffer.call none .normal = .ok
      "nvkCreateBuffer(info == null ? NULL : info.address(), shared ? 1 : 0, memAddress(buffer))" :=
    rfl
  have first : createBuffer.passed[0]? = some bufferInfo := rfl
  obtain ⟨-, -, -, -, each⟩ := texts_aligned createBuffer_reachable plain called
  obtain ⟨managed, native, shape, argument, place⟩ := each 0 bufferInfo first
  cases argument
  exact ⟨createBuffer_reachable, plain, _, called, first, managed, native, place⟩

end BoundFunction

end CallBoundary
