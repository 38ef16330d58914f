import CallBoundary.Parameter.Argument

/-! The native types that can be used, and the way in which each is passed. The rules are stated
apart from the two tables that decide them: a passage exists exactly for the types that are
consistent. -/
namespace CallBoundary

inductive NativeType.Passes (t : NativeType) : Passage → Prop where
  | struct (kind : t.kind = .struct) (mapping : t.mapping = .pointer .struct) : t.Passes .wrapped
  | object (kind : t.kind = .object) (mapping : t.mapping = .pointer .sealed) : t.Passes .wrapped
  | array (kind : t.kind = .array length) (mapping : t.mapping = .pointer pointee)
      (inhabited : length ≠ 0) (data : pointee.isData = true) : t.Passes .fixedArray
  | characters (kind : t.kind = .charSequence) (mapping : t.mapping = .pointer .bytes) :
      t.Passes .data
  | data (kind : t.kind = .pointer) (mapping : t.mapping = .pointer pointee)
      (data : pointee.isData = true) : t.Passes .data
  | handle (kind : t.kind = .pointer) (mapping : t.mapping = .pointer .sealed) : t.Passes .plain
  | boolean4 (kind : t.kind = .primitive) (mapping : t.mapping = .scalar .boolean4) :
      t.Passes .boolean4
  | scalar (kind : t.kind = .primitive) (mapping : t.mapping = .scalar s) (other : s ≠ .boolean4) :
      t.Passes .plain
  | void (kind : t.kind = .void) (mapping : t.mapping = .void) : t.Passes .plain

namespace NativeType

variable {t : NativeType} {way : Passage}

theorem Passes.found (passes : t.Passes way) : t.passage? = some way := by
  cases passes with
  | array kind mapping inhabited data =>
    simp [passage?, kind, mapping, data, UInt32.pos_iff_ne_zero.mpr inhabited]
  | @data pointee kind mapping data =>
    cases pointee <;> simp_all [passage?, Pointee.isData]
  | @scalar s kind mapping other =>
    cases s <;> simp_all [passage?]
  | _ => simp [passage?, *]

theorem passes_of_found (found : t.passage? = some way) : t.Passes way := by
  simp only [passage?] at found
  split at found
  case h_1 kind mapping => cases found; exact .struct kind mapping
  case h_2 kind mapping => cases found; exact .object kind mapping
  case h_3 kind mapping =>
    split at found
    next usable =>
      cases found
      exact .array kind mapping (UInt32.pos_iff_ne_zero.mp usable.1) usable.2
    next => contradiction
  case h_4 kind mapping => cases found; exact .characters kind mapping
  case h_5 kind mapping => cases found; exact .handle kind mapping
  case h_6 _ kind mapping =>
    split at found
    next data => cases found; exact .data kind mapping data
    next => contradiction
  case h_7 kind mapping => cases found; exact .boolean4 kind mapping
  case h_8 other kind mapping => cases found; exact .scalar kind mapping other
  case h_9 kind mapping => cases found; exact .void kind mapping
  case h_10 => contradiction

theorem Passes.consistent (passes : t.Passes way) : t.inconsistency = none := by
  cases passes with
  | array kind mapping inhabited data =>
    simp [inconsistency, Kind.admits, kind, mapping, data, inhabited]
  | @data pointee kind mapping data =>
    cases pointee <;> simp_all [inconsistency, Kind.admits, Pointee.isData]
  | _ => simp [inconsistency, Kind.admits, *]

theorem passes_of_consistent (consistent : t.inconsistency = none) : ∃ way, t.Passes way := by
  simp only [inconsistency] at consistent
  split at consistent
  next admitted =>
    have inhabited : t.kind ≠ .array 0 := by
      intro empty
      simp [empty] at consistent
    cases kind : t.kind <;> cases mapping : t.mapping <;>
      simp [Kind.admits, kind, mapping] at admitted inhabited
    case void.void => exact ⟨_, .void kind mapping⟩
    case primitive.scalar s =>
      by_cases boolean4 : s = .boolean4
      · exact ⟨_, .boolean4 kind (boolean4 ▸ mapping)⟩
      · exact ⟨_, .scalar kind mapping boolean4⟩
    case pointer.pointer pointee =>
      by_cases data : pointee.isData = true
      · exact ⟨_, .data kind mapping data⟩
      · refine ⟨_, .handle kind ?_⟩
        cases pointee <;> simp_all [Pointee.isData]
    case struct.pointer => exact ⟨_, .struct kind (admitted ▸ mapping)⟩
    case object.pointer => exact ⟨_, .object kind (admitted ▸ mapping)⟩
    case array.pointer => exact ⟨_, .array kind mapping inhabited admitted⟩
    case charSequence.pointer => exact ⟨_, .characters kind (admitted ▸ mapping)⟩
  next => contradiction

/-- The two tables describe the same types. -/
theorem exists_passage?_iff : (∃ way, t.passage? = some way) ↔ t.inconsistency = none := by
  constructor
  · rintro ⟨way, found⟩
    exact (passes_of_found found).consistent
  · intro consistent
    obtain ⟨way, passes⟩ := passes_of_consistent consistent
    exact ⟨way, passes.found⟩

theorem passage?_eq_none_iff : t.passage? = none ↔ ∃ reason, t.inconsistency = some reason := by
  rw [← Option.ne_none_iff_exists', ne_eq, ← exists_passage?_iff, ← Option.ne_none_iff_exists',
    Decidable.not_not]

/-- Raw data stands behind the buffers and the fixed arrays, and behind nothing else. -/
theorem Passes.isData_iff (passes : t.Passes way) :
    t.isData = true ↔ way = .data ∨ way = .fixedArray := by
  cases passes with
  | array kind mapping _ data => simp [isData, Kind.isAddress, Mapping.isData, kind, mapping, data]
  | data kind mapping data => simp [isData, Kind.isAddress, Mapping.isData, kind, mapping, data]
  | _ => simp [isData, Kind.isAddress, Mapping.isData, Pointee.isData, *]

theorem Passes.isArray_iff (passes : t.Passes way) :
    t.kind.isArray = true ↔ way = .fixedArray := by
  cases passes <;> simp [Kind.isArray, *]

theorem Passes.eq_data (passes : t.Passes way) (data : t.isData = true)
    (array : t.kind.isArray = false) : way = .data := by
  rcases passes.isData_iff.mp data with buffer | fixed
  · exact buffer
  · simp [passes.isArray_iff.mpr fixed] at array

end NativeType

end CallBoundary
