import CallBoundary.Json.Reader
import CallBoundary.Json.Writer
import Mathlib.Data.List.Forall2

/-! The spelling of numbers and strings in documents. What was written for a number or a string is
read back from the front of any text that goes on with neither. -/
namespace CallBoundary.Json

variable {rest : List Char}

/-- The value of a digit; other characters have none that counts. -/
def digitValue (c : Char) : Nat := c.toNat - '0'.toNat

/-- The text does not go on with a digit. -/
def EndsDigits (rest : List Char) : Prop := ∀ c ∈ rest.head?, c.isDigit = false

/-- The text does not go on with anything that a number could have. -/
def EndsNumeral (rest : List Char) : Prop :=
  ∀ c ∈ rest.head?, c.isDigit = false ∧ c ≠ '.' ∧ c ≠ 'e' ∧ c ≠ 'E'

theorem EndsNumeral.digits (ends : EndsNumeral rest) : EndsDigits rest :=
  fun c head => (ends c head).1

theorem endsNumeral_nil : EndsNumeral [] := by simp [EndsNumeral]

theorem readDigits_append {cs : List Char} (digits : ∀ c ∈ cs, c.isDigit = true)
    (ends : EndsDigits rest) : readDigits (cs ++ rest) = (cs.map digitValue, rest) := by
  induction cs with
  | nil =>
    cases rest with
    | nil => rfl
    | cons c rest =>
      have other : c.isDigit = false := ends c rfl
      simp [readDigits, digit?, other]
  | cons c cs ih =>
    obtain ⟨head, tail⟩ := List.forall_mem_cons.mp digits
    simp [readDigits, digit?, head, ih tail, digitValue]

theorem readDigits1?_append {cs : List Char} (some_digit : cs ≠ [])
    (digits : ∀ c ∈ cs, c.isDigit = true) (ends : EndsDigits rest) :
    readDigits1? (cs ++ rest) = some (cs.map digitValue, rest) := by
  simp only [readDigits1?, readDigits_append digits ends]
  cases cs with
  | nil => contradiction
  | cons => rfl

theorem decimal_of_readDigits (cs : List Char) : ∀ digit ∈ (readDigits cs).1, digit < 10 := by
  induction cs with
  | nil => simp [readDigits]
  | cons c cs ih =>
    rw [readDigits]
    split
    next digit found =>
      refine List.forall_mem_cons.mpr ⟨?_, ih⟩
      simp only [digit?, Option.ite_none_right_eq_some, Option.some.injEq] at found
      obtain ⟨decimal, rfl⟩ := found
      have bounds := Char.isDigit_iff_toNat.mp decimal
      simp at bounds ⊢
      omega
    next => simp

theorem decimal_of_readFraction? (read : readFraction? cs = some (digits, rest)) :
    ∀ digit ∈ digits, digit < 10 := by
  unfold readFraction? at read
  split at read
  next behind =>
    have decimal := decimal_of_readDigits behind
    rw [readDigits1?] at read
    split at read
    next => contradiction
    next run =>
      cases read
      rwa [run] at decimal
  next =>
    cases read
    simp

theorem ofDigits_map (cs : List Char) :
    ofDigits (cs.map digitValue) = Nat.ofDigitChars 10 cs 0 := by
  rw [ofDigits, List.foldl_map, Nat.ofDigitChars_eq_foldl]
  rfl

theorem ofDigits_writeDigits (n : Nat) : ofDigits ((writeDigits n).map digitValue) = n := by
  rw [ofDigits_map, writeDigits, Nat.ofDigitChars_ten_toDigits]

theorem isDigit_of_mem_writeDigits (n : Nat) : ∀ c ∈ writeDigits n, c.isDigit = true :=
  fun _ member => Nat.isDigit_of_mem_toDigits (by decide) (by decide) member

theorem writeDigits_ne_nil (n : Nat) : writeDigits n ≠ [] := Nat.toDigits_ne_nil

theorem readDigits1?_writeDigits (n : Nat) (ends : EndsDigits rest) :
    readDigits1? (writeDigits n ++ rest) = some ((writeDigits n).map digitValue, rest) :=
  readDigits1?_append (writeDigits_ne_nil n) (isDigit_of_mem_writeDigits n) ends

theorem writeDigits_cons (n : Nat) :
    ∃ first others, writeDigits n = first :: others ∧ first.isDigit = true := by
  obtain ⟨first, others, shape⟩ := List.exists_cons_of_ne_nil (writeDigits_ne_nil n)
  exact ⟨first, others, shape, isDigit_of_mem_writeDigits n first (by simp [shape])⟩

/-- No number but zero is written with a zero in front. -/
theorem eq_zero_of_head?_writeDigits {n : Nat} (zero : (writeDigits n).head? = some '0') :
    n = 0 := by
  induction n using Nat.strongRecOn with
  | _ n ih =>
    by_cases small : n < 10
    · rw [writeDigits, Nat.toDigits_of_lt_base small, List.head?_cons, Option.some.injEq] at zero
      exact Nat.digitChar_eq_zero.mp zero
    · have large : 10 ≤ n := by omega
      have nonempty : Nat.toDigits 10 (n / 10) ≠ [] := Nat.toDigits_ne_nil
      rw [writeDigits, Nat.toDigits_of_base_le (by decide) large,
        List.head?_append_of_ne_nil _ nonempty] at zero
      have := ih (n / 10) (by omega) zero
      omega

theorem readWhole?_writeDigits (n : Nat) (ends : EndsDigits rest) :
    readWhole? (writeDigits n ++ rest) = some (n, rest) := by
  by_cases zero : n = 0
  · subst zero
    rfl
  · have other : ∀ after, writeDigits n ++ rest ≠ '0' :: after := by
      intro after same
      refine zero (eq_zero_of_head?_writeDigits ?_)
      rw [← List.head?_append_of_ne_nil _ (writeDigits_ne_nil n), same, List.head?_cons]
    rw [readWhole?]
    · simp [readDigits1?_writeDigits n ends, ofDigits_writeDigits]
    · exact other

namespace Numeral

/-- The digits of the fraction are decimal. -/
def WellFormed (n : Numeral) : Prop := ∀ digit ∈ n.fraction, digit < 10

theorem map_digitValue_digitChar {digits : List Nat} (decimal : ∀ digit ∈ digits, digit < 10) :
    (digits.map Nat.digitChar).map digitValue = digits := by
  rw [List.map_map, List.map_congr_left (g := id), List.map_id]
  exact fun digit member => Nat.toNat_digitChar_sub_48_of_lt_ten (decimal digit member)

/-- The fraction as it stands in the text, behind its point. -/
def writeFraction (digits : List Nat) : List Char :=
  if digits.isEmpty then [] else '.' :: digits.map Nat.digitChar

def writeExponent : Option Int → List Char
  | none => []
  | some power => 'e' :: (if power < 0 then ['-'] else []) ++ writeDigits power.natAbs

theorem write_eq (n : Numeral) : n.write = (if n.negative then ['-'] else []) ++
    (writeDigits n.whole ++ (writeFraction n.fraction ++ writeExponent n.exponent)) := by
  cases exponent : n.exponent <;> simp [write, writeFraction, writeExponent, exponent]

theorem readFraction?_writeFraction {digits : List Nat} (decimal : ∀ digit ∈ digits, digit < 10)
    (ends : EndsDigits rest) (point : rest.head? ≠ some '.') :
    readFraction? (writeFraction digits ++ rest) = some (digits, rest) := by
  cases digits with
  | nil =>
    cases rest with
    | nil => rfl
    | cons c rest =>
      have other : c ≠ '.' := by simpa using point
      simp [writeFraction, readFraction?, other]
  | cons digit digits =>
    have all_digits : ∀ c ∈ (digit :: digits).map Nat.digitChar, c.isDigit = true := by
      intro c member
      obtain ⟨value, found, rfl⟩ := List.mem_map.mp member
      simpa [Nat.isDigit_digitChar] using decimal value found
    have read := readDigits1?_append (by simp) all_digits ends
    rw [map_digitValue_digitChar decimal] at read
    exact read

theorem readPower?_writeDigits (n : Nat) (ends : EndsDigits rest) :
    readPower? (writeDigits n ++ rest) = some (some (n : Int), rest) := by
  obtain ⟨first, others, shape, digit⟩ := writeDigits_cons n
  have plus : first ≠ '+' := by rintro rfl; contradiction
  have minus : first ≠ '-' := by rintro rfl; contradiction
  have read : readDigits1? (first :: (others ++ rest)) =
      some ((writeDigits n).map digitValue, rest) := by
    rw [← readDigits1?_writeDigits n ends, shape, List.cons_append]
  rw [shape, List.cons_append]
  simp [readPower?, plus, minus, read, ofDigits_writeDigits]

theorem readExponent?_writeExponent (exponent : Option Int) (ends : EndsNumeral rest) :
    readExponent? (writeExponent exponent ++ rest) = some (exponent, rest) := by
  cases exponent with
  | none =>
    cases rest with
    | nil => rfl
    | cons c rest =>
      obtain ⟨-, -, small, large⟩ := ends c rfl
      simp [writeExponent, readExponent?, small, large]
  | some power =>
    simp only [writeExponent, List.cons_append, List.append_assoc, readExponent?]
    by_cases negative : power < 0
    · simp only [negative, if_true, List.cons_append, List.nil_append, readPower?,
        readDigits1?_writeDigits _ ends.digits, Option.map_some, ofDigits_writeDigits]
      have : -(power.natAbs : Int) = power := by omega
      rw [this]
    · have : (power.natAbs : Int) = power := by omega
      rw [if_neg negative, List.nil_append, readPower?_writeDigits _ ends.digits, this]

theorem endsDigits_writeExponent (exponent : Option Int) (ends : EndsNumeral rest) :
    EndsDigits (writeExponent exponent ++ rest) ∧
      (writeExponent exponent ++ rest).head? ≠ some '.' := by
  cases exponent with
  | none => exact ⟨ends.digits, fun point => (ends '.' point).2.1 rfl⟩
  | some power => simp [writeExponent, EndsDigits]

theorem endsDigits_writeFraction (digits : List Nat) (ends : EndsDigits rest) :
    EndsDigits (writeFraction digits ++ rest) := by
  cases digits with
  | nil => exact ends
  | cons => simp [writeFraction, EndsDigits]

theorem readMagnitude?_write (negative : Bool) {n : Numeral} (wellFormed : n.WellFormed)
    (ends : EndsNumeral rest) :
    readMagnitude? negative (writeDigits n.whole ++
      (writeFraction n.fraction ++ (writeExponent n.exponent ++ rest))) =
      some ({ n with negative := negative }, rest) := by
  obtain ⟨digits, point⟩ := endsDigits_writeExponent n.exponent ends
  have fraction := readFraction?_writeFraction wellFormed digits point
  have whole := readWhole?_writeDigits n.whole (endsDigits_writeFraction n.fraction digits)
  simp [readMagnitude?, whole, fraction, readExponent?_writeExponent n.exponent ends]

/-- A number begins with a digit or with its sign. -/
theorem write_cons (n : Numeral) :
    ∃ first others, n.write = first :: others ∧ (first.isDigit = true ∨ first = '-') := by
  rw [write_eq]
  cases n.negative with
  | true => exact ⟨'-', _, rfl, .inr rfl⟩
  | false =>
    obtain ⟨first, others, shape, digit⟩ := writeDigits_cons n.whole
    exact ⟨first, _, by rw [shape]; rfl, .inl digit⟩

/-- The sign tells how the rest of a number is to be read. -/
theorem readNumeral?_of_sign (n : Numeral) (after : List Char) :
    readNumeral? (n.write ++ after) = readMagnitude? n.negative (writeDigits n.whole ++
      (writeFraction n.fraction ++ (writeExponent n.exponent ++ after))) := by
  cases negative : n.negative with
  | true =>
    simp only [write_eq, negative, if_true, List.append_assoc]
    rfl
  | false =>
    obtain ⟨first, others, shape, digit⟩ := writeDigits_cons n.whole
    have plain : first ≠ '-' := by rintro rfl; contradiction
    simp [write_eq, negative, shape, readNumeral?, plain]

theorem readNumeral?_write {n : Numeral} (wellFormed : n.WellFormed) (ends : EndsNumeral rest) :
    readNumeral? (n.write ++ rest) = some (n, rest) := by
  rw [readNumeral?_of_sign, readMagnitude?_write n.negative wellFormed ends]

/-- Whatever is read as a number has decimal digits. -/
theorem wellFormed_of_read {n : Numeral} (read : readNumeral? cs = some (n, rest)) :
    n.WellFormed := by
  have magnitude : ∃ negative cs, readMagnitude? negative cs = some (n, rest) := by
    unfold readNumeral? at read
    split at read <;> exact ⟨_, _, read⟩
  obtain ⟨negative, cs, read⟩ := magnitude
  simp only [readMagnitude?, Option.bind_eq_bind, Option.bind_eq_some_iff] at read
  obtain ⟨whole, -, ⟨digits, next⟩, fraction_read, exponent, -, shape⟩ := read
  cases shape
  exact decimal_of_readFraction? fraction_read

end Numeral

theorem hexDigit?_hexDigit : ∀ n < 16, hexDigit? (hexDigit n) = some n := by decide

/-- The pieces of a literal that stand for a character: the character, or a unit below the blank. -/
inductive Piece.Spells : Piece → Char → Prop
  | char : Spells (.char c) c
  | unit (control : c.toNat < 0x20) : Spells (.unit c.toNat) c

/-- Reading on and putting a piece in front is one step. -/
theorem bind_piece (piece : Piece) (read : Option (List Piece × List Char)) :
    (do
      let (pieces, rest) ← read
      return (piece :: pieces, rest)) =
      read.map fun (pieces, rest) => (piece :: pieces, rest) := by
  cases read <;> rfl

theorem readPieces?_control {c : Char} (control : c.toNat < 0x20) :
    readPieces? ('\\' :: 'u' :: '0' :: '0' :: hexDigit (c.toNat / 16) ::
      hexDigit (c.toNat % 16) :: rest) =
      (readPieces? rest).map fun (pieces, rest) => (.unit c.toNat :: pieces, rest) := by
  have high := hexDigit?_hexDigit (c.toNat / 16) (by omega)
  have low := hexDigit?_hexDigit (c.toNat % 16) (by omega)
  have zero : hexDigit? '0' = some 0 := by decide
  have code : c.toNat / 16 * 16 + c.toNat % 16 = c.toNat := by omega
  have unit : unit? '0' '0' (hexDigit (c.toNat / 16)) (hexDigit (c.toNat % 16)) =
      some c.toNat := by simp [unit?, high, low, zero, code]
  rw [readPieces?, unit]
  exact bind_piece _ _

theorem readPieces?_plain {c : Char} (quote : c ≠ '"') (backslash : c ≠ '\\')
    (visible : ¬ c.toNat < 0x20) : readPieces? (c :: rest) =
      (readPieces? rest).map fun (pieces, rest) => (.char c :: pieces, rest) := by
  rw [readPieces?]
  · rw [if_neg (by simp [visible, backslash])]
    exact bind_piece _ _
  · exact quote
  · simp [backslash]
  · simp [backslash]

/-- Whatever follows, an escaped character is read as one piece. -/
theorem readPieces?_escapeChar (c : Char) : ∃ piece : Piece, piece.Spells c ∧ ∀ rest,
    readPieces? (escapeChar c ++ rest) =
      (readPieces? rest).map fun (pieces, rest) => (piece :: pieces, rest) := by
  simp only [escapeChar]
  split
  case h_8 quote backslash _ _ _ _ _ =>
    split
    next control => exact ⟨_, .unit control, fun _ => readPieces?_control control⟩
    next visible => exact ⟨_, .char, fun _ => readPieces?_plain quote backslash visible⟩
  all_goals
    refine ⟨.char _, .char, fun rest => ?_⟩
    exact bind_piece _ _

theorem readPieces?_escaped (cs : List Char) : ∃ pieces, List.Forall₂ Piece.Spells pieces cs ∧
    ∀ rest, readPieces? (cs.flatMap escapeChar ++ '"' :: rest) = some (pieces, rest) := by
  induction cs with
  | nil => exact ⟨[], .nil, fun rest => by simp [readPieces?]⟩
  | cons c cs ih =>
    obtain ⟨piece, spells, head⟩ := readPieces?_escapeChar c
    obtain ⟨pieces, all_spell, tail⟩ := ih
    refine ⟨piece :: pieces, .cons spells all_spell, fun rest => ?_⟩
    rw [List.flatMap_cons, List.append_assoc, head, tail, Option.map_some]

theorem joinPieces?_unit (high : isHighSurrogate code = false) (low : isLowSurrogate code = false)
    (pieces : List Piece) :
    joinPieces? (.unit code :: pieces) = (joinPieces? pieces).map (Char.ofNat code :: ·) := by
  match pieces with
  | [] => simp [joinPieces?, high, low]
  | .char _ :: _ => simp [joinPieces?, high, low]
  | .unit _ :: _ => simp [joinPieces?, high, low]

/-- Units below the blank are no surrogates, so each stands for its own character. -/
theorem joinPieces?_of_spells {pieces : List Piece} {cs : List Char}
    (spell : List.Forall₂ Piece.Spells pieces cs) : joinPieces? pieces = some cs := by
  induction spell with
  | nil => rfl
  | @cons _ c _ _ spells _ ih =>
    cases spells with
    | char => simp [joinPieces?, ih]
    | unit control =>
      have high : isHighSurrogate c.toNat = false := by simp [isHighSurrogate]; omega
      have low : isLowSurrogate c.toNat = false := by simp [isLowSurrogate]; omega
      simp [joinPieces?_unit high low, ih]

theorem readLiteral?_writeLiteral (literal : Literal) (rest : List Char) : ∃ behind,
    writeLiteral literal ++ rest = '"' :: behind ∧ readLiteral? behind = some (literal, rest) := by
  cases literal with
  | none =>
    have lone : unit? 'd' '8' '0' '0' = some 0xD800 := by decide
    refine ⟨_, rfl, ?_⟩
    simp [readLiteral?, readPieces?, lone, joinPieces?, isHighSurrogate]
  | some text =>
    obtain ⟨pieces, spell, read⟩ := readPieces?_escaped text.toList
    refine ⟨text.toList.flatMap escapeChar ++ '"' :: rest, by simp [writeLiteral], ?_⟩
    simp [readLiteral?, read, joinPieces?_of_spells spell]

end CallBoundary.Json
