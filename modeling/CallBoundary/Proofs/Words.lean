import CallBoundary.Text
import Mathlib.Data.List.DropRight

/-! Trimmed texts and the words of a text. Trimming takes blanks from both ends and nothing else, so
no word is lost by it; and a trimmed text holds a blank exactly if it has several words. -/
namespace CallBoundary.Text

variable {s : String} {cs before after : List Char} {c : Char}

/-- Neither end is blank. -/
structure Trimmed (s : String) : Prop where
  first : ∀ c ∈ s.toList.head?, isBlank c = false
  last : ∀ c ∈ s.toList.getLast?, isBlank c = false

theorem trimmed_iff : Trimmed s ↔
    (s.toList.head?.all (!isBlank ·) && s.toList.getLast?.all (!isBlank ·)) = true := by
  have ends : Trimmed s ↔ (∀ c ∈ s.toList.head?, isBlank c = false) ∧
      ∀ c ∈ s.toList.getLast?, isBlank c = false := ⟨fun h => ⟨h.1, h.2⟩, fun h => ⟨h.1, h.2⟩⟩
  simp [ends, Option.all_eq_true]

-- tests the two ends alone, not every character there is
instance (s : String) : Decidable (Trimmed s) := decidable_of_iff' _ trimmed_iff

theorem isAllBlank_iff : isAllBlank s = true ↔ ∀ c ∈ s.toList, isBlank c = true :=
  List.all_eq_true

theorem not_isAllBlank_iff : isAllBlank s = false ↔ ∃ c ∈ s.toList, isBlank c = false := by
  simp [isAllBlank]

theorem toList_trim (s : String) :
    (trim s).toList = (s.toList.dropWhile isBlank).rdropWhile isBlank := by
  rw [trim, String.toList_ofList]
  rfl

theorem trim_trimmed (s : String) : Trimmed (trim s) := by
  constructor
  · intro c first
    rw [toList_trim, Option.mem_def] at first
    obtain ⟨rest, whole⟩ := List.rdropWhile_prefix isBlank (s.toList.dropWhile isBlank)
    have found : (s.toList.dropWhile isBlank).head? = some c := by
      rw [← whole, List.head?_append, first, Option.some_or]
    simpa [found] using List.head?_dropWhile_not isBlank s.toList
  · intro c last
    rw [toList_trim, Option.mem_def] at last
    have inhabited := List.getLast?_isSome.mp (Option.isSome_of_eq_some last)
    rw [List.getLast?_eq_some_getLast inhabited, Option.some.injEq] at last
    simpa [last] using List.rdropWhile_last_not isBlank _ inhabited

theorem trim_eq_self (trimmed : Trimmed s) : trim s = s := by
  have front : s.toList.dropWhile isBlank = s.toList := by
    cases letters : s.toList with
    | nil => rfl
    | cons c cs => exact List.dropWhile_cons_of_neg (by simp [trimmed.first c (by simp [letters])])
  rw [← String.toList_inj, toList_trim, front, List.rdropWhile_eq_self_iff]
  intro inhabited
  simp [trimmed.last _ (List.getLast?_eq_some_getLast inhabited)]

theorem Trimmed.join {front back : String} (first : Trimmed front) (last : Trimmed back)
    (front_some : front ≠ "") (back_some : back ≠ "") (between : String) :
    Trimmed (front ++ between ++ back) := by
  have front_letters := mt String.toList_eq_nil_iff.mp front_some
  have back_letters := mt String.toList_eq_nil_iff.mp back_some
  obtain ⟨c, start, opens⟩ := List.exists_cons_of_ne_nil front_letters
  have closes := List.getLast?_eq_some_getLast back_letters
  constructor
  · intro other found
    have head : front.toList.head? = some other := by simpa [opens] using found
    exact first.first other head
  · intro other found
    have tail : back.toList.getLast? = some other := by
      simpa [List.getLast?_append, closes] using found
    exact last.last other tail

/-- Only blanks are taken away. -/
theorem trim_parts (s : String) : ∃ before after, s.toList = before ++ (trim s).toList ++ after ∧
    (∀ c ∈ before, isBlank c = true) ∧ ∀ c ∈ after, isBlank c = true := by
  refine ⟨s.toList.takeWhile isBlank, (s.toList.dropWhile isBlank).rtakeWhile isBlank, ?_,
    fun _ => List.mem_takeWhile_imp, fun _ => List.mem_rtakeWhile_imp⟩
  rw [toList_trim, List.append_assoc, List.rdropWhile_append_rtakeWhile,
    List.takeWhile_append_dropWhile]

theorem trim_eq_empty_iff : trim s = "" ↔ isAllBlank s = true := by
  rw [isAllBlank_iff]
  constructor
  · intro nothing
    obtain ⟨before, after, whole, front, back⟩ := trim_parts s
    rw [whole, nothing]
    simpa [or_imp, forall_and] using ⟨front, back⟩
  · intro blank
    rw [← String.toList_inj, toList_trim, List.dropWhile_eq_nil_iff.mpr blank]
    rfl

theorem trim_ne_empty (visible : isAllBlank s = false) : trim s ≠ "" := by
  simp [trim_eq_empty_iff, visible]

/-- What blanks part a text into. Neighbouring blanks have nothing between them. -/
def wordsOf (cs : List Char) : List (List Char) :=
  (cs.splitOnP isBlank).filter (!·.isEmpty)

def words (s : String) : List String := (wordsOf s.toList).map String.ofList

theorem wordsOf_append_cons (blank : isBlank c = true) :
    wordsOf (before ++ c :: after) = wordsOf before ++ wordsOf after := by
  rw [wordsOf, List.splitOnP_append_cons _ _ blank, List.filter_append]
  rfl

theorem wordsOf_cons_blank (blank : isBlank c = true) : wordsOf (c :: cs) = wordsOf cs := by
  rw [← List.nil_append (c :: cs), wordsOf_append_cons blank]
  rfl

theorem wordsOf_word (inhabited : cs ≠ []) (whole : ∀ c ∈ cs, isBlank c = false) :
    wordsOf cs = [cs] := by
  rw [wordsOf, List.splitOnP_eq_singleton whole]
  simp [inhabited]

theorem wordsOf_eq_nil_iff : wordsOf cs = [] ↔ ∀ c ∈ cs, isBlank c = true := by
  induction cs with
  | nil => simp [wordsOf]
  | cons c cs ih =>
    cases blank : isBlank c with
    | true => simp [wordsOf_cons_blank blank, ih, blank]
    | false =>
      obtain ⟨head, tail, split⟩ := List.exists_cons_of_ne_nil (List.splitOnP_ne_nil isBlank cs)
      simp [wordsOf, List.splitOnP_cons_eq_if_modifyHead, blank, split]

theorem wordsOf_blanks_append (blank : ∀ c ∈ before, isBlank c = true) :
    wordsOf (before ++ cs) = wordsOf cs := by
  induction before with
  | nil => rfl
  | cons c before ih =>
    obtain ⟨head, tail⟩ := List.forall_mem_cons.mp blank
    rw [List.cons_append, wordsOf_cons_blank head, ih tail]

theorem wordsOf_append_blanks (blank : ∀ c ∈ after, isBlank c = true) :
    wordsOf (cs ++ after) = wordsOf cs := by
  cases after with
  | nil => rw [List.append_nil]
  | cons c after =>
    obtain ⟨head, tail⟩ := List.forall_mem_cons.mp blank
    rw [wordsOf_append_cons head, wordsOf_eq_nil_iff.mpr tail, List.append_nil]

theorem words_trim (s : String) : words (trim s) = words s := by
  obtain ⟨before, after, whole, front, back⟩ := trim_parts s
  rw [words, words, whole, wordsOf_append_blanks back, wordsOf_blanks_append front]

/-- What stands before a blank in a trimmed text holds a word. -/
theorem Trimmed.wordsOf_before (trimmed : Trimmed s) (split : s.toList = before ++ c :: after)
    (blank : isBlank c = true) : wordsOf before ≠ [] := by
  intro none
  have blanks := wordsOf_eq_nil_iff.mp none
  cases before with
  | nil => simp [trimmed.first c (by simp [split])] at blank
  | cons d before => simpa [trimmed.first d (by simp [split])] using blanks d List.mem_cons_self

/-- What stands behind a blank in a trimmed text holds a word. -/
theorem Trimmed.wordsOf_after (trimmed : Trimmed s) (split : s.toList = before ++ c :: after)
    (blank : isBlank c = true) : wordsOf after ≠ [] := by
  intro none
  have blanks := wordsOf_eq_nil_iff.mp none
  rcases List.eq_nil_or_concat' after with rfl | ⟨after, d, rfl⟩
  · simp [trimmed.last c (by simp [split])] at blank
  · have last : s.toList.getLast? = some d := by
      rw [split, ← List.cons_append, ← List.append_assoc, List.getLast?_concat]
    simpa [trimmed.last d last] using blanks d (by simp)

/-- A blank in a trimmed text stands between two words. -/
theorem Trimmed.several_words_iff (trimmed : Trimmed s) (inhabited : s ≠ "") :
    2 ≤ (words s).length ↔ ∃ c ∈ s.toList, isBlank c = true := by
  rw [words, List.length_map]
  constructor
  · intro several
    by_contra none
    have whole : ∀ c ∈ s.toList, isBlank c = false := by simpa using none
    rw [wordsOf_word (by simpa using inhabited) whole] at several
    contradiction
  · rintro ⟨c, member, blank⟩
    obtain ⟨before, after, split⟩ := List.append_of_mem member
    have left := List.length_pos_iff.mpr (trimmed.wordsOf_before split blank)
    have right := List.length_pos_iff.mpr (trimmed.wordsOf_after split blank)
    rw [split, wordsOf_append_cons blank, List.length_append]
    omega

end CallBoundary.Text
