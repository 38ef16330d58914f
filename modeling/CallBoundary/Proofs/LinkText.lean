import CallBoundary.Links
import CallBoundary.Proofs.Words

/-! The text of documentation with links. They stand in a sentence of their own or in the last one
that is there, behind an introduction that tells one link from several. -/
namespace CallBoundary

open Text

namespace LinkMode

variable {mode : LinkMode} {documentation links : String}

/-- The introductions to more than one link. -/
def pluralIntroductions : List String :=
  ["One of:", "one of:", "One or more of:", "one or more of:"]

/-- Text to which links were appended: trimmed, the same for all inputs that are trimmed to the
same, and put together from the trimmed inputs with an introduction in between. -/
structure Appended (mode : LinkMode) (documentation links out : String) : Prop where
  trimmed : Trimmed out
  inputs : ∀ other more, trim other = trim documentation → trim more = trim links →
    mode.append other more = out
  parts : ∃ stop space introduction,
    out = trim documentation ++ stop ++ space ++ introduction ++ " " ++ trim links ∧
    (stop = "." ∨ stop = "") ∧
    (stop = "." ↔ trim documentation ≠ "" ∧ (mode = .single ∨ mode = .bitfield) ∧
      (trim documentation).toList.getLast? ≠ some '.') ∧
    space = (if trim documentation = "" then "" else " ") ∧
    introduction = mode.introduction (2 ≤ (words links).length) ∧
    (introduction ∈ pluralIntroductions ↔ 2 ≤ (words links).length)

theorem isContinued_eq_false : mode.isContinued = false ↔ mode = .single ∨ mode = .bitfield := by
  cases mode <;> simp [isContinued]

theorem separator_parts (mode : LinkMode) (text : String) : ∃ stop,
    mode.separator text = stop ++ (if text = "" then "" else " ") ∧ (stop = "." ∨ stop = "") ∧
    (stop = "." ↔
      text ≠ "" ∧ (mode = .single ∨ mode = .bitfield) ∧ text.toList.getLast? ≠ some '.') := by
  rw [← isContinued_eq_false]
  by_cases empty : text = ""
  · exact ⟨"", by simp [separator, empty]⟩
  · by_cases same : mode.isContinued = false ∧ text.toList.getLast? ≠ some '.'
    · exact ⟨".", by simp [separator, empty, same]⟩
    · refine ⟨"", ?_, .inr rfl, by simp [empty, same]⟩
      have continues : (mode.isContinued || text.toList.getLast? == some '.') = true := by
        simpa [or_iff_not_imp_left] using same
      simp [separator, empty, continues]

@[simp] theorem separator_empty (mode : LinkMode) : mode.separator "" = "" := rfl

theorem introduction_plural {several : Bool} :
    mode.introduction several ∈ pluralIntroductions ↔ several = true := by
  cases mode <;> cases several <;> decide

theorem introduction_trimmed (mode : LinkMode) (several : Bool) :
    Trimmed (mode.introduction several) ∧ mode.introduction several ≠ "" := by
  cases mode <;> cases several <;> decide

theorem any_blank_trim (visible : isAllBlank links = false) :
    (trim links).toList.any isBlank = decide (2 ≤ (words links).length) := by
  rw [← words_trim, Bool.eq_iff_iff, List.any_eq_true, decide_eq_true_iff,
    (trim_trimmed links).several_words_iff (trim_ne_empty visible)]

/-- What leads from trimmed documentation to trimmed links. -/
def bridge (mode : LinkMode) (documentation links : String) : String :=
  mode.separator documentation ++ mode.introduction (links.toList.any isBlank) ++ " "

theorem append_eq : mode.append documentation links =
    trim documentation ++ mode.bridge (trim documentation) (trim links) ++ trim links := by
  simp only [append, bridge, String.append_assoc]

theorem append_trimmed (visible : isAllBlank links = false) :
    Trimmed (mode.append documentation links) := by
  have back := trim_trimmed links
  have some := trim_ne_empty visible
  by_cases empty : trim documentation = ""
  · obtain ⟨front, start⟩ := mode.introduction_trimmed ((trim links).toList.any isBlank)
    rw [append, empty, separator_empty, String.empty_append, String.empty_append]
    exact front.join back start some " "
  · rw [append_eq]
    exact (trim_trimmed documentation).join back empty some _

theorem append_appended (visible : isAllBlank links = false) :
    mode.Appended documentation links (mode.append documentation links) where
  trimmed := append_trimmed visible
  inputs other more same sameLinks := by rw [append, append, same, sameLinks]
  parts := by
    obtain ⟨stop, separator, either, stops⟩ := mode.separator_parts (trim documentation)
    refine ⟨stop, _, _, ?_, either, stops, rfl, rfl, introduction_plural.trans decide_eq_true_iff⟩
    rw [append, separator, any_blank_trim visible]
    simp only [String.append_assoc]

end LinkMode

end CallBoundary
