import CallBoundary.Proofs.LinkText
import CallBoundary.Proofs.OnceAttached

/-! Documentation with links. What comes of appending links is trimmed, so only the first links that
a parameter gets may trim its documentation; all later ones go on where it ends. -/
namespace CallBoundary

open Text

namespace Parameter

variable {p : Parameter} {step : Step} {history : List Step} {links : String} {mode : LinkMode}

def Step.AppendsLinks : Step → Prop
  | .link links _ => ∃ c ∈ links.toList, isBlank c = false
  | _ => False

theorem withLinks_blank (blank : isAllBlank links = true) : p.withLinks links mode = p :=
  if_pos blank

theorem withLinks_visible (visible : isAllBlank links = false) : p.withLinks links mode =
    { p with documentation := mode.append p.documentation links } := by
  simp [withLinks, visible]

theorem withLinks_extends (trimmed : Trimmed p.documentation) (visible : isAllBlank links = false)
    (mode : LinkMode) : ∃ sentence, sentence ≠ "" ∧ p.withLinks links mode =
      { p with documentation := p.documentation ++ sentence } := by
  rw [withLinks_visible visible, LinkMode.append_eq, trim_eq_self trimmed, String.append_assoc]
  exact ⟨_, by simp [trim_ne_empty visible], rfl⟩

theorem perform_documentation (other : ¬ step.AppendsLinks) :
    (p.perform step).documentation = p.documentation := by
  cases step with
  | attach ms =>
    refine attempt_induction (P := fun (out : Parameter) => out.documentation = p.documentation)
      rfl fun out attached => ?_
    rw [(withModifiers_eq_ok attached).2]
  | link links mode =>
    have blank : isAllBlank links = true := by
      rwa [Step.AppendsLinks, ← not_isAllBlank_iff, Bool.not_eq_false] at other
    rw [perform, withLinks_blank blank]
  | strip => rfl

theorem perform_trimmed (trimmed : Trimmed p.documentation ∨ step.AppendsLinks) :
    Trimmed (p.perform step).documentation := by
  by_cases appends : step.AppendsLinks
  · cases step with
    | link links mode =>
      have visible := not_isAllBlank_iff.mpr appends
      rw [perform, withLinks_visible visible]
      exact LinkMode.append_trimmed visible
    | attach | strip => contradiction
  · rw [perform_documentation appends]
    exact trimmed.resolve_right appends

theorem perform_extends (trimmed : Trimmed p.documentation) (step : Step) :
    ∃ rest, (p.perform step).documentation = p.documentation ++ rest := by
  by_cases appends : step.AppendsLinks
  · cases step with
    | link links mode =>
      obtain ⟨sentence, -, same⟩ := withLinks_extends trimmed (not_isAllBlank_iff.mpr appends) mode
      exact ⟨sentence, congrArg documentation same⟩
    | attach | strip => contradiction
  · exact ⟨"", by rw [perform_documentation appends, String.append_empty]⟩

/-- Once links were appended, the documentation stays trimmed. -/
theorem after_trimmed (linked : ∃ step ∈ history, step.AppendsLinks) :
    Trimmed (p.after history).documentation := by
  induction history using List.reverseRecOn with
  | nil => simp at linked
  | append_singleton history step ih =>
    rw [after_concat]
    refine perform_trimmed ?_
    obtain ⟨other, member, appends⟩ := linked
    rcases List.mem_append.mp member with before | last
    · exact .inl (ih ⟨other, before, appends⟩)
    · exact .inr (List.mem_singleton.mp last ▸ appends)

/-- What is trimmed only grows. -/
theorem after_extends (trimmed : Trimmed p.documentation) (history : List Step) :
    ∃ rest, (p.after history).documentation = p.documentation ++ rest := by
  induction history generalizing p with
  | nil => exact ⟨"", String.append_empty.symm⟩
  | cons step history ih =>
    obtain ⟨more, grown⟩ := perform_extends trimmed step
    have next : Trimmed (p.perform step).documentation := perform_trimmed (.inl trimmed)
    obtain ⟨rest, same⟩ := ih next
    exact ⟨more ++ rest, same.trans (by rw [grown, String.append_assoc])⟩

end Parameter

/-- Links that are not blank are appended in a sentence that depends on the trimmed texts alone.
Blank ones change nothing. Whatever a parameter goes through, its documentation only grows at the
end once links were appended to it, and grows by each that are not blank. -/
theorem links_appended :
    (∀ (mode : LinkMode) (documentation links : String), (∃ c ∈ links.toList, isBlank c = false) →
      mode.Appended documentation links (mode.append documentation links)) ∧
    (∀ (p : Parameter) (links : String) (mode : LinkMode),
      (∀ c ∈ links.toList, isBlank c = true) → p.withLinks links mode = p) ∧
    ∀ (p : Parameter) (history : List Parameter.Step),
      (∃ first mode, .link first mode ∈ history ∧ ∃ c ∈ first.toList, isBlank c = false) →
        (∀ (links : String) (mode : LinkMode), (∃ c ∈ links.toList, isBlank c = false) →
          ∃ sentence, sentence ≠ "" ∧ (p.after history).withLinks links mode =
            { p.after history with
              documentation := (p.after history).documentation ++ sentence }) ∧
        ∀ later, ∃ rest, (p.after (history ++ later)).documentation =
          (p.after history).documentation ++ rest := by
  refine ⟨fun mode documentation links visible => ?_, fun p links mode blank => ?_, ?_⟩
  · exact LinkMode.append_appended (not_isAllBlank_iff.mpr visible)
  · exact Parameter.withLinks_blank (isAllBlank_iff.mpr blank)
  · intro p history linked
    obtain ⟨first, mode, member, visible⟩ := linked
    have trimmed : Trimmed (p.after history).documentation :=
      Parameter.after_trimmed ⟨_, member, visible⟩
    refine ⟨fun links mode some => ?_, fun later => ?_⟩
    · exact Parameter.withLinks_extends trimmed (not_isAllBlank_iff.mpr some) mode
    · rw [Parameter.after, List.foldl_append]
      exact Parameter.after_extends trimmed later

def textureTarget : Parameter := .ofType (.primitive "GLenum" .int) "target" .input "the target \t"

/-- The two links are parted by a line break. -/
theorem target_links :
    LinkMode.Appended .single "the target \t" " #TEXTURE_2D\n#TEXTURE_3D "
      "the target. One of: #TEXTURE_2D\n#TEXTURE_3D" ∧
    textureTarget.withLinks " \n\t" .bitfield = textureTarget ∧
    ∃ rest, (textureTarget.after [.link "#TEXTURE_2D" .single, .strip, .link " " .single,
        .link " #TEXTURE_3D" .bitfieldContinued]).documentation =
      "the target. Must be: #TEXTURE_2D" ++ rest := by
  obtain ⟨appended, blank, linked⟩ := links_appended
  refine ⟨appended .single "the target \t" " #TEXTURE_2D\n#TEXTURE_3D " ⟨'#', by decide⟩,
    blank textureTarget " \n\t" .bitfield (List.all_eq_true.mp (by decide)), ?_⟩
  have first := linked textureTarget [.link "#TEXTURE_2D" .single]
    ⟨_, _, List.mem_singleton_self _, '#', by decide⟩
  exact first.2 [.strip, .link " " .single, .link " #TEXTURE_3D" .bitfieldContinued]

end CallBoundary
