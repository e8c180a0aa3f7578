import Mathlib.Data.List.Forall2
import RackTelemetry.Proofs.Pattern.Fits

/-!
What a pattern says about every text that fits it, read off the pattern alone: the texts that a
group can have when the pattern lists them.
-/

namespace RackTelemetry

namespace Pattern

variable {p : Pattern} {text : List Char} {groups : List (Option (List Char))}

/-! ### Listed groups -/

/-- The texts that fit a pattern of literal runs and alternatives. -/
def texts? : Pattern → Option (List (List Char))
  | .literal cs => some [cs]
  | .alt p q =>
    match p.texts?, q.texts? with
    | some left, some right => some (left ++ right)
    | _, _ => none
  | _ => none

theorem Fits.mem_texts {texts : List (List Char)} (h : p.Fits text groups)
    (htexts : p.texts? = some texts) : text ∈ texts := by
  induction p generalizing groups texts with
  | literal cs =>
    obtain rfl := Option.some.inj htexts
    exact List.mem_singleton.mpr h.1
  | alt p q ihp ihq =>
    rw [texts?] at htexts
    split at htexts
    · next left right hleft hright =>
      obtain rfl := Option.some.inj htexts
      rcases h with ⟨_, -, hfits⟩ | ⟨_, -, hfits⟩
      · exact List.mem_append_left _ (ihp hfits hleft)
      · exact List.mem_append_right _ (ihq hfits hright)
    · cases htexts
  | _ => cases htexts

/-- For each group the texts it can have, if the pattern lists them. -/
def choices : Pattern → List (Option (List (List Char)))
  | .seq p q => p.choices ++ q.choices
  | .group p => p.texts? :: p.choices
  | .alt p q => List.replicate (p.groups + q.groups) none
  | .optional p => List.replicate p.groups none
  | _ => []

/-- A group has one of the texts that are listed for it. -/
def Chosen (group : Option (List Char)) (choice : Option (List (List Char))) : Prop :=
  ∀ texts, choice = some texts → ∃ text ∈ texts, group = some text

theorem forall₂_chosen_replicate (groups : List (Option (List Char))) :
    List.Forall₂ Chosen groups (List.replicate groups.length none) := by
  induction groups with
  | nil => exact .nil
  | cons group groups ih =>
    refine .cons ?_ ih
    rintro texts ⟨⟩

theorem Fits.length_groups (h : p.Fits text groups) : groups.length = p.groups := by
  induction p generalizing text groups with
  | empty => simp [h.2, Pattern.groups]
  | literal cs => simp [h.2, Pattern.groups]
  | one set => simp [h.2, Pattern.groups]
  | many set least => simp [h.2, Pattern.groups]
  | start => cases h
  | finish => cases h
  | seq p q ihp ihq =>
    obtain ⟨_, _, g, k, -, rfl, hp, hq⟩ := h
    rw [List.length_append, ihp hp, ihq hq, Pattern.groups]
  | alt p q ihp ihq =>
    rcases h with ⟨g, rfl, hfits⟩ | ⟨g, rfl, hfits⟩
    · rw [List.length_append, ihp hfits, List.length_replicate, Pattern.groups]
    · rw [List.length_append, ihq hfits, List.length_replicate, Pattern.groups]
  | optional p ih =>
    rcases h with hfits | ⟨-, rfl⟩
    · rw [ih hfits, Pattern.groups]
    · rw [List.length_replicate, Pattern.groups]
  | group p ih =>
    obtain ⟨g, rfl, hfits⟩ := h
    rw [List.length_cons, ih hfits, Pattern.groups]

/-- The groups of a text that fits have texts that the pattern lists for them. -/
theorem Fits.chosen (h : p.Fits text groups) : List.Forall₂ Chosen groups p.choices := by
  induction p generalizing text groups with
  | empty => exact h.2 ▸ .nil
  | literal cs => exact h.2 ▸ .nil
  | one set => exact h.2 ▸ .nil
  | many set least => exact h.2 ▸ .nil
  | start => cases h
  | finish => cases h
  | seq p q ihp ihq =>
    obtain ⟨_, _, g, k, -, rfl, hp, hq⟩ := h
    exact List.rel_append (ihp hp) (ihq hq)
  | alt p q =>
    have hlength := h.length_groups
    rw [Pattern.groups] at hlength
    rw [choices, ← hlength]
    exact forall₂_chosen_replicate groups
  | optional p =>
    have hlength := h.length_groups
    rw [Pattern.groups] at hlength
    rw [choices, ← hlength]
    exact forall₂_chosen_replicate groups
  | group p ih =>
    obtain ⟨g, rfl, hfits⟩ := h
    exact .cons (fun texts htexts => ⟨text, hfits.mem_texts htexts, rfl⟩) (ih hfits)

/-! ### Patterns for a whole text -/

/-- The pattern between the two anchors of a pattern for a whole text. -/
def body? : Pattern → Option Pattern
  | .seq (.seq .start p) .finish => some p
  | _ => none

theorem eq_whole_of_body? {q : Pattern} (h : q.body? = some p) : q = whole p := by
  unfold body? at h
  split at h
  · obtain rfl := Option.some.inj h
    rfl
  · cases h

end Pattern

end RackTelemetry
