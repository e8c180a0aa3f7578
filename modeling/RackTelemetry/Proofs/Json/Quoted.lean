import RackTelemetry.Json.Printer
import RackTelemetry.Json.Reader

/-!
Reading a quoted text gives the text back, whatever its characters are: each character is written as
itself, as an escape of one letter or as a code unit, and reading undoes each of the three.
-/

namespace RackTelemetry.Json

/-! ### One character -/

theorem stringParts_escaped {c d : Char} (hc : c ≠ 'u') (h : escaped? c = some d)
    (cs : List Char) : stringParts ('\\' :: c :: cs) =
      (stringParts cs).map fun (parts, rest) => (.char d :: parts, rest) := by
  rw [stringParts, h]
  · cases stringParts cs <;> rfl
  · exact fun _ _ _ _ _ hu => absurd hu hc

theorem stringParts_unit {a b c d : Char} {n : Nat} (h : hexUnit? a b c d = some n)
    (cs : List Char) : stringParts ('\\' :: 'u' :: a :: b :: c :: d :: cs) =
      (stringParts cs).map fun (parts, rest) => (.unit n :: parts, rest) := by
  rw [stringParts, h]
  cases stringParts cs <;> rfl

theorem stringParts_char {c : Char} (hquote : c ≠ '"') (hbackslash : c ≠ '\\')
    (hc : ¬ c.toNat < 0x20) (cs : List Char) : stringParts (c :: cs) =
      (stringParts cs).map fun (parts, rest) => (.char c :: parts, rest) := by
  rw [stringParts, if_neg hc]
  · cases stringParts cs <;> rfl
  · exact hquote
  · exact fun _ _ _ _ _ h _ => hbackslash h
  · exact fun _ _ h _ => hbackslash h

theorem hexUnit?_digitChar : ∀ n < 0x20,
    hexUnit? '0' '0' (Nat.digitChar (n / 16)) (Nat.digitChar (n % 16)) = some n := by
  decide

/-- A part of a string that stands for a character. -/
def StringPart.IsFor (part : StringPart) (c : Char) : Prop :=
  part = .char c ∨ part = .unit c.toNat ∧ c.toNat < 0x20

theorem stringParts_escapeChar (c : Char) :
    ∃ part : StringPart, part.IsFor c ∧ ∀ cs, stringParts (escapeChar c ++ cs) =
      (stringParts cs).map fun (parts, rest) => (part :: parts, rest) := by
  unfold escapeChar
  split
  case h_8 hquote hbackslash _ _ _ _ _ =>
    split
    · next hcontrol =>
      exact ⟨.unit c.toNat, .inr ⟨rfl, hcontrol⟩,
        stringParts_unit (hexUnit?_digitChar c.toNat hcontrol)⟩
    · next hcontrol =>
      exact ⟨.char c, .inl rfl, stringParts_char hquote hbackslash hcontrol⟩
  all_goals exact ⟨.char _, .inl rfl, stringParts_escaped (by decide) rfl⟩

theorem joinParts_isFor {part : StringPart} {c : Char} (h : part.IsFor c) (reading : Reading)
    (parts : List StringPart) :
    joinParts reading (part :: parts) = (joinParts reading parts).map (c :: ·) := by
  rcases h with rfl | ⟨rfl, hcontrol⟩
  · rfl
  · -- A unit this small is no half of a pair, whatever comes after it.
    have hhigh : ∀ p, ¬ (0xd800 ≤ c.toNat ∧ p) := fun p h => by omega
    match parts with
    | [] => simp [joinParts, hhigh]
    | .char d :: parts => simp [joinParts, hhigh]
    | .unit low :: parts => simp [joinParts, hhigh]

/-! ### Texts -/

theorem readString_escaped (reading : Reading) (cs rest : List Char) :
    readString reading (cs.flatMap escapeChar ++ '"' :: rest) = some (String.ofList cs, rest) := by
  have hparts : ∃ parts, stringParts (cs.flatMap escapeChar ++ '"' :: rest) = some (parts, rest) ∧
      joinParts reading parts = some cs := by
    induction cs with
    | nil => exact ⟨[], by rw [List.flatMap_nil, List.nil_append, stringParts], rfl⟩
    | cons c cs ih =>
      obtain ⟨parts, hparts, hjoin⟩ := ih
      obtain ⟨part, hpart, hread⟩ := stringParts_escapeChar c
      refine ⟨part :: parts, ?_, ?_⟩
      · rw [List.flatMap_cons, List.append_assoc, hread, hparts]
        rfl
      · rw [joinParts_isFor hpart, hjoin]
        rfl
  obtain ⟨parts, hparts, hjoin⟩ := hparts
  unfold readString
  rw [hparts]
  simp [hjoin]

theorem toList_quote (s : String) :
    (quote s).toList = '"' :: (s.toList.flatMap escapeChar ++ ['"']) := by
  rw [quote, String.toList_ofList]

/-- A quoted text in front of other input is read as that text. -/
theorem readString_quote (reading : Reading) (s : String) (rest : List Char) :
    ∃ cs, (quote s).toList ++ rest = '"' :: cs ∧ readString reading cs = some (s, rest) := by
  refine ⟨s.toList.flatMap escapeChar ++ '"' :: rest, ?_, ?_⟩
  · rw [toList_quote]
    simp
  · rw [readString_escaped, String.ofList_toList]

end RackTelemetry.Json
