import RackTelemetry.Site.Value

/-!
A number that was written in decimal is read back, up to the limit of 64 bits, with or without the
white space that texts are trimmed of.
-/

namespace RackTelemetry

namespace Number

theorem isDigit_of_mem_toString {n : Nat} {c : Char} (h : c ∈ (toString n).toList) :
    c.isDigit = true := by
  rw [Nat.toString_eq_repr, Nat.toList_repr] at h
  exact Nat.isDigit_of_mem_toDigits (by decide) (by decide) h

theorem toString_ne_nil (n : Nat) : (toString n).toList ≠ [] := by
  rw [Nat.toString_eq_repr, Nat.toList_repr]
  exact Nat.toDigits_ne_nil

theorem ofDigitChars_toString (n : Nat) : Nat.ofDigitChars 10 (toString n).toList 0 = n := by
  rw [Nat.toString_eq_repr, Nat.toList_repr]
  exact Nat.ofDigitChars_ten_toDigits

theorem le_ofDigitChars (cs : List Char) (sum : Nat) : sum ≤ Nat.ofDigitChars 10 cs sum := by
  induction cs generalizing sum with
  | nil => simp
  | cons c cs ih =>
    rw [Nat.ofDigitChars_cons]
    have hle := ih (10 * sum + (c.toNat - '0'.toNat))
    omega

theorem readDigits_eq {limit : Nat} {beyond : IntegerFault} {cs : List Char} {sum : Nat}
    (hdigits : ∀ c ∈ cs, c.isDigit = true) (hlimit : Nat.ofDigitChars 10 cs sum ≤ limit) :
    readDigits limit beyond sum cs = .ok (Nat.ofDigitChars 10 cs sum) := by
  induction cs generalizing sum with
  | nil => simp [readDigits]
  | cons c cs ih =>
    have hdigit : digit? c = some (c.toNat - '0'.toNat) := by
      rw [digit?, if_pos (hdigits c List.mem_cons_self)]
    rw [Nat.ofDigitChars_cons, Nat.mul_comm] at hlimit ⊢
    have hstep := le_ofDigitChars cs (sum * 10 + (c.toNat - '0'.toNat))
    simp only [readDigits, hdigit]
    rw [if_pos (by omega)]
    exact ih (fun d hd => hdigits d (List.mem_cons_of_mem _ hd)) hlimit

/-- What is written for a number is read as that number. -/
theorem readNat_toString {n : Nat} (h : n ≤ maxWord) : readNat (toString n) = .ok n := by
  have hread : readDigits maxWord .tooLarge 0 (toString n).toList = .ok n := by
    rw [readDigits_eq (fun c hc => isDigit_of_mem_toString hc), ofDigitChars_toString]
    rw [ofDigitChars_toString]
    exact h
  have hplus : '+' ∉ (toString n).toList := by
    intro hmem
    exact absurd (isDigit_of_mem_toString hmem) (by decide)
  unfold readNat
  split
  · next hnil => exact absurd hnil (toString_ne_nil n)
  · next hsign => exact absurd (hsign ▸ List.mem_cons_self) hplus
  · next hsign => exact absurd (hsign ▸ List.mem_cons_self) hplus
  · exact hread

/-- What is written for an integer is read as that integer, up to the limits of 64 bits. -/
theorem readInt_toString {i : Int} (hmin : -(maxInt + 1 : Int) ≤ i) (hmax : i ≤ maxInt) :
    readInt (toString i) = .ok i := by
  cases i with
  | ofNat n =>
    have hread : readDigits maxInt .tooLarge 0 (toString n).toList = .ok n := by
      rw [readDigits_eq (fun c hc => isDigit_of_mem_toString hc), ofDigitChars_toString]
      rw [ofDigitChars_toString]
      exact Int.ofNat_le.mp hmax
    have hsign : ∀ c ∈ (toString n).toList, c ≠ '+' ∧ c ≠ '-' := by
      intro c hc
      have hdigit := isDigit_of_mem_toString hc
      refine ⟨?_, ?_⟩
      · rintro rfl
        exact absurd hdigit (by decide)
      · rintro rfl
        exact absurd hdigit (by decide)
    show readInt (toString n) = _
    unfold readInt
    split
    · next hnil => exact absurd hnil (toString_ne_nil n)
    · next hplus => exact absurd rfl (hsign '+' (hplus ▸ List.mem_cons_self)).1
    · next hminus => exact absurd rfl (hsign '-' (hminus ▸ List.mem_cons_self)).2
    · next hplus => exact absurd rfl (hsign '+' (hplus ▸ List.mem_cons_self)).1
    · next hminus => exact absurd rfl (hsign '-' (hminus ▸ List.mem_cons_self)).2
    · rw [hread]
      rfl
  | negSucc n =>
    have hread : readDigits (maxInt + 1) .tooSmall 0 (toString (n + 1)).toList = .ok (n + 1) := by
      rw [readDigits_eq (fun c hc => isDigit_of_mem_toString hc), ofDigitChars_toString]
      rw [ofDigitChars_toString]
      omega
    have hlist : (toString (Int.negSucc n)).toList = '-' :: (toString (n + 1)).toList :=
      String.toList_append
    unfold readInt
    rw [hlist]
    split
    · next hnil => cases hnil
    · next hplus => cases hplus
    · next hminus => exact absurd (List.cons.inj hminus).2 (toString_ne_nil _)
    · next hplus => cases (List.cons.inj hplus).1
    · next hminus =>
      rw [← (List.cons.inj hminus).2, hread]
      rfl
    · next hother => exact absurd rfl (hother _)

end Number

namespace Text

theorem trim_eq_self {s : String} (h : ∀ c ∈ s.toList, isBlank c = false) : trim s = s := by
  have hdrop : ∀ cs : List Char, (∀ c ∈ cs, isBlank c = false) → cs.dropWhile isBlank = cs := by
    intro cs hcs
    cases cs with
    | nil => rfl
    | cons c cs => rw [List.dropWhile_cons_of_neg (by simp [hcs c List.mem_cons_self])]
  have hreverse : ∀ c ∈ s.toList.reverse, isBlank c = false :=
    fun c hc => h c (List.mem_reverse.mp hc)
  rw [trim, trimChars, hdrop _ h, hdrop _ hreverse, List.reverse_reverse, String.ofList_toList]

theorem isBlank_of_isDigit {c : Char} (h : c.isDigit = true) : isBlank c = false := by
  simp only [Char.isDigit, Bool.and_eq_true, decide_eq_true_eq] at h
  obtain ⟨hlow, hhigh⟩ := h
  have hlow' : 48 ≤ c.toNat := UInt32.le_iff_toNat_le.mp hlow
  have hhigh' : c.toNat ≤ 57 := UInt32.le_iff_toNat_le.mp hhigh
  simp only [isBlank, Bool.or_eq_false_iff, Bool.and_eq_false_iff, decide_eq_false_iff_not,
    beq_eq_false_iff_ne]
  omega

theorem trim_toString (n : Nat) : trim (toString n) = toString n :=
  trim_eq_self fun _ hc => isBlank_of_isDigit (Number.isDigit_of_mem_toString hc)

end Text

namespace Value

theorem count_toString {n : Nat} (h : n ≤ Number.maxWord) : count (toString n) = .ok n := by
  rw [count, Text.trim_toString, Number.readNat_toString h]

theorem index_toString {n : Nat} (h : n ≤ Number.maxWord) : index (toString n) = .ok n := by
  rw [index, Text.trim_toString, Number.readNat_toString h]

/-- Slashes before a topic are left out. -/
theorem normalizeTopic_slashes {topic : String} (h : topic.toList.head? ≠ some '/')
    (slashes : Nat) :
    normalizeTopic (String.ofList (List.replicate slashes '/') ++ topic) = topic := by
  have hslashes : ∀ c ∈ List.replicate slashes '/', (c == '/') = true := by
    intro c hc
    rw [List.eq_of_mem_replicate hc]
    rfl
  have htopic : topic.toList.dropWhile (· == '/') = topic.toList := by
    cases hlist : topic.toList with
    | nil => rfl
    | cons c cs =>
      rw [List.dropWhile_cons_of_neg]
      intro hc
      rw [hlist, beq_iff_eq.mp hc] at h
      exact h rfl
  rw [normalizeTopic, String.toList_append, String.toList_ofList,
    List.dropWhile_append_of_pos hslashes, htopic, String.ofList_toList]

end Value

end RackTelemetry
