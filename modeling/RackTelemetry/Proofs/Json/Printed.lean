import RackTelemetry.Proofs.Json.Quoted
import RackTelemetry.Proofs.Number.Reading

/-!
Reading a printed document gives the document back, if it has no double-precision numbers: these are
printed so that the nearest number is meant, and reading comes only close to the nearest one.
Everything else is written without a choice. So every name and every text stand in some message.
-/

namespace RackTelemetry.Json

/-- The document has no double-precision numbers, its integers are of 64 bits, the members of an
object have distinct names, and at most `depth` containers lie inside each other. -/
def isPlain : Nat → Json → Bool
  | _, .null | _, .bool _ | _, .text _ => true
  | _, .integer i => decide (-(Number.maxInt + 1 : Int) ≤ i) && decide (i ≤ Number.maxWord)
  | _, .real _ | 0, .list _ | 0, .object _ => false
  | depth + 1, .list items => items.all (isPlain depth)
  | depth + 1, .object members =>
    decide (members.map Prod.fst).Nodup && members.all fun member => isPlain depth member.2

/-! ### Integers -/

/-- No number goes on in this input. -/
def EndsNumber (rest : List Char) : Prop :=
  ∀ c ∈ rest.head?, c.isDigit = false ∧ c ≠ '.' ∧ c ≠ 'e' ∧ c ≠ 'E'

theorem endsNumber_nil : EndsNumber [] := nofun

theorem endsNumber_cons {c : Char} {rest : List Char}
    (h : c.isDigit = false ∧ c ≠ '.' ∧ c ≠ 'e' ∧ c ≠ 'E') : EndsNumber (c :: rest) := by
  intro d hd
  obtain rfl := Option.some.inj hd
  exact h

theorem takeWord_digits {cs : List Char} {sum : Nat}
    (h : Nat.ofDigitChars 10 cs sum ≤ Number.maxWord) :
    takeWord sum cs = (Nat.ofDigitChars 10 cs sum, []) := by
  induction cs generalizing sum with
  | nil => rfl
  | cons c cs ih =>
    rw [Nat.ofDigitChars_cons, Nat.mul_comm] at h ⊢
    have hstep := Number.le_ofDigitChars cs (sum * 10 + (c.toNat - '0'.toNat))
    rw [takeWord, if_pos (Nat.le_trans hstep h), ih h]

/-- Only zero is written with a zero in front. -/
theorem head?_toDigits {n : Nat} (h : n ≠ 0) : (Nat.toDigits 10 n).head? ≠ some '0' := by
  induction n using Nat.strongRecOn with
  | ind n ih =>
    rw [Nat.toDigits_eq_if (by decide)]
    split
    · intro hzero
      exact h (Nat.digitChar_eq_zero.mp (Option.some.inj hzero))
    · rw [List.head?_append, Option.or_of_isSome (by simp [Nat.toDigits_ne_nil])]
      exact ih (n / 10) (by omega) (by omega)

theorem takeWhile_digits (n : Nat) {rest : List Char} (hrest : EndsNumber rest) :
    ((toString n).toList ++ rest).takeWhile Char.isDigit = (toString n).toList ∧
      ((toString n).toList ++ rest).dropWhile Char.isDigit = rest := by
  have hdigits : ∀ c ∈ (toString n).toList, c.isDigit = true :=
    fun c hc => Number.isDigit_of_mem_toString hc
  have htake : rest.takeWhile Char.isDigit = [] := by
    cases rest with
    | nil => rfl
    | cons c rest => rw [List.takeWhile_cons, (hrest c rfl).1]; rfl
  have hdrop : rest.dropWhile Char.isDigit = rest := by
    cases rest with
    | nil => rfl
    | cons c rest => rw [List.dropWhile_cons, (hrest c rfl).1]; rfl
  rw [List.takeWhile_append_of_pos hdigits, List.dropWhile_append_of_pos hdigits, htake, hdrop,
    List.append_nil]
  exact ⟨rfl, rfl⟩

/-- A number of digits only is read as a whole number, with or without a sign. -/
theorem readNumber_digits (n : Nat) {rest : List Char} (hrest : EndsNumber rest) :
    readNumber .strict ((toString n).toList ++ rest) =
        (wholeNumber false (toString n).toList).map (·, rest) ∧
      readNumber .strict ('-' :: ((toString n).toList ++ rest)) =
        (wholeNumber true (toString n).toList).map (·, rest) := by
  obtain ⟨htake, hdrop⟩ := takeWhile_digits n hrest
  have hdigits : (toString n).toList = Nat.toDigits 10 n := by
    rw [Nat.toString_eq_repr, Nat.toList_repr]
  have hzero : ((toString n).toList.isEmpty || ((toString n).toList.head? = some '0' &&
      (toString n).toList.length != 1)) = false := by
    rw [hdigits]
    by_cases hn : n = 0
    · rw [hn]
      rfl
    · simp [Nat.toDigits_ne_nil, head?_toDigits hn]
  have hsign : ∀ cs, (toString n).toList ++ rest ≠ '-' :: cs := by
    intro cs hcs
    obtain ⟨d, ds, hd⟩ := List.exists_cons_of_ne_nil (Number.toString_ne_nil n)
    have hdigit := Number.isDigit_of_mem_toString (hd ▸ List.mem_cons_self : d ∈ _)
    rw [hd] at hcs
    obtain rfl := (List.cons.inj hcs).1
    exact absurd hdigit (by decide)
  have hpoint : ∀ cs, rest ≠ '.' :: cs := by
    rintro cs rfl
    exact (hrest '.' rfl).2.1 rfl
  cases rest with
  | nil =>
    simp only [readNumber, htake, hdrop, hzero]
    constructor
    · cases wholeNumber false (toString n).toList <;> rfl
    · cases wholeNumber true (toString n).toList <;> rfl
  | cons c after =>
    obtain ⟨-, -, hlower, hupper⟩ := hrest c rfl
    simp only [readNumber, htake, hdrop, hzero, Option.bind_eq_bind, Option.bind_some, hlower,
      hupper, or_self, if_false]
    constructor
    · cases wholeNumber false (toString n).toList <;> rfl
    · cases wholeNumber true (toString n).toList <;> rfl

/-- An integer of 64 bits is read as itself. -/
theorem readNumber_integer {i : Int} (hmin : -(Number.maxInt + 1 : Int) ≤ i)
    (hmax : i ≤ Number.maxWord) {rest : List Char} (hrest : EndsNumber rest) :
    readNumber .strict ((toString i).toList ++ rest) = some (.integer i, rest) := by
  cases i with
  | ofNat n =>
    have hword : takeWord 0 (toString n).toList = (n, []) := by
      rw [takeWord_digits, Number.ofDigitChars_toString]
      rw [Number.ofDigitChars_toString]
      exact Int.ofNat_le.mp hmax
    show readNumber .strict ((toString n).toList ++ rest) = _
    rw [(readNumber_digits n hrest).1, wholeNumber, hword]
    rfl
  | negSucc n =>
    have hbound : n + 1 ≤ Number.maxInt + 1 := by omega
    have hword : takeWord 0 (toString (n + 1)).toList = (n + 1, []) := by
      rw [takeWord_digits, Number.ofDigitChars_toString]
      rw [Number.ofDigitChars_toString]
      exact Nat.le_trans hbound (by decide)
    have hlist : (toString (Int.negSucc n)).toList = '-' :: (toString (n + 1)).toList :=
      String.toList_append
    have hsmall : ¬ (n + 1 = 0 ∨ Number.maxInt + 1 < n + 1) := by omega
    rw [hlist, List.cons_append, (readNumber_digits (n + 1) hrest).2, wholeNumber, hword]
    simp only [List.isEmpty_nil, Bool.not_true, Bool.false_eq_true, if_false, if_true, hsmall]
    rfl

/-! ### Values without parts -/

theorem skipSpace_cons {c : Char} {cs : List Char}
    (h : (c = ' ' || c = '\t' || c = '\n' || c = '\r') = false) :
    skipSpace (c :: cs) = c :: cs := by
  rw [skipSpace, List.dropWhile_cons, h]
  rfl

/-- The first character of a number. -/
def BeginsNumber (c : Char) : Prop := c.isDigit = true ∨ c = '-'

/-- Characters that do not begin a number: white space, and what begins or ends another value. -/
def notNumeric : List Char := [' ', '\t', '\n', '\r', 'n', 't', 'f', '"', '[', ']', '\x7b', '\x7d']

theorem BeginsNumber.ne {c : Char} (h : BeginsNumber c) : ∀ d ∈ notNumeric, c ≠ d := by
  have hall : (notNumeric.all fun d => !d.isDigit && d != '-') = true := by decide
  rintro d hd rfl
  have hc := List.all_eq_true.mp hall c hd
  rw [Bool.and_eq_true, Bool.not_eq_true', bne_iff_ne] at hc
  rcases h with hdigit | hminus
  · exact absurd hdigit (by rw [hc.1]; decide)
  · exact hc.2 hminus

theorem readValue_number {c : Char} (hc : BeginsNumber c) (fuel depth : Nat) (cs : List Char) :
    readValue .strict (fuel + 1) depth (c :: cs) = readNumber .strict (c :: cs) := by
  have hother := hc.ne
  simp only [notNumeric, List.forall_mem_cons] at hother
  obtain ⟨hspace, htab, hfeed, hreturn, hn, ht, hf, hquote, hlist, -, hobject, -⟩ := hother
  rw [readValue, skipSpace_cons (by simp [hspace, htab, hfeed, hreturn])]
  split
  · next h => exact absurd (List.cons.inj h).1 hn
  · next h => exact absurd (List.cons.inj h).1 ht
  · next h => exact absurd (List.cons.inj h).1 hf
  · next h => exact absurd (List.cons.inj h).1 hquote
  · next h => exact absurd (List.cons.inj h).1 hlist
  · next h => exact absurd (List.cons.inj h).1 hobject
  · rfl

theorem exists_toString (i : Int) : ∃ c cs, (toString i).toList = c :: cs ∧ BeginsNumber c := by
  cases i with
  | ofNat n =>
    obtain ⟨c, cs, hcs⟩ := List.exists_cons_of_ne_nil (Number.toString_ne_nil n)
    exact ⟨c, cs, hcs, .inl (Number.isDigit_of_mem_toString (hcs ▸ List.mem_cons_self))⟩
  | negSucc n => exact ⟨'-', (toString (n + 1)).toList, String.toList_append, .inr rfl⟩

/-- The first character of a document that has no double-precision numbers. -/
theorem exists_chars {depth : Nat} {document : Json} (h : document.isPlain depth = true) :
    ∃ c cs, document.chars = c :: cs ∧ c ≠ ']' ∧ c ≠ '\x7d' ∧
      (c = ' ' || c = '\t' || c = '\n' || c = '\r') = false := by
  cases document with
  | null => exact ⟨_, _, rfl, by decide, by decide, rfl⟩
  | bool b => cases b <;> exact ⟨_, _, rfl, by decide, by decide, rfl⟩
  | integer i =>
    obtain ⟨c, cs, hcs, hc⟩ := exists_toString i
    have hother := hc.ne
    simp only [notNumeric, List.forall_mem_cons] at hother
    obtain ⟨hspace, htab, hfeed, hreturn, -, -, -, -, -, hlist, -, hobject, -⟩ := hother
    exact ⟨c, cs, hcs, hlist, hobject, by simp [hspace, htab, hfeed, hreturn]⟩
  | real x => cases depth <;> cases h
  | text s => exact ⟨_, _, toList_quote s, by decide, by decide, rfl⟩
  | list items => cases items <;> exact ⟨_, _, rfl, by decide, by decide, rfl⟩
  | object members => cases members <;> exact ⟨_, _, rfl, by decide, by decide, rfl⟩

/-- A value that is no container is read whatever containers may follow. -/
theorem readValue_leaf {document : Json} (h : document.isPlain 0 = true) (fuel depth : Nat)
    {rest : List Char} (hrest : EndsNumber rest) :
    readValue .strict (fuel + 1) depth (document.chars ++ rest) = some (document, rest) := by
  cases document with
  | null => rfl
  | bool b => cases b <;> rfl
  | integer i =>
    obtain ⟨c, cs, hcs, hc⟩ := exists_toString i
    simp only [isPlain, Bool.and_eq_true, decide_eq_true_eq] at h
    have hread := readNumber_integer h.1 h.2 hrest
    rw [chars]
    rw [hcs, List.cons_append] at hread ⊢
    rw [readValue_number hc, hread]
  | real x => cases h
  | text s =>
    obtain ⟨after, hquote, hread⟩ := readString_quote .strict s rest
    rw [chars, hquote, readValue, skipSpace_cons rfl]
    simp only [hread, Option.map_some]
  | list items => cases h
  | object members => cases h

/-! ### Containers -/

/-- Every document with at most `depth` containers inside each other is read back in front of other
input. -/
def ReadBack (depth : Nat) : Prop :=
  ∀ document : Json, document.isPlain depth = true → ∀ fuel, document.chars.length ≤ fuel →
    ∀ rest, EndsNumber rest →
      readValue .strict fuel depth (document.chars ++ rest) = some (document, rest)

section Containers

variable {depth : Nat} (hread : ReadBack depth)
include hread

theorem readItems_chars (item : Json) (items : List Json) (fuel : Nat) (rest : List Char)
    (hitems : ∀ x ∈ item :: items, x.isPlain depth = true)
    (hfuel : (item.chars ++ charsOfItems items).length ≤ fuel) :
    readItems .strict fuel depth (item.chars ++ (charsOfItems items ++ rest)) =
      some (item :: items, rest) := by
  have hplain := hitems item List.mem_cons_self
  induction items generalizing item fuel with
  | nil =>
    rw [charsOfItems, List.length_append, List.length_singleton] at hfuel
    obtain ⟨fuel, rfl⟩ := Nat.exists_eq_add_one_of_ne_zero (n := fuel) (by omega)
    have hitem := hread item hplain fuel (by omega) (']' :: rest) (endsNumber_cons (by decide))
    rw [charsOfItems, List.singleton_append, readItems, hitem]
    simp [skipSpace_cons]
  | cons next items ih =>
    rw [charsOfItems, List.length_append, List.length_cons] at hfuel
    obtain ⟨fuel, rfl⟩ := Nat.exists_eq_add_one_of_ne_zero (n := fuel) (by omega)
    have hitem := hread item hplain fuel (by omega)
      (',' :: (next.chars ++ (charsOfItems items ++ rest))) (endsNumber_cons (by decide))
    have hrest : ∀ x ∈ next :: items, x.isPlain depth = true :=
      fun x hx => hitems x (List.mem_cons_of_mem _ hx)
    have hnext := ih next fuel hrest (by omega) (hrest next List.mem_cons_self)
    rw [charsOfItems, List.cons_append, List.append_assoc, readItems, hitem]
    simp [skipSpace_cons, hnext]

omit hread in
theorem put_of_notMem {name : String} {members : List (String × Json)}
    (h : name ∉ members.map Prod.fst) (value : Json) :
    put name value members = members ++ [(name, value)] := by
  induction members with
  | nil => rfl
  | cons member members ih =>
    rw [List.map_cons, List.mem_cons, not_or] at h
    rw [put, if_neg (Ne.symm h.1), ih h.2, List.cons_append]

/-- One member is read, and the character after it decides whether another one follows. -/
theorem readMembers_member {before : List (String × Json)} {name : String} {value : Json}
    (hname : name ∉ before.map Prod.fst) (hvalue : value.isPlain depth = true) (fuel : Nat)
    (hfuel : value.chars.length ≤ fuel) (rest : List Char) :
    readMembers .strict (fuel + 1) depth before
        ((quote name).toList ++ ':' :: (value.chars ++ ',' :: rest)) =
        readMembers .strict fuel depth (before ++ [(name, value)]) rest ∧
      readMembers .strict (fuel + 1) depth before
        ((quote name).toList ++ ':' :: (value.chars ++ '\x7d' :: rest)) =
        some (before ++ [(name, value)], rest) := by
  constructor
  · obtain ⟨after, hquote, hafter⟩ :=
      readString_quote .strict name (':' :: (value.chars ++ ',' :: rest))
    have hread' := hread value hvalue fuel hfuel (',' :: rest) (endsNumber_cons (by decide))
    rw [hquote, readMembers, skipSpace_cons rfl]
    simp [hafter, skipSpace_cons, hread', put_of_notMem hname]
  · obtain ⟨after, hquote, hafter⟩ :=
      readString_quote .strict name (':' :: (value.chars ++ '\x7d' :: rest))
    have hread' := hread value hvalue fuel hfuel ('\x7d' :: rest) (endsNumber_cons (by decide))
    rw [hquote, readMembers, skipSpace_cons rfl]
    simp [hafter, skipSpace_cons, hread', put_of_notMem hname]

theorem readMembers_chars (before : List (String × Json)) (name : String) (value : Json)
    (members : List (String × Json)) (fuel : Nat) (rest : List Char)
    (hnames : ((before ++ (name, value) :: members).map Prod.fst).Nodup)
    (hmembers : ∀ member ∈ (name, value) :: members, member.2.isPlain depth = true)
    (hfuel : (value.chars ++ charsOfMembers members).length ≤ fuel) :
    readMembers .strict fuel depth before
        ((quote name).toList ++ ':' :: (value.chars ++ (charsOfMembers members ++ rest))) =
      some (before ++ (name, value) :: members, rest) := by
  have hname : name ∉ before.map Prod.fst := by
    rw [List.map_append, List.nodup_append] at hnames
    exact fun hmem => hnames.2.2 name hmem name List.mem_cons_self rfl
  have hvalue : value.isPlain depth = true := hmembers _ List.mem_cons_self
  induction members generalizing before name value fuel with
  | nil =>
    rw [charsOfMembers, List.length_append, List.length_singleton] at hfuel
    obtain ⟨fuel, rfl⟩ := Nat.exists_eq_add_one_of_ne_zero (n := fuel) (by omega)
    exact (readMembers_member hread hname hvalue fuel (by omega) rest).2
  | cons next members ih =>
    obtain ⟨nextName, nextValue⟩ := next
    rw [charsOfMembers, List.length_append, List.length_cons, List.length_append,
      List.length_cons] at hfuel
    obtain ⟨fuel, rfl⟩ := Nat.exists_eq_add_one_of_ne_zero (n := fuel) (by omega)
    have hmember := (readMembers_member hread hname hvalue fuel (by omega)
      ((quote nextName).toList ++
        ':' :: (nextValue.chars ++ (charsOfMembers members ++ rest)))).1
    have hnames' : (((before ++ [(name, value)]) ++ (nextName, nextValue) :: members).map
        Prod.fst).Nodup := by
      rwa [List.append_assoc, List.singleton_append]
    have hname' : nextName ∉ (before ++ [(name, value)]).map Prod.fst := by
      rw [List.map_append, List.nodup_append] at hnames'
      exact fun hmem => hnames'.2.2 nextName hmem nextName List.mem_cons_self rfl
    have hrest : ∀ member ∈ (nextName, nextValue) :: members, member.2.isPlain depth = true :=
      fun member hmember => hmembers member (List.mem_cons_of_mem _ hmember)
    have hnext := ih (before ++ [(name, value)]) nextName nextValue fuel hnames' hrest (by omega)
      hname' (hrest _ List.mem_cons_self)
    rw [List.append_assoc, List.singleton_append] at hnext
    rw [← hnext, ← hmember, charsOfMembers]
    simp

end Containers

/-- Documents are read back, by induction on how many containers may lie inside each other. -/
theorem readBack (depth : Nat) : ReadBack depth := by
  induction depth with
  | zero =>
    intro document h fuel hfuel rest hrest
    obtain ⟨c, cs, hcs, -⟩ := exists_chars h
    rw [hcs, List.length_cons] at hfuel
    obtain ⟨fuel, rfl⟩ := Nat.exists_eq_add_one_of_ne_zero (n := fuel) (by omega)
    exact readValue_leaf h fuel 0 hrest
  | succ depth ih =>
    intro document h fuel hfuel rest hrest
    obtain ⟨c, cs, hcs, -⟩ := exists_chars h
    have hpositive : fuel ≠ 0 := by
      rw [hcs, List.length_cons] at hfuel
      omega
    obtain ⟨fuel, rfl⟩ := Nat.exists_eq_add_one_of_ne_zero hpositive
    cases document with
    | list items =>
      cases items with
      | nil => rfl
      | cons item items =>
        have hitems : ∀ x ∈ item :: items, x.isPlain depth = true := List.all_eq_true.mp h
        rw [chars, List.length_cons] at hfuel
        have hread := readItems_chars ih item items fuel rest hitems (by omega)
        obtain ⟨c, cs, hcs, hclose, -, hspace⟩ := exists_chars (hitems item List.mem_cons_self)
        rw [chars, List.cons_append, List.append_assoc, readValue, skipSpace_cons rfl]
        rw [hcs, List.cons_append] at hread ⊢
        simp [skipSpace_cons hspace, hclose, hread]
    | object members =>
      cases members with
      | nil => rfl
      | cons member members =>
        obtain ⟨name, value⟩ := member
        obtain ⟨hnames, hmembers⟩ := Bool.and_eq_true_iff.mp h
        rw [chars, List.length_cons, List.length_append, List.length_cons] at hfuel
        have hread := readMembers_chars ih [] name value members fuel rest
          (of_decide_eq_true hnames) (List.all_eq_true.mp hmembers) (by omega)
        rw [chars, List.cons_append, List.append_assoc, List.cons_append, List.append_assoc,
          readValue, skipSpace_cons rfl]
        rw [toList_quote, List.cons_append] at hread ⊢
        simp only [Nat.succ_ne_zero, if_false]
        rw [skipSpace_cons rfl]
        show (readMembers .strict fuel depth [] _).map _ = _
        rw [hread]
        rfl
    | _ => exact readValue_leaf (by exact h) fuel (depth + 1) hrest

/-- The text of a document without double-precision numbers is read as the document. -/
theorem ofString?_print {document : Json} (h : document.isPlain depthLimit = true) :
    ofString? document.print = some document := by
  have hread := readBack depthLimit document h (stepsFor document.chars)
    (by rw [stepsFor]; omega) [] endsNumber_nil
  rw [List.append_nil] at hread
  rw [ofString?, print, String.toList_ofList, ofChars?, hread]
  rfl

/-- The bytes of a text are read as the text. -/
theorem ofBytes?_toUTF8 (s : String) : ofBytes? s.toUTF8 = ofString? s := by
  have hvalid : String.fromUTF8? s.toUTF8 = some s := dif_pos s.isValidUTF8
  rw [ofBytes?, hvalid, Option.bind_some]

/-! ### A document with one member -/

/-- The text of an object that gives one name a text. -/
def memberText (name value : String) : String :=
  "\x7b" ++ quote name ++ ":" ++ quote value ++ "\x7d"

theorem ofString?_memberText (name value : String) :
    ofString? (memberText name value) = some (.object [(name, .text value)]) := by
  have hprint : memberText name value = (object [(name, .text value)]).print := by
    rw [← String.toList_inj]
    simp [memberText, print, chars, charsOfMembers, String.toList_append]
  rw [hprint]
  exact ofString?_print rfl

end RackTelemetry.Json
