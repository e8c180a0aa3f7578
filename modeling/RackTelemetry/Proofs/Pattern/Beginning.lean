import RackTelemetry.Proofs.Pattern.Shape

/-!
What a known beginning of a text leaves of a pattern. The parts of the pattern are followed along
the beginning as long as each place allows certain characters only; if one of these does not fit, no
text with that beginning does.
-/

namespace RackTelemetry

namespace Pattern

/-- The parts of a pattern that stand one after another. -/
def parts : Pattern → List Pattern
  | .seq p q => p.parts ++ q.parts
  | p => [p]

/-- A text fits patterns one after another. -/
def FitsAll : List Pattern → List Char → List (Option (List Char)) → Prop
  | [], text, groups => text = [] ∧ groups = []
  | p :: ps, text, groups =>
    ∃ t u g k, text = t ++ u ∧ groups = g ++ k ∧ p.Fits t g ∧ FitsAll ps u k

variable {p : Pattern} {ps qs : List Pattern} {text rest : List Char}
  {groups : List (Option (List Char))}

theorem fitsAll_singleton (h : p.Fits text groups) : FitsAll [p] text groups :=
  ⟨text, [], groups, [], (List.append_nil _).symm, (List.append_nil _).symm, h, rfl, rfl⟩

theorem fitsAll_literal {cs : List Char} :
    FitsAll (.literal cs :: ps) text groups ↔ ∃ u, text = cs ++ u ∧ FitsAll ps u groups := by
  constructor
  · rintro ⟨_, u, _, k, rfl, rfl, ⟨rfl, rfl⟩, hps⟩
    exact ⟨u, rfl, hps⟩
  · rintro ⟨u, rfl, hps⟩
    exact ⟨cs, u, [], groups, rfl, rfl, ⟨rfl, rfl⟩, hps⟩

theorem FitsAll.append {u : List Char} {k : List (Option (List Char))}
    (hps : FitsAll ps text groups) (hqs : FitsAll qs u k) :
    FitsAll (ps ++ qs) (text ++ u) (groups ++ k) := by
  induction ps generalizing text groups with
  | nil =>
    obtain ⟨rfl, rfl⟩ := hps
    exact hqs
  | cons p ps ih =>
    obtain ⟨t, v, g, l, rfl, rfl, hp, hrest⟩ := hps
    exact ⟨t, v ++ u, g, l ++ k, List.append_assoc .., List.append_assoc .., hp, ih hrest⟩

theorem Fits.parts (h : p.Fits text groups) : FitsAll p.parts text groups := by
  induction p generalizing text groups with
  | seq p q ihp ihq =>
    obtain ⟨t, u, g, k, rfl, rfl, hp, hq⟩ := h
    exact (ihp hp).append (ihq hq)
  | _ => exact fitsAll_singleton h

/-- What is left of a literal run and of a beginning that stand at the same place, if they agree. -/
def meetLiteral : List Char → List Char → Option (List Char × List Char)
  | c :: cs, d :: ds => if c = d then meetLiteral cs ds else none
  | cs, ds => some (cs, ds)

theorem meetLiteral_of_append_eq {cs ds u : List Char} (h : ds ++ rest = cs ++ u) :
    ∃ left beyond, meetLiteral cs ds = some (left, beyond) ∧ beyond ++ rest = left ++ u := by
  induction cs generalizing ds with
  | nil => exact ⟨[], ds, by simp [meetLiteral], h⟩
  | cons c cs ih =>
    cases ds with
    | nil => exact ⟨c :: cs, [], rfl, h⟩
    | cons d ds =>
      obtain ⟨rfl, htail⟩ := List.cons.inj h
      rw [meetLiteral, if_pos rfl]
      exact ih htail

/-- Follows patterns along the beginning of a text: what is left of both where the patterns leave
open what stands there, or none if the beginning does not fit. -/
def meet : List Pattern → List Char → Option (List Pattern × List Char)
  | .literal cs :: ps, ds =>
    match meetLiteral cs ds with
    | some ([], ds) => meet ps ds
    | some (cs, ds) => some (.literal cs :: ps, ds)
    | none => none
  | .one set :: ps, d :: ds => if set.has d then meet ps ds else none
  | [], _ :: _ => none
  | ps, ds => some (ps, ds)

/-- Of patterns that fit, those that are left fit what is left. -/
theorem FitsAll.meet {beginning : List Char} (h : FitsAll ps (beginning ++ rest) groups) :
    ∃ left beyond, Pattern.meet ps beginning = some (left, beyond) ∧
      FitsAll left (beyond ++ rest) groups := by
  induction ps generalizing beginning groups with
  | nil =>
    cases beginning with
    | nil => exact ⟨[], [], rfl, h⟩
    | cons d ds => cases h.1
  | cons p ps ih =>
    cases p with
    | literal cs =>
      obtain ⟨u, htext, hps⟩ := fitsAll_literal.mp h
      obtain ⟨left, beyond, hmeet, hrest⟩ := meetLiteral_of_append_eq htext
      rw [Pattern.meet, hmeet]
      cases left with
      | nil =>
        rw [List.nil_append] at hrest
        exact ih (hrest ▸ hps)
      | cons c left =>
        exact ⟨_, _, rfl, fitsAll_literal.mpr ⟨u, hrest, hps⟩⟩
    | one set =>
      cases beginning with
      | nil => exact ⟨_, _, rfl, h⟩
      | cons d ds =>
        obtain ⟨_, u, _, k, htext, rfl, ⟨⟨c, rfl, hc⟩, rfl⟩, hps⟩ := h
        obtain ⟨rfl, rfl⟩ := List.cons.inj htext
        rw [Pattern.meet, if_pos hc]
        exact ih hps
    | _ => exact ⟨_, _, rfl, h⟩

theorem meet_literal_append (cs ds : List Char) :
    meet (.literal cs :: ps) (cs ++ ds) = meet ps ds := by
  have hmeet : meetLiteral cs (cs ++ ds) = some ([], ds) := by
    induction cs with
    | nil => simp [meetLiteral]
    | cons c cs ih => rw [List.cons_append, meetLiteral, if_pos rfl, ih]
  rw [meet, hmeet]

/-- No text with this beginning has captures: the pattern is for a whole text, and the beginning
does not fit. -/
def rejects (p : Pattern) (beginning : List Char) : Bool :=
  match p.body? with
  | some body => body.isPlain && (meet body.parts beginning).isNone
  | none => false

theorem captures?_eq_none_of_rejects {beginning : List Char} (h : p.rejects beginning = true)
    {s : String} (hs : beginning <+: s.toList) : p.captures? s = none := by
  unfold rejects at h
  split at h
  · next body hbody =>
    obtain ⟨hplain, hnone⟩ := Bool.and_eq_true_iff.mp h
    obtain ⟨rest, hrest⟩ := hs
    rw [eq_whole_of_body? hbody]
    cases hcaptures : (whole body).captures? s with
    | none => rfl
    | some params =>
      obtain ⟨groups, hfits, -⟩ := fits_of_captures? hplain hcaptures
      rw [← hrest] at hfits
      obtain ⟨left, beyond, hmeet, -⟩ := hfits.parts.meet
      rw [hmeet] at hnone
      cases hnone
  · cases h

/-- What a pattern leaves of a known beginning fits what follows it. -/
theorem Fits.fitsAll {beginning : List Char} (h : p.Fits (beginning ++ rest) groups)
    (hmeet : Pattern.meet p.parts beginning = some (ps, [])) : FitsAll ps rest groups := by
  obtain ⟨left, beyond, hleft, hrest⟩ := h.parts.meet
  obtain ⟨rfl, rfl⟩ := Prod.mk.inj (Option.some.inj (hmeet.symm.trans hleft))
  exact hrest

theorem fitsAll_of_captures? {body : Pattern} (hplain : body.isPlain = true) {s : String}
    {beginning : List Char} (hs : s.toList = beginning ++ rest)
    (hmeet : meet body.parts beginning = some (ps, [])) {params : List String}
    (h : (whole body).captures? s = some params) :
    ∃ groups, FitsAll ps rest groups ∧
      params = groups.map fun group => String.ofList (group.getD []) := by
  obtain ⟨groups, hfits, hparams⟩ := fits_of_captures? hplain h
  rw [hs] at hfits
  exact ⟨groups, hfits.fitsAll hmeet, hparams⟩

/-- Every text that fits begins with such a character. -/
def begins (may : Char → Bool) : Pattern → Bool
  | .literal (c :: _) => may c
  | .seq p _ => p.begins may
  | .alt p q => p.begins may && q.begins may
  | .group p => p.begins may
  | _ => false

theorem Fits.begins {may : Char → Bool} (h : p.Fits text groups) (hbegins : p.begins may = true) :
    ∃ c rest, text = c :: rest ∧ may c = true := by
  induction p generalizing text groups with
  | literal cs =>
    cases cs with
    | nil => cases hbegins
    | cons c cs => exact ⟨c, cs, h.1, hbegins⟩
  | seq p q ihp =>
    obtain ⟨t, u, g, k, rfl, -, hp, -⟩ := h
    obtain ⟨c, rest, rfl, hc⟩ := ihp hp hbegins
    exact ⟨c, rest ++ u, rfl, hc⟩
  | alt p q ihp ihq =>
    obtain ⟨hleft, hright⟩ := Bool.and_eq_true_iff.mp hbegins
    rcases h with ⟨g, -, hp⟩ | ⟨g, -, hq⟩
    · exact ihp hp hleft
    · exact ihq hq hright
  | group p ih =>
    obtain ⟨g, -, hp⟩ := h
    exact ih hp hbegins
  | _ => cases hbegins

/-! ### Runs of characters of one set -/

/-- Two texts that begin with characters of a set and go on with others begin with the same ones. -/
theorem run_inj {may : Char → Bool} {a b x y : List Char} (ha : ∀ c ∈ a, may c = true)
    (hb : ∀ c ∈ b, may c = true) (hx : ∀ c ∈ x.head?, may c = false)
    (hy : ∀ c ∈ y.head?, may c = false) (h : a ++ x = b ++ y) : a = b ∧ x = y := by
  have hstop : ∀ z : List Char, (∀ c ∈ z.head?, may c = false) → z.takeWhile may = [] := by
    intro z hz
    cases z with
    | nil => rfl
    | cons c z => rw [List.takeWhile_cons_of_neg (by simp [hz c rfl])]
  have htake := congrArg (List.takeWhile may) h
  rw [List.takeWhile_append_of_pos ha, List.takeWhile_append_of_pos hb, hstop x hx, hstop y hy,
    List.append_nil, List.append_nil] at htake
  subst htake
  exact ⟨rfl, List.append_cancel_left h⟩

end Pattern

end RackTelemetry
