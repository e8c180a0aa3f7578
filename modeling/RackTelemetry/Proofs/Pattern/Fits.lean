import RackTelemetry.Pattern.Basic

/-!
What a pattern without anchors matches, said without running it: `Fits` relates a pattern to a text
and to the texts of its groups. Running the pattern finds exactly the fitting ways to split a text,
so a pattern for a whole text matches exactly the texts that fit.
-/

namespace RackTelemetry

theorem CharSet.mem_prefixes {set : CharSet} {cs taken rest : List Char} :
    (taken, rest) ∈ set.prefixes cs ↔ taken ++ rest = cs ∧ ∀ c ∈ taken, set.has c = true := by
  induction cs generalizing taken with
  | nil =>
    simp only [CharSet.prefixes, List.mem_singleton, Prod.mk.injEq, List.append_eq_nil_iff]
    constructor
    · rintro ⟨rfl, rfl⟩
      exact ⟨⟨rfl, rfl⟩, by simp⟩
    · rintro ⟨h, -⟩
      exact h
  | cons x cs ih =>
    rw [CharSet.prefixes]
    cases taken with
    | nil =>
      split <;> simp
    | cons y taken =>
      split
      · next hx =>
        simp only [List.mem_append, List.mem_map, Prod.mk.injEq, Prod.exists, List.mem_cons,
          List.not_mem_nil, reduceCtorEq, false_and, or_false, List.cons_append, List.cons.injEq,
          forall_eq_or_imp]
        constructor
        · rintro ⟨t, r, hmem, ⟨rfl, rfl⟩, rfl⟩
          obtain ⟨happ, hall⟩ := ih.mp hmem
          exact ⟨⟨rfl, happ⟩, hx, hall⟩
        · rintro ⟨⟨rfl, happ⟩, -, hall⟩
          exact ⟨taken, rest, ih.mpr ⟨happ, hall⟩, ⟨rfl, rfl⟩, rfl⟩
      · next hx =>
        simp only [List.mem_cons, Prod.mk.injEq, reduceCtorEq, false_and, List.not_mem_nil,
          or_false, List.cons_append, List.cons.injEq, forall_eq_or_imp, false_iff]
        rintro ⟨⟨rfl, -⟩, hhas, -⟩
        exact hx hhas

namespace Pattern

def isPlain : Pattern → Bool
  | .start | .finish => false
  | .seq p q => p.isPlain && q.isPlain
  | .alt p q => p.isPlain && q.isPlain
  | .optional p => p.isPlain
  | .group p => p.isPlain
  | .empty | .literal _ | .one _ | .many .. => true

/-- A text fits a pattern with these texts of the groups. Nothing fits an anchor. -/
def Fits : Pattern → List Char → List (Option (List Char)) → Prop
  | .empty, text, groups => text = [] ∧ groups = []
  | .literal cs, text, groups => text = cs ∧ groups = []
  | .one set, text, groups => (∃ c, text = [c] ∧ set.has c = true) ∧ groups = []
  | .many set least, text, groups =>
    (least ≤ text.length ∧ ∀ c ∈ text, set.has c = true) ∧ groups = []
  | .start, _, _ => False
  | .finish, _, _ => False
  | .seq p q, text, groups =>
    ∃ t u g k, text = t ++ u ∧ groups = g ++ k ∧ p.Fits t g ∧ q.Fits u k
  | .alt p q, text, groups =>
    (∃ g, groups = g ++ List.replicate q.groups none ∧ p.Fits text g) ∨
      ∃ g, groups = List.replicate p.groups none ++ g ∧ q.Fits text g
  | .optional p, text, groups =>
    p.Fits text groups ∨ text = [] ∧ groups = List.replicate p.groups none
  | .group p, text, groups => ∃ g, groups = some text :: g ∧ p.Fits text g

theorem fits_append {p q : Pattern} {text : List Char} {groups : List (Option (List Char))} :
    (p ++ q).Fits text groups ↔
      ∃ t u g k, text = t ++ u ∧ groups = g ++ k ∧ p.Fits t g ∧ q.Fits u k := Iff.rfl

theorem fits_number {text : List Char} {groups : List (Option (List Char))} :
    number.Fits text groups ↔
      groups = [some text] ∧ text ≠ [] ∧ ∀ c ∈ text, CharSet.digit.has c = true := by
  constructor
  · rintro ⟨g, rfl, ⟨hleast, hdigits⟩, rfl⟩
    exact ⟨rfl, List.ne_nil_of_length_pos hleast, hdigits⟩
  · rintro ⟨rfl, hne, hdigits⟩
    exact ⟨[], rfl, ⟨List.length_pos_iff.mpr hne, hdigits⟩, rfl⟩

/-! ### Running a plain pattern -/

section

-- Their equations are derived here, once for all the lemmas of the section.
attribute [local simp] run Fits

/-- Running the pattern finds the fitting beginnings of a text. -/
def FindsFits (p : Pattern) : Prop :=
  ∀ (atStart : Bool) (cs : List Char) (m : Match),
    m ∈ p.run atStart cs ↔ m.taken ++ m.rest = cs ∧ p.Fits m.taken m.captures

theorem findsFits_empty : FindsFits .empty := by
  rintro atStart cs ⟨taken, captures, rest⟩
  simp only [run, List.mem_singleton, Match.mk.injEq, Fits]
  constructor
  · rintro ⟨rfl, rfl, rfl⟩
    exact ⟨rfl, rfl, rfl⟩
  · rintro ⟨rfl, rfl, rfl⟩
    exact ⟨rfl, rfl, rfl⟩

theorem findsFits_literal (text : List Char) : FindsFits (.literal text) := by
  rintro atStart cs ⟨taken, captures, rest⟩
  simp only [run, Fits]
  split
  · next hprefix =>
    have hsplit := List.prefix_iff_eq_append.mp (List.isPrefixOf_iff_prefix.mp hprefix)
    simp only [List.mem_singleton, Match.mk.injEq]
    constructor
    · rintro ⟨rfl, rfl, rfl⟩
      exact ⟨hsplit, rfl, rfl⟩
    · rintro ⟨rfl, rfl, rfl⟩
      exact ⟨rfl, rfl, by simp⟩
  · next hprefix =>
    simp only [List.not_mem_nil, false_iff]
    rintro ⟨rfl, rfl, -⟩
    exact hprefix (List.isPrefixOf_iff_prefix.mpr (List.prefix_append _ _))

theorem findsFits_one (set : CharSet) : FindsFits (.one set) := by
  rintro atStart cs ⟨taken, captures, rest⟩
  cases cs with
  | nil =>
    simp only [run, List.not_mem_nil, Fits, List.append_eq_nil_iff, false_iff]
    rintro ⟨⟨rfl, -⟩, ⟨d, hd, -⟩, -⟩
    cases hd
  | cons c cs =>
    simp only [run, Fits]
    split
    · next hc =>
      simp only [List.mem_singleton, Match.mk.injEq]
      constructor
      · rintro ⟨rfl, rfl, rfl⟩
        exact ⟨rfl, ⟨c, rfl, hc⟩, rfl⟩
      · rintro ⟨happ, ⟨d, rfl, -⟩, rfl⟩
        obtain ⟨rfl, rfl⟩ := List.cons.inj happ
        exact ⟨rfl, rfl, rfl⟩
    · next hc =>
      simp only [List.not_mem_nil, false_iff]
      rintro ⟨happ, ⟨d, rfl, hd⟩, -⟩
      obtain ⟨rfl, -⟩ := List.cons.inj happ
      exact hc hd

theorem findsFits_many (set : CharSet) (least : Nat) : FindsFits (.many set least) := by
  rintro atStart cs ⟨taken, captures, rest⟩
  simp only [run, List.mem_map, List.mem_filter, Prod.exists, Match.mk.injEq, Fits,
    CharSet.mem_prefixes, decide_eq_true_eq]
  constructor
  · rintro ⟨t, r, ⟨⟨happ, hall⟩, hlen⟩, rfl, rfl, rfl⟩
    exact ⟨happ, ⟨hlen, hall⟩, rfl⟩
  · rintro ⟨happ, ⟨hlen, hall⟩, rfl⟩
    exact ⟨taken, rest, ⟨⟨happ, hall⟩, hlen⟩, rfl, rfl, rfl⟩

variable {p q : Pattern}

theorem FindsFits.seq (hp : p.FindsFits) (hq : q.FindsFits) : FindsFits (.seq p q) := by
  rintro atStart cs ⟨taken, captures, rest⟩
  simp only [run, List.mem_flatMap, List.mem_map, Fits]
  constructor
  · rintro ⟨⟨t, g, r⟩, hm, ⟨u, k, r'⟩, hn, heq⟩
    obtain ⟨rfl, rfl, rfl⟩ := Match.mk.inj heq
    obtain ⟨happ, hfits⟩ := (hp _ _ ⟨t, g, r⟩).mp hm
    obtain ⟨happ', hfits'⟩ := (hq _ _ ⟨u, k, r'⟩).mp hn
    refine ⟨?_, t, u, g, k, rfl, rfl, hfits, hfits'⟩
    rw [List.append_assoc, happ', happ]
  · rintro ⟨happ, t, u, g, k, rfl, rfl, hfits, hfits'⟩
    refine ⟨⟨t, g, u ++ rest⟩, (hp _ _ _).mpr ⟨?_, hfits⟩, ⟨u, k, rest⟩,
      (hq _ _ _).mpr ⟨rfl, hfits'⟩, rfl⟩
    rw [← happ, List.append_assoc]

theorem FindsFits.alt (hp : p.FindsFits) (hq : q.FindsFits) : FindsFits (.alt p q) := by
  rintro atStart cs ⟨taken, captures, rest⟩
  simp only [run, List.mem_append, List.mem_map, Fits]
  constructor
  · rintro (⟨⟨t, g, r⟩, hm, heq⟩ | ⟨⟨t, g, r⟩, hm, heq⟩)
    · obtain ⟨rfl, rfl, rfl⟩ := Match.mk.inj heq
      obtain ⟨happ, hfits⟩ := (hp _ _ ⟨t, g, r⟩).mp hm
      exact ⟨happ, .inl ⟨g, rfl, hfits⟩⟩
    · obtain ⟨rfl, rfl, rfl⟩ := Match.mk.inj heq
      obtain ⟨happ, hfits⟩ := (hq _ _ ⟨t, g, r⟩).mp hm
      exact ⟨happ, .inr ⟨g, rfl, hfits⟩⟩
  · rintro ⟨happ, ⟨g, rfl, hfits⟩ | ⟨g, rfl, hfits⟩⟩
    · exact .inl ⟨⟨taken, g, rest⟩, (hp _ _ _).mpr ⟨happ, hfits⟩, rfl⟩
    · exact .inr ⟨⟨taken, g, rest⟩, (hq _ _ _).mpr ⟨happ, hfits⟩, rfl⟩

theorem FindsFits.optional (hp : p.FindsFits) : FindsFits (.optional p) := by
  rintro atStart cs ⟨taken, captures, rest⟩
  simp only [run, List.mem_append, List.mem_singleton, Match.mk.injEq, Fits, hp _ _ _]
  constructor
  · rintro (⟨happ, hfits⟩ | ⟨rfl, rfl, rfl⟩)
    · exact ⟨happ, .inl hfits⟩
    · exact ⟨rfl, .inr ⟨rfl, rfl⟩⟩
  · rintro ⟨happ, hfits | ⟨rfl, rfl⟩⟩
    · exact .inl ⟨happ, hfits⟩
    · exact .inr ⟨rfl, rfl, happ⟩

theorem FindsFits.group (hp : p.FindsFits) : FindsFits (.group p) := by
  rintro atStart cs ⟨taken, captures, rest⟩
  simp only [run, List.mem_map, Fits]
  constructor
  · rintro ⟨⟨t, g, r⟩, hm, heq⟩
    obtain ⟨rfl, rfl, rfl⟩ := Match.mk.inj heq
    obtain ⟨happ, hfits⟩ := (hp _ _ ⟨t, g, r⟩).mp hm
    exact ⟨happ, g, rfl, hfits⟩
  · rintro ⟨happ, g, rfl, hfits⟩
    exact ⟨⟨taken, g, rest⟩, (hp _ _ _).mpr ⟨happ, hfits⟩, rfl⟩

theorem findsFits_of_isPlain {p : Pattern} (hp : p.isPlain) : p.FindsFits := by
  induction p with
  | empty => exact findsFits_empty
  | literal text => exact findsFits_literal text
  | one set => exact findsFits_one set
  | many set least => exact findsFits_many set least
  | start => cases hp
  | finish => cases hp
  | seq p q ihp ihq =>
    obtain ⟨hplain, hplain'⟩ := Bool.and_eq_true_iff.mp hp
    exact (ihp hplain).seq (ihq hplain')
  | alt p q ihp ihq =>
    obtain ⟨hplain, hplain'⟩ := Bool.and_eq_true_iff.mp hp
    exact (ihp hplain).alt (ihq hplain')
  | optional p ih => exact (ih hp).optional
  | group p ih => exact (ih hp).group

end

/-! ### Patterns for a whole text -/

theorem run_whole_false (p : Pattern) (cs : List Char) : (whole p).run false cs = [] := rfl

/-- A pattern for a whole text is only ever found at its start. -/
theorem search_whole (p : Pattern) (cs : List Char) :
    (whole p).search true cs = ((whole p).run true cs).head? := by
  have hlater : ∀ rest, (whole p).search false rest = none := by
    intro rest
    induction rest with
    | nil => rfl
    | cons c rest ih => simp only [search, run_whole_false, List.head?_nil, Option.none_or, ih]
  cases cs with
  | nil => rfl
  | cons c cs => simp only [search, hlater, Option.or_none]

/-- Running a pattern for a whole text finds the ways in which the text fits. -/
theorem mem_run_whole {p : Pattern} (hp : p.isPlain) {cs : List Char} {m : Match} :
    m ∈ (whole p).run true cs ↔ m.taken = cs ∧ m.rest = [] ∧ p.Fits cs m.captures := by
  obtain ⟨taken, captures, rest⟩ := m
  have hrun : (whole p).run true cs = (p.run true cs).flatMap fun m =>
      if m.rest.isEmpty then [⟨m.taken, m.captures, m.rest⟩] else [] := by
    show (Pattern.seq (.seq .start p) .finish).run true cs = _
    simp only [run, if_true, List.flatMap_cons, List.flatMap_nil, List.append_nil, List.isEmpty_nil,
      Bool.and_true, List.nil_append, List.map_id']
    congr 1
    funext m
    split <;> simp
  rw [hrun, List.mem_flatMap]
  constructor
  · rintro ⟨m, hm, hmem⟩
    split at hmem
    · next hrest =>
      obtain ⟨rfl, rfl, rfl⟩ := Match.mk.inj (List.mem_singleton.mp hmem)
      obtain ⟨happ, hfits⟩ := (findsFits_of_isPlain hp _ _ _).mp hm
      rw [List.isEmpty_iff.mp hrest, List.append_nil] at happ
      exact ⟨happ, List.isEmpty_iff.mp hrest, happ ▸ hfits⟩
    · cases hmem
  · rintro ⟨rfl, rfl, hfits⟩
    have hrun := (findsFits_of_isPlain hp true taken ⟨taken, captures, []⟩).mpr
      ⟨List.append_nil _, hfits⟩
    exact ⟨⟨taken, captures, []⟩, hrun, by simp⟩

/-- The texts of the groups that are read off a whole text are texts that it fits with. -/
theorem fits_of_captures? {p : Pattern} (hp : p.isPlain) {s : String} {params : List String}
    (h : (whole p).captures? s = some params) :
    ∃ groups, p.Fits s.toList groups ∧
      params = groups.map fun group => String.ofList (group.getD []) := by
  rw [captures?, search_whole, Option.map_eq_some_iff] at h
  obtain ⟨m, hm, rfl⟩ := h
  exact ⟨m.captures, ((mem_run_whole hp).mp (List.mem_of_head? hm)).2.2, rfl⟩

theorem isSome_captures? (p : Pattern) (s : String) : (p.captures? s).isSome = p.isMatch s := by
  rw [captures?, Option.isSome_map, isMatch]

theorem isSome_captures?_of_fits {p : Pattern} (hp : p.isPlain) {s : String}
    {groups : List (Option (List Char))} (h : p.Fits s.toList groups) :
    ((whole p).captures? s).isSome := by
  rw [captures?, Option.isSome_map, search_whole, List.isSome_head?]
  have hmem : (⟨s.toList, groups, []⟩ : Match) ∈ (whole p).run true s.toList :=
    (mem_run_whole hp).mpr ⟨rfl, rfl, h⟩
  exact List.ne_nil_of_mem hmem

/-- A text that fits in one way only has the texts of its groups read off. -/
theorem captures?_of_fits {p : Pattern} (hp : p.isPlain) {s : String}
    {groups : List (Option (List Char))} (h : p.Fits s.toList groups)
    (hunique : ∀ other, p.Fits s.toList other → other = groups) :
    (whole p).captures? s = some (groups.map fun group => String.ofList (group.getD [])) := by
  obtain ⟨params, hparams⟩ := Option.isSome_iff_exists.mp (isSome_captures?_of_fits hp h)
  obtain ⟨other, hother, rfl⟩ := fits_of_captures? hp hparams
  rw [hparams, hunique other hother]

end Pattern

end RackTelemetry
