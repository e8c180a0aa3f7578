import RackTelemetry.Proofs.Pattern.Steps
import RackTelemetry.Proofs.Topic.Contract
import RackTelemetry.Proofs.Topic.DevicePath

/-!
Looking up a path among the rules of the card. Below the root every rule is a path of steps, and the
steps of any two rules exclude each other, so at most one rule matches a path, in whatever order
they are tried. A rule matches exactly the paths that are made from its pattern by putting texts in
the place of its groups, and captures those texts.
-/

namespace RackTelemetry

namespace Pattern

/-! ### Texts in the place of groups -/

/-- The groups of parts that stand one after another. -/
def places : List Pattern → List Pattern
  | [] => []
  | .group p :: ps => p :: places ps
  | _ :: ps => places ps

/-- The text of parts one after another, with a character in the place of an open one and texts in
the place of the groups. -/
def fill (point : Char) : List Pattern → List String → List Char
  | [], _ => []
  | .literal cs :: ps, params => cs ++ fill point ps params
  | .one _ :: ps, params => point :: fill point ps params
  | .group _ :: ps, param :: params => param.toList ++ fill point ps params
  | _ :: ps, params => fill point ps params

/-- The text of a pattern with a character in the place of the open one and texts in the place of
the groups. -/
def filled (p : Pattern) (point : Char) (params : List String) : String :=
  String.ofList (fill point p.parts params)

/-- A text that can stand in the place of a group: one step of a path, of digits where the group is
for a number, and one of the listed texts where the group lists them. -/
structure MayStand (group : Pattern) (text : String) : Prop where
  nonempty : text ≠ ""
  oneStep : '/' ∉ text.toList
  digits : group = .many .digit 1 → ∀ c ∈ text.toList, c.isDigit = true
  listed : ∀ texts, group.texts? = some texts → text.toList ∈ texts

/-- A step, a number, or a list of texts that are steps. -/
def isPlace : Pattern → Bool
  | .many set 1 => set = .notSlash || set = .digit
  | p =>
    match p.texts? with
    | some texts => texts.all fun text => text ≠ [] && '/' ∉ text
    | none => false

theorem has_digit_iff {c : Char} : CharSet.digit.has c = true ↔ c.isDigit = true := by
  refine ⟨?_, TopicTable.has_digit_of_isDigit⟩
  intro h
  have hrange : (decide ('0' ≤ c) && decide (c ≤ '9')) = true := by
    have hhas : CharSet.digit.has c = (decide ('0' ≤ c) && decide (c ≤ '9')) := by
      show (((decide ('0' ≤ c) && decide (c ≤ '9')) || false) != false) = _
      rw [Bool.bne_false, Bool.or_false]
    rw [← hhas, h]
  exact hrange

theorem ofList_ne_empty {text : List Char} : String.ofList text ≠ "" ↔ text ≠ [] := by
  rw [ne_eq, ne_eq, ← String.toList_inj, String.toList_ofList]
  exact Iff.rfl

theorem fits_many_one {set : CharSet} {text : List Char} {groups : List (Option (List Char))} :
    (many set 1).Fits text groups ↔ (text ≠ [] ∧ ∀ c ∈ text, set.has c = true) ∧ groups = [] := by
  rw [← List.length_pos_iff]
  exact Iff.rfl

theorem fits_iff_mayStand {p : Pattern} (hp : p.isPlace = true) {text : List Char}
    {groups : List (Option (List Char))} :
    p.Fits text groups ↔ MayStand p (String.ofList text) ∧ groups = [] := by
  unfold isPlace at hp
  split at hp
  · next set =>
    rw [fits_many_one]
    refine and_congr_left fun _ => ?_
    rcases Bool.or_eq_true_iff.mp hp with hset | hset
    · obtain rfl := of_decide_eq_true hset
      constructor
      · rintro ⟨hne, hslash⟩
        refine ⟨ofList_ne_empty.mpr hne, ?_, nofun, nofun⟩
        rw [String.toList_ofList]
        exact fun hmem => has_notSlash_iff.mp (hslash _ hmem) rfl
      · intro h
        refine ⟨ofList_ne_empty.mp h.nonempty, ?_⟩
        intro c hc
        refine has_notSlash_iff.mpr ?_
        rintro rfl
        exact h.oneStep (String.toList_ofList ▸ hc)
    · obtain rfl := of_decide_eq_true hset
      constructor
      · rintro ⟨hne, hdigits⟩
        refine ⟨ofList_ne_empty.mpr hne, ?_, ?_, nofun⟩
        · rw [String.toList_ofList]
          exact fun hmem => absurd (hdigits _ hmem) (by decide)
        · intro _ c hc
          rw [String.toList_ofList] at hc
          exact has_digit_iff.mp (hdigits c hc)
      · intro h
        refine ⟨ofList_ne_empty.mp h.nonempty, ?_⟩
        intro c hc
        exact has_digit_iff.mpr (h.digits rfl c (String.toList_ofList ▸ hc))
  · split at hp
    · next texts htexts =>
      rw [fits_iff_mem_texts htexts]
      refine and_congr_left fun _ => ?_
      constructor
      · intro hmem
        have hstep := List.all_eq_true.mp hp text hmem
        rw [Bool.and_eq_true_iff, decide_eq_true_eq, decide_eq_true_eq] at hstep
        refine ⟨ofList_ne_empty.mpr hstep.1, ?_, ?_, ?_⟩
        · rw [String.toList_ofList]
          exact hstep.2
        · rintro rfl
          cases htexts
        · intro others hothers
          obtain rfl := Option.some.inj (htexts.symm.trans hothers)
          rwa [String.toList_ofList]
      · intro h
        have hmem := h.listed texts htexts
        rwa [String.toList_ofList] at hmem
    · cases hp

/-- The part is a literal run, or a group for a place. -/
def isFillable : Pattern → Bool
  | .literal _ => true
  | .group p => p.isPlace
  | _ => false

/-- The texts that fit parts are those that are made by putting texts in the place of the groups. -/
theorem fitsAll_iff_fill {ps : List Pattern} (hps : ∀ p ∈ ps, p.isFillable = true) (point : Char)
    {text : List Char} {groups : List (Option (List Char))} :
    FitsAll ps text groups ↔
      ∃ params, List.Forall₂ MayStand (places ps) params ∧ text = fill point ps params ∧
        groups = params.map fun param => some param.toList := by
  induction ps generalizing text groups with
  | nil =>
    constructor
    · rintro ⟨rfl, rfl⟩
      exact ⟨[], .nil, rfl, rfl⟩
    · rintro ⟨_, ⟨⟩, rfl, rfl⟩
      exact ⟨rfl, rfl⟩
  | cons p ps ih =>
    have hrest : ∀ q ∈ ps, q.isFillable = true := fun q hq => hps q (List.mem_cons_of_mem _ hq)
    replace ih := fun text groups => @ih hrest text groups
    have hp := hps p List.mem_cons_self
    cases p with
    | literal cs =>
      rw [fitsAll_literal]
      constructor
      · rintro ⟨u, rfl, hrest⟩
        obtain ⟨params, hparams, rfl, rfl⟩ := (ih _ _).mp hrest
        exact ⟨params, hparams, rfl, rfl⟩
      · rintro ⟨params, hparams, rfl, rfl⟩
        exact ⟨_, rfl, (ih _ _).mpr ⟨params, hparams, rfl, rfl⟩⟩
    | group p =>
      constructor
      · rintro ⟨t, u, _, k, rfl, rfl, ⟨g, rfl, hfits⟩, hrest⟩
        obtain ⟨hstand, rfl⟩ := (fits_iff_mayStand hp).mp hfits
        obtain ⟨params, hparams, rfl, rfl⟩ := (ih _ _).mp hrest
        refine ⟨String.ofList t :: params, .cons hstand hparams, ?_, ?_⟩
        · rw [fill, String.toList_ofList]
        · rw [List.map_cons, String.toList_ofList]
          rfl
      · rintro ⟨_, hall, htext, hgroups⟩
        cases hall with
        | cons hstand hparams =>
          rename_i param params
          have hfits : p.Fits param.toList [] :=
            (fits_iff_mayStand hp).mpr ⟨String.ofList_toList.symm ▸ hstand, rfl⟩
          exact ⟨param.toList, _, [some param.toList], _, htext, hgroups, ⟨[], rfl, hfits⟩,
            (ih _ _).mpr ⟨params, hparams, rfl, rfl⟩⟩
    | _ => cases hp

/-! ### Patterns below the root -/

def rootText (point : Char) : List Char := "mbdetnrs/1".toList ++ point :: "0/".toList

/-- The parts of a pattern for a whole text, below the root that it begins with. -/
def below? (p : Pattern) : Option (List Pattern) :=
  match p.body? with
  | some body =>
    if body.isPlain && body.parts = topicRoot.parts ++ body.parts.drop 3 then
      some (body.parts.drop 3)
    else none
  | none => none

theorem fitsAll_one {set : CharSet} {ps : List Pattern} {text : List Char}
    {groups : List (Option (List Char))} :
    FitsAll (.one set :: ps) text groups ↔
      ∃ c rest, set.has c = true ∧ text = c :: rest ∧ FitsAll ps rest groups := by
  constructor
  · rintro ⟨_, rest, _, k, rfl, rfl, ⟨⟨c, rfl, hc⟩, rfl⟩, hrest⟩
    exact ⟨c, rest, hc, rfl, hrest⟩
  · rintro ⟨c, rest, hc, rfl, hrest⟩
    exact ⟨[c], rest, [], groups, rfl, rfl, ⟨⟨c, rfl, hc⟩, rfl⟩, hrest⟩

theorem has_any_iff {c : Char} : CharSet.any.has c = true ↔ c ≠ '\n' := by
  simp [CharSet.has]

theorem fitsAll_around_point {before after : List Char} {ps : List Pattern} {text : List Char}
    {groups : List (Option (List Char))} :
    FitsAll (.literal before :: .one .any :: .literal after :: ps) text groups ↔
      ∃ point rest, point ≠ '\n' ∧ text = (before ++ point :: after) ++ rest ∧
        FitsAll ps rest groups := by
  simp only [fitsAll_one, fitsAll_literal, has_any_iff]
  constructor
  · rintro ⟨u, rfl, point, _, hpoint, rfl, rest, rfl, hrest⟩
    exact ⟨point, rest, hpoint, by rw [List.append_assoc, List.cons_append], hrest⟩
  · rintro ⟨point, rest, hpoint, rfl, hrest⟩
    exact ⟨point :: (after ++ rest), by rw [List.append_assoc, List.cons_append], point, _,
      hpoint, rfl, rest, rfl, hrest⟩

theorem fitsAll_topicRoot {parts : List Pattern} {text : List Char}
    {groups : List (Option (List Char))} :
    FitsAll (topicRoot.parts ++ parts) text groups ↔
      ∃ point rest, point ≠ '\n' ∧ text = rootText point ++ rest ∧ FitsAll parts rest groups :=
  fitsAll_around_point

theorem around_point_inj {before after rest more : List Char} {point other : Char}
    (h : (before ++ point :: after) ++ rest = (before ++ other :: after) ++ more) :
    point = other ∧ rest = more := by
  rw [List.append_assoc, List.append_assoc, List.append_cancel_left_eq, List.cons_append,
    List.cons_append, List.cons.injEq, List.append_cancel_left_eq] at h
  exact h

theorem rootText_inj {point other : Char} {rest more : List Char}
    (h : rootText point ++ rest = rootText other ++ more) : point = other ∧ rest = more :=
  around_point_inj h

theorem fits_below {p : Pattern} {parts : List Pattern} (h : p.below? = some parts) :
    ∃ body, p = whole body ∧ body.isPlain = true ∧ body.parts = topicRoot.parts ++ parts := by
  unfold below? at h
  split at h
  · next body hbody =>
    split at h
    · next hboth =>
      obtain ⟨hplain, hparts⟩ := Bool.and_eq_true_iff.mp hboth
      obtain rfl := Option.some.inj h
      exact ⟨body, eq_whole_of_body? hbody, hplain, of_decide_eq_true hparts⟩
    · cases h
  · cases h

/-- The steps of a pattern below its root. -/
def topicSteps? (p : Pattern) : Option (List PathStep) := p.below?.bind pathSteps?

section

variable {p : Pattern} {steps : List PathStep} {s : String} {params : List String}

/-- The texts of the groups are read off the only way in which a text fits. -/
theorem captures?_eq_some_iff {body : Pattern} (hplain : body.isPlain = true)
    (hunique : ∀ first second, body.Fits s.toList first → body.Fits s.toList second →
      first = second) :
    (whole body).captures? s = some params ↔ ∃ groups, body.Fits s.toList groups ∧
      params = groups.map fun group => String.ofList (group.getD []) := by
  constructor
  · exact fits_of_captures? hplain
  · rintro ⟨groups, hfits, rfl⟩
    exact captures?_of_fits hplain hfits fun other hother => hunique other groups hother hfits

theorem captures?_iff_fitsAll (h : p.topicSteps? = some steps) :
    ∃ parts, p.below? = some parts ∧ pathSteps? parts = some steps ∧
      (p.captures? s = some params ↔ ∃ point rest groups, point ≠ '\n' ∧
        s.toList = rootText point ++ rest ∧ FitsAll parts rest groups ∧
        params = groups.map fun group => String.ofList (group.getD [])) := by
  obtain ⟨parts, hparts, hsteps⟩ := Option.bind_eq_some_iff.mp h
  obtain ⟨body, rfl, hplain, hbody⟩ := fits_below hparts
  refine ⟨parts, hparts, hsteps, ?_⟩
  rw [captures?_eq_some_iff hplain]
  · simp only [fits_iff_fitsAll_parts, hbody, fitsAll_topicRoot]
    constructor
    · rintro ⟨groups, ⟨point, rest, hpoint, htext, hrest⟩, rfl⟩
      exact ⟨point, rest, groups, hpoint, htext, hrest, rfl⟩
    · rintro ⟨point, rest, groups, hpoint, htext, hrest, rfl⟩
      exact ⟨groups, ⟨point, rest, hpoint, htext, hrest⟩, rfl⟩
  · intro first second hfirst hsecond
    simp only [fits_iff_fitsAll_parts, hbody, fitsAll_topicRoot, fitsAll_iff_allows hsteps]
      at hfirst hsecond
    obtain ⟨point, rest, -, htext, -, rfl⟩ := hfirst
    obtain ⟨other, more, -, htext', -, rfl⟩ := hsecond
    obtain ⟨-, rfl⟩ := rootText_inj (htext.symm.trans htext')
    rfl

/-- A pattern matches the paths below a root whose steps it allows. -/
theorem isMatch_iff_allows (h : p.topicSteps? = some steps) :
    p.isMatch s = true ↔ ∃ point rest, point ≠ '\n' ∧ s.toList = rootText point ++ rest ∧
      Allows steps (rest.splitOn '/') := by
  rw [← isSome_captures?, Option.isSome_iff_exists]
  constructor
  · rintro ⟨params, hparams⟩
    obtain ⟨parts, -, hsteps, hiff⟩ := captures?_iff_fitsAll h
    obtain ⟨point, rest, groups, hpoint, htext, hfits, -⟩ := hiff.mp hparams
    exact ⟨point, rest, hpoint, htext, ((fitsAll_iff_allows hsteps).mp hfits).1⟩
  · rintro ⟨point, rest, hpoint, htext, hallows⟩
    obtain ⟨parts, -, hsteps, hiff⟩ := captures?_iff_fitsAll h
    exact ⟨_, hiff.mpr ⟨point, rest, _, hpoint, htext,
      (fitsAll_iff_allows hsteps).mpr ⟨hallows, rfl⟩, rfl⟩⟩

/-! ### Filled patterns -/

theorem places_append_finish (ps : List Pattern) : places (ps ++ [.finish]) = places ps := by
  induction ps with
  | nil => rfl
  | cons p ps ih =>
    cases p with
    | group p => exact congrArg (p :: ·) ih
    | _ => exact ih

theorem fill_append_finish (point : Char) (ps : List Pattern) (params : List String) :
    fill point (ps ++ [.finish]) params = fill point ps params := by
  induction ps generalizing params with
  | nil => cases params <;> rfl
  | cons p ps ih =>
    cases p with
    | literal cs => exact congrArg (cs ++ ·) (ih params)
    | one set => exact congrArg (point :: ·) (ih params)
    | group p =>
      cases params with
      | nil => exact ih []
      | cons param params => exact congrArg (param.toList ++ ·) (ih params)
    | _ => exact ih params

theorem fill_around_point {before after : List Char} {ps : List Pattern} (point : Char)
    (params : List String) :
    fill point (.start :: .literal before :: .one .any :: .literal after :: ps) params =
      (before ++ point :: after) ++ fill point ps params := by
  simp only [fill, List.append_assoc, List.cons_append]

theorem parts_of_below {parts : List Pattern} (h : p.below? = some parts) (point : Char)
    (params : List String) :
    places p.parts = places parts ∧
      fill point p.parts params = rootText point ++ fill point parts params := by
  obtain ⟨body, rfl, -, hbody⟩ := fits_below h
  have hparts : (whole body).parts = .start :: (topicRoot.parts ++ (parts ++ [.finish])) := by
    rw [← List.append_assoc, ← hbody]
    rfl
  rw [hparts]
  refine ⟨places_append_finish parts, ?_⟩
  rw [← fill_append_finish point parts params]
  exact fill_around_point point params

/-- The parts below the root are literal runs and groups for places. -/
def isTemplate (p : Pattern) : Bool :=
  match p.below? with
  | some parts => parts.all isFillable
  | none => false

/-- A pattern matches the texts that are made by filling it, and captures what it was filled with.
-/
theorem captures?_eq_some_iff_filled (h : p.topicSteps? = some steps) (hp : p.isTemplate = true) :
    p.captures? s = some params ↔ ∃ point, point ≠ '\n' ∧
      List.Forall₂ MayStand (places p.parts) params ∧ s = p.filled point params := by
  obtain ⟨parts, hparts, -, hiff⟩ := captures?_iff_fitsAll h
  have hfillable : ∀ part ∈ parts, part.isFillable = true := by
    rw [isTemplate, hparts] at hp
    exact List.all_eq_true.mp hp
  have hnames : ∀ params : List String,
      (params.map fun param => some param.toList).map
        (fun group => String.ofList (group.getD [])) = params := by
    intro params
    simp [Function.comp_def]
  rw [hiff]
  constructor
  · rintro ⟨point, rest, groups, hpoint, htext, hfits, rfl⟩
    obtain ⟨params, hstand, rfl, rfl⟩ := (fitsAll_iff_fill hfillable point).mp hfits
    obtain ⟨hplaces, hfill⟩ := parts_of_below hparts point params
    rw [hnames]
    refine ⟨point, hpoint, hplaces ▸ hstand, ?_⟩
    rw [filled, hfill, ← htext, String.ofList_toList]
  · rintro ⟨point, hpoint, hstand, rfl⟩
    obtain ⟨hplaces, hfill⟩ := parts_of_below hparts point params
    refine ⟨point, _, _, hpoint, ?_, (fitsAll_iff_fill hfillable point).mpr
      ⟨params, hplaces ▸ hstand, rfl, rfl⟩, (hnames params).symm⟩
    rw [filled, hfill, String.toList_ofList]

end

end Pattern

namespace TopicTable

/-! ### The rules of the card -/

/-- The steps of two patterns exclude each other. -/
def exclusive (p q : Pattern) : Bool :=
  match p.topicSteps?, q.topicSteps? with
  | some steps, some others => Pattern.stepsApart steps others
  | _, _ => false

/-- Below its root the rule has steps and can be filled, and the filter takes topics that consist of
the first of the steps. -/
def isReached (filter : TopicFilter) (rule : TopicRule) : Bool :=
  match rule.pattern.topicSteps? with
  | some steps =>
    rule.pattern.isTemplate && filter.any fun pattern =>
      match pattern.topicSteps? with
      | some others => others ≠ [] && Pattern.coversBeginning others steps
      | none => false
  | none => false

-- Both checks are made at once, so that the steps of every pattern are worked out only once.
theorem reached_and_exclusive_card :
    (∀ rule ∈ card, isReached .card rule = true) ∧
      card.Pairwise fun rule other => exclusive rule.pattern other.pattern = true := by
  decide +kernel

theorem isReached_card : ∀ rule ∈ card, isReached .card rule = true :=
  reached_and_exclusive_card.1

theorem steps_of_mem_card {rule : TopicRule} (h : rule ∈ card) :
    ∃ steps, rule.pattern.topicSteps? = some steps ∧ rule.pattern.isTemplate = true := by
  have hreached := isReached_card rule h
  unfold isReached at hreached
  split at hreached
  · next steps hsteps => exact ⟨steps, hsteps, (Bool.and_eq_true_iff.mp hreached).1⟩
  · cases hreached

theorem not_isMatch_of_exclusive {p q : Pattern} (h : exclusive p q = true) {path : String}
    (hp : p.isMatch path = true) : q.isMatch path = false := by
  unfold exclusive at h
  split at h
  · next steps others hsteps hothers =>
    rw [Bool.eq_false_iff]
    intro hq
    obtain ⟨point, rest, -, htext, hallows⟩ := (Pattern.isMatch_iff_allows hsteps).mp hp
    obtain ⟨other, more, -, htext', hallows'⟩ := (Pattern.isMatch_iff_allows hothers).mp hq
    obtain ⟨-, rfl⟩ := Pattern.rootText_inj (htext.symm.trans htext')
    exact Pattern.not_allows_of_stepsApart h hallows hallows'
  · cases h

/-- At most one rule of the card matches a path. -/
theorem place_unique {path : String} (i j : Fin card.length)
    (hi : card[i].pattern.isMatch path = true) (hj : card[j].pattern.isMatch path = true) :
    i = j := by
  have hpairs := List.pairwise_iff_getElem.mp reached_and_exclusive_card.2
  rcases Nat.lt_trichotomy i j with hlt | heq | hgt
  · have hnot := not_isMatch_of_exclusive (hpairs i j i.isLt j.isLt hlt) hi
    rw [Fin.getElem_fin] at hj
    rw [hnot] at hj
    cases hj
  · exact Fin.ext heq
  · have hnot := not_isMatch_of_exclusive (hpairs j i j.isLt i.isLt hgt) hj
    rw [Fin.getElem_fin] at hi
    rw [hnot] at hi
    cases hi

theorem rule_unique {path : String} {rule other : TopicRule} (hrule : rule ∈ card)
    (hother : other ∈ card) (h : rule.pattern.isMatch path = true)
    (h' : other.pattern.isMatch path = true) : rule = other := by
  obtain ⟨i, hi, rfl⟩ := List.getElem_of_mem hrule
  obtain ⟨j, hj, rfl⟩ := List.getElem_of_mem hother
  have hsame := place_unique ⟨i, hi⟩ ⟨j, hj⟩ h h'
  obtain rfl : i = j := congrArg Fin.val hsame
  rfl

theorem isMatch_of_captures? {p : Pattern} {path : String} {params : List String}
    (h : p.captures? path = some params) : p.isMatch path = true := by
  rw [← Pattern.isSome_captures?, h]
  rfl

/-- Where at most one rule matches, looking up finds it, wherever it stands. -/
theorem find?_eq_some_iff {table : TopicTable} {path : String}
    (hunique : ∀ rule ∈ table, ∀ other ∈ table, rule.pattern.isMatch path = true →
      other.pattern.isMatch path = true → rule = other) {rule : TopicRule} {params : List String} :
    table.find? path = some (rule, params) ↔
      rule ∈ table ∧ rule.pattern.captures? path = some params := by
  refine ⟨rule_of_find?, ?_⟩
  rintro ⟨hmem, hcaptures⟩
  cases hfind : table.find? path with
  | none =>
    have hnone := List.findSome?_eq_none_iff.mp hfind rule hmem
    rw [hcaptures] at hnone
    cases hnone
  | some found =>
    obtain ⟨other, others⟩ := found
    obtain ⟨hother, hcaptures'⟩ := rule_of_find? hfind
    obtain rfl := hunique rule hmem other hother (isMatch_of_captures? hcaptures)
      (isMatch_of_captures? hcaptures')
    rw [Option.some.inj (hcaptures.symm.trans hcaptures')]

theorem find?_card_eq_some_iff {path : String} {rule : TopicRule} {params : List String} :
    card.find? path = some (rule, params) ↔
      rule ∈ card ∧ rule.pattern.captures? path = some params :=
  find?_eq_some_iff fun _ hrule _ hother => rule_unique hrule hother

/-- At most one rule matches a path, so looking up finds the same in every order of the rules: the
rule that matches, with what it captures. A rule matches the paths that are made from its pattern by
putting texts in the place of its groups and any character in the place of the point, and captures
these texts. -/
theorem lookup_unambiguous_and_lossless (path : String) :
    (∀ i j : Fin card.length, card[i].pattern.isMatch path = true →
      card[j].pattern.isMatch path = true → i = j) ∧
    (∀ table : TopicTable, table.Perm card → table.find? path = card.find? path) ∧
    (∀ rule params, card.find? path = some (rule, params) ↔
      rule ∈ card ∧ rule.pattern.captures? path = some params) ∧
    ∀ rule ∈ card, ∀ params, rule.pattern.captures? path = some params ↔
      ∃ point, point ≠ '\n' ∧
        List.Forall₂ Pattern.MayStand (Pattern.places rule.pattern.parts) params ∧
          path = rule.pattern.filled point params := by
  refine ⟨place_unique, ?_, fun rule params => find?_card_eq_some_iff, ?_⟩
  · intro table hperm
    apply Option.ext
    rintro ⟨rule, params⟩
    rw [find?_card_eq_some_iff, ← hperm.mem_iff]
    refine find?_eq_some_iff fun rule hrule other hother => ?_
    exact rule_unique (hperm.mem_iff.mp hrule) (hperm.mem_iff.mp hother)
  · intro rule hmem params
    obtain ⟨steps, hsteps, htemplate⟩ := steps_of_mem_card hmem
    exact Pattern.captures?_eq_some_iff_filled hsteps htemplate

/-- A device and a sensor with names that other rules have, below a root with a slash at its point:
the value of the temperature, also where the rules are tried from the last one on. -/
theorem lookup_unambiguous_and_lossless_reversed :
    TopicTable.find? card.reverse
        ("mbdetnrs/1/0/sensors/devices/identification/channels/temperatures/members" ++
          "/measure/current") =
      some (card[29], ["identification", "members"]) := by
  obtain ⟨-, hperm, hfind, hcaptures⟩ := lookup_unambiguous_and_lossless
    ("mbdetnrs/1/0/sensors/devices/identification/channels/temperatures/members" ++
      "/measure/current")
  have hmem : card[29] ∈ card := List.getElem_mem _
  have hstands : ∀ text ∈ ["identification", "members"],
      Pattern.MayStand (.many .notSlash 1) text := by
    intro text htext
    rcases List.mem_pair.mp htext with rfl | rfl
    · exact ⟨by decide, by decide, nofun, nofun⟩
    · exact ⟨by decide, by decide, nofun, nofun⟩
  rw [hperm _ (List.reverse_perm _), hfind]
  refine ⟨hmem, (hcaptures _ hmem _).mpr ⟨'/', by decide, ?_, by decide +kernel⟩⟩
  exact .cons (hstands _ (by decide)) (.cons (hstands _ (by decide)) .nil)

end TopicTable

end RackTelemetry
