import RackTelemetry.Proofs.Pattern.Beginning

/-!
Patterns for paths, step by step. A path is split at its slashes, and the parts of a pattern are
split at theirs; the path fits when there are as many steps on both sides and each step fits. Where
a step of the pattern is a captured or plain name, or a run of characters, the steps of the path are
all there is to check, and they decide what is captured.
-/

namespace RackTelemetry

namespace Pattern

variable {p : Pattern} {ps : List Pattern} {text : List Char} {groups : List (Option (List Char))}

/-! ### Parts one after another -/

theorem fitsAll_append {qs : List Pattern} : FitsAll (ps ++ qs) text groups ↔
    ∃ t u g k, text = t ++ u ∧ groups = g ++ k ∧ FitsAll ps t g ∧ FitsAll qs u k := by
  constructor
  · intro h
    induction ps generalizing text groups with
    | nil => exact ⟨[], text, [], groups, rfl, rfl, ⟨rfl, rfl⟩, h⟩
    | cons p ps ih =>
      obtain ⟨t, _, g, _, rfl, rfl, hp, hrest⟩ := h
      obtain ⟨u, v, k, l, rfl, rfl, hps, hqs⟩ := ih hrest
      exact ⟨t ++ u, v, g ++ k, l, (List.append_assoc ..).symm, (List.append_assoc ..).symm,
        ⟨t, u, g, k, rfl, rfl, hp, hps⟩, hqs⟩
  · rintro ⟨t, u, g, k, rfl, rfl, hps, hqs⟩
    exact hps.append hqs

theorem fitsAll_singleton_iff : FitsAll [p] text groups ↔ p.Fits text groups := by
  refine ⟨?_, fitsAll_singleton⟩
  rintro ⟨t, _, g, _, rfl, rfl, hp, rfl, rfl⟩
  rwa [List.append_nil, List.append_nil]

theorem fits_iff_fitsAll_parts : p.Fits text groups ↔ FitsAll p.parts text groups := by
  refine ⟨Fits.parts, ?_⟩
  intro h
  induction p generalizing text groups with
  | seq p q ihp ihq =>
    obtain ⟨t, u, g, k, rfl, rfl, hp, hq⟩ := fitsAll_append.mp h
    exact ⟨t, u, g, k, rfl, rfl, ihp hp, ihq hq⟩
  | _ => exact fitsAll_singleton_iff.mp h

/-! ### Slashes -/

/-- No text that fits has a slash. -/
def isOneStep : Pattern → Bool
  | .literal cs => !cs.contains '/'
  | .one set => !set.has '/'
  | .many set _ => !set.has '/'
  | .seq p q => p.isOneStep && q.isOneStep
  | .alt p q => p.isOneStep && q.isOneStep
  | .optional p => p.isOneStep
  | .group p => p.isOneStep
  | .empty | .start | .finish => true

theorem slash_notMem_of_has {set : CharSet} (hset : (!set.has '/') = true)
    (htext : ∀ c ∈ text, set.has c = true) : '/' ∉ text := by
  intro hmem
  rw [htext '/' hmem] at hset
  cases hset

theorem Fits.slash_notMem (h : p.Fits text groups) (hp : p.isOneStep = true) : '/' ∉ text := by
  induction p generalizing text groups with
  | empty => simp [h.1]
  | literal cs => simpa [isOneStep, h.1] using hp
  | one set =>
    obtain ⟨⟨c, rfl, hc⟩, -⟩ := h
    refine slash_notMem_of_has hp fun d hd => ?_
    rwa [List.mem_singleton.mp hd]
  | many set least => exact slash_notMem_of_has hp h.1.2
  | start => cases h
  | finish => cases h
  | seq p q ihp ihq =>
    obtain ⟨hleft, hright⟩ := Bool.and_eq_true_iff.mp hp
    obtain ⟨t, u, g, k, rfl, rfl, ht, hu⟩ := h
    rw [List.mem_append, not_or]
    exact ⟨ihp ht hleft, ihq hu hright⟩
  | alt p q ihp ihq =>
    obtain ⟨hleft, hright⟩ := Bool.and_eq_true_iff.mp hp
    rcases h with ⟨g, -, hfits⟩ | ⟨g, -, hfits⟩
    · exact ihp hfits hleft
    · exact ihq hfits hright
  | optional p ih =>
    rcases h with hfits | ⟨rfl, -⟩
    · exact ih hfits hp
    · exact List.not_mem_nil
  | group p ih =>
    obtain ⟨g, -, hfits⟩ := h
    exact ih hfits hp

def slash : Pattern := .literal ['/']

/-- The parts of a path: slashes, and parts without them. -/
def IsPathParts (ps : List Pattern) : Prop := ∀ p ∈ ps, p = slash ∨ p.isOneStep = true

/-- Texts fit the parts of the steps of a pattern, step by step. -/
def FitsSteps : List (List Pattern) → List (List Char) → List (Option (List Char)) → Prop
  | [], [], groups => groups = []
  | ps :: steps, text :: texts, groups =>
    ∃ g k, groups = g ++ k ∧ FitsAll ps text g ∧ FitsSteps steps texts k
  | _, _, _ => False

theorem exists_splitOn {α : Type} [BEq α] (sep : α) (xs : List α) :
    ∃ first rest, xs.splitOn sep = first :: rest :=
  List.exists_cons_of_ne_nil (List.splitOn_ne_nil sep xs)

theorem splitOn_append {t : List Char} (ht : '/' ∉ t) (u : List Char) :
    (t ++ u).splitOn '/' = (u.splitOn '/').modifyHead (t ++ ·) := by
  induction t with
  | nil =>
    obtain ⟨first, rest, hsplit⟩ := exists_splitOn '/' u
    rw [List.nil_append, hsplit]
    rfl
  | cons c t ih =>
    rw [List.mem_cons, not_or] at ht
    have hc : (c == '/') = false := by simpa using Ne.symm ht.1
    rw [List.cons_append, List.splitOn_cons_eq_if_modifyHead, hc, ih ht.2]
    simp [List.modifyHead_modifyHead, Function.comp_def]

theorem splitOn_eq_nil_cons {texts : List (List Char)} (hne : texts ≠ [])
    (h : text.splitOn '/' = [] :: texts) : ∃ u, text = '/' :: u ∧ u.splitOn '/' = texts := by
  cases text with
  | nil =>
    obtain rfl := (List.cons.inj h).2
    exact absurd rfl hne
  | cons c u =>
    rw [List.splitOn_cons_eq_if_modifyHead] at h
    split at h
    · next hc => exact ⟨u, by rw [eq_of_beq hc], (List.cons.inj h).2⟩
    · obtain ⟨first, rest, hsplit⟩ := exists_splitOn '/' u
      rw [hsplit] at h
      cases h

theorem splitOn_eq_append_cons {t v : List Char} {rest : List (List Char)} (ht : '/' ∉ t)
    (h : text.splitOn '/' = (t ++ v) :: rest) :
    ∃ u, text = t ++ u ∧ u.splitOn '/' = v :: rest := by
  have hjoin : ['/'].intercalate (text.splitOn '/') = text := List.intercalate_splitOn '/'
  have htext : text = t ++ ['/'].intercalate (v :: rest) := by
    rw [← hjoin, h]
    cases rest <;> simp
  refine ⟨_, htext, ?_⟩
  rw [htext, splitOn_append ht] at h
  obtain ⟨first, more, hsplit⟩ := exists_splitOn '/' (['/'].intercalate (v :: rest))
  rw [hsplit, List.modifyHead_cons] at h
  obtain ⟨hfirst, rfl⟩ := List.cons.inj h
  rw [hsplit, List.append_cancel_left hfirst]

theorem eq_nil_of_splitOn (h : text.splitOn '/' = [[]]) : text = [] := by
  have hjoin : ['/'].intercalate (text.splitOn '/') = text := List.intercalate_splitOn '/'
  rw [h] at hjoin
  exact hjoin.symm

theorem fitsSteps_cons {steps : List (List Pattern)} {texts : List (List Char)} :
    FitsSteps (ps :: steps) texts groups ↔
      ∃ t rest g k, texts = t :: rest ∧ groups = g ++ k ∧ FitsAll ps t g ∧
        FitsSteps steps rest k := by
  cases texts with
  | nil => simp [FitsSteps]
  | cons t rest =>
    constructor
    · rintro ⟨g, k, rfl, ht, hrest⟩
      exact ⟨t, rest, g, k, rfl, rfl, ht, hrest⟩
    · rintro ⟨_, _, g, k, heq, rfl, ht, hrest⟩
      obtain ⟨rfl, rfl⟩ := List.cons.inj heq
      exact ⟨g, k, rfl, ht, hrest⟩

theorem FitsSteps.ne_nil {steps : List (List Pattern)} {texts : List (List Char)}
    (h : FitsSteps steps texts groups) (hne : steps ≠ []) : texts ≠ [] := by
  obtain ⟨ps, rest, rfl⟩ := List.exists_cons_of_ne_nil hne
  obtain ⟨t, more, -, -, rfl, -⟩ := fitsSteps_cons.mp h
  exact List.cons_ne_nil t more

/-- A path fits the parts of a pattern when its steps fit the steps of the pattern. -/
theorem fitsAll_iff_fitsSteps (hps : IsPathParts ps) :
    FitsAll ps text groups ↔ FitsSteps (ps.splitOn slash) (text.splitOn '/') groups := by
  induction ps generalizing text groups with
  | nil =>
    rw [List.splitOn_nil, fitsSteps_cons]
    constructor
    · rintro ⟨rfl, rfl⟩
      exact ⟨[], [], [], [], rfl, rfl, ⟨rfl, rfl⟩, rfl⟩
    · rintro ⟨t, rest, g, k, hsplit, rfl, ⟨rfl, rfl⟩, hrest⟩
      match rest, hrest with
      | [], hrest => exact ⟨eq_nil_of_splitOn hsplit, hrest⟩
  | cons p ps ih =>
    have hrest : IsPathParts ps := fun q hq => hps q (List.mem_cons_of_mem _ hq)
    replace ih := fun text groups => @ih text groups hrest
    rw [List.splitOn_cons_eq_if_modifyHead]
    split
    · next hp =>
      obtain rfl := eq_of_beq hp
      rw [slash, fitsAll_literal, fitsSteps_cons]
      constructor
      · rintro ⟨u, rfl, hrest⟩
        exact ⟨[], u.splitOn '/', [], groups, rfl, rfl, ⟨rfl, rfl⟩, (ih _ _).mp hrest⟩
      · rintro ⟨t, rest, g, k, hsplit, rfl, ⟨rfl, rfl⟩, hrest⟩
        have hne := hrest.ne_nil (List.splitOn_ne_nil slash ps)
        obtain ⟨u, rfl, rfl⟩ := splitOn_eq_nil_cons hne hsplit
        exact ⟨u, rfl, (ih _ _).mpr hrest⟩
    · next hp =>
      have hone : p.isOneStep = true :=
        (hps p List.mem_cons_self).resolve_left fun heq => hp (beq_iff_eq.mpr heq)
      obtain ⟨first, steps, hsteps⟩ := exists_splitOn slash ps
      rw [hsteps] at ih ⊢
      rw [List.modifyHead_cons, fitsSteps_cons]
      constructor
      · rintro ⟨t, u, g, k, rfl, rfl, hpart, hrest⟩
        obtain ⟨v, rest, h, l, hsplit, rfl, hfirst, hmore⟩ := fitsSteps_cons.mp ((ih _ _).mp hrest)
        refine ⟨t ++ v, rest, g ++ h, l, ?_, (List.append_assoc ..).symm,
          ⟨t, v, g, h, rfl, rfl, hpart, hfirst⟩, hmore⟩
        rw [splitOn_append (hpart.slash_notMem hone), hsplit]
        rfl
      · rintro ⟨_, rest, _, l, hsplit, rfl, ⟨t, v, g, h, rfl, rfl, hpart, hfirst⟩, hmore⟩
        obtain ⟨u, rfl, hu⟩ := splitOn_eq_append_cons (hpart.slash_notMem hone) hsplit
        refine ⟨t, u, g, h ++ l, rfl, List.append_assoc .., hpart, (ih _ _).mpr ?_⟩
        exact fitsSteps_cons.mpr ⟨v, rest, h, l, hu, rfl, hfirst, hmore⟩

/-! ### Literal runs -/

/-- A literal run taken apart into its characters. -/
def letters : Pattern → List Pattern
  | .literal cs => cs.map fun c => .literal [c]
  | p => [p]

theorem fitsAll_letters : FitsAll p.letters text groups ↔ p.Fits text groups := by
  cases p with
  | literal cs =>
    rw [letters]
    induction cs generalizing text with
    | nil => exact Iff.rfl
    | cons c cs ih =>
      rw [List.map_cons, fitsAll_literal]
      constructor
      · rintro ⟨u, rfl, hrest⟩
        obtain ⟨rfl, rfl⟩ := ih.mp hrest
        exact ⟨rfl, rfl⟩
      · rintro ⟨rfl, rfl⟩
        exact ⟨cs, rfl, ih.mpr ⟨rfl, rfl⟩⟩
  | _ => exact fitsAll_singleton_iff

theorem fitsAll_flatMap_letters :
    FitsAll (ps.flatMap letters) text groups ↔ FitsAll ps text groups := by
  induction ps generalizing text groups with
  | nil => exact Iff.rfl
  | cons p ps ih =>
    rw [List.flatMap_cons, fitsAll_append]
    simp only [fitsAll_letters, ih]
    exact Iff.rfl

/-! ### What a step allows -/

theorem groups_of_texts? {texts : List (List Char)} (h : p.texts? = some texts) :
    p.groups = 0 := by
  induction p generalizing texts with
  | literal cs => rfl
  | alt p q ihp ihq =>
    rw [texts?] at h
    split at h
    · next left right hleft hright => rw [groups, ihp hleft, ihq hright]
    · cases h
  | _ => cases h

theorem fits_iff_mem_texts {texts : List (List Char)} (h : p.texts? = some texts) :
    p.Fits text groups ↔ text ∈ texts ∧ groups = [] := by
  induction p generalizing texts groups with
  | literal cs =>
    obtain rfl := Option.some.inj h
    rw [List.mem_singleton]
    exact Iff.rfl
  | alt p q ihp ihq =>
    rw [texts?] at h
    split at h
    · next left right hleft hright =>
      obtain rfl := Option.some.inj h
      simp only [Fits, ihp hleft, ihq hright, groups_of_texts? hleft, groups_of_texts? hright,
        List.replicate_zero, List.append_nil, List.nil_append, List.mem_append]
      constructor
      · rintro (⟨g, rfl, hmem, rfl⟩ | ⟨g, rfl, hmem, rfl⟩)
        · exact ⟨.inl hmem, rfl⟩
        · exact ⟨.inr hmem, rfl⟩
      · rintro ⟨hmem | hmem, rfl⟩
        · exact .inl ⟨[], rfl, hmem, rfl⟩
        · exact .inr ⟨[], rfl, hmem, rfl⟩
    · cases h
  | _ => cases h

/-- What may stand at one step of a path: one of some names, or characters of a set. -/
inductive StepKind where
  | name (names : List (List Char))
  | run (set : CharSet)
  deriving Repr, DecidableEq

namespace StepKind

def allows : StepKind → List Char → Bool
  | .name names, text => names.contains text
  | .run set, text => !text.isEmpty && text.all set.has

/-- The names that parts without groups spell out. -/
def names? : List Pattern → Option (List (List Char))
  | [] => some [[]]
  | p :: ps =>
    match p.texts?, names? ps with
    | some heads, some tails => some (heads.flatMap fun head => tails.map (head ++ ·))
    | _, _ => none

def ofParts? : List Pattern → Option StepKind
  | [.many set 1] => some (.run set)
  | ps => (names? ps).map .name

theorem fitsAll_iff_mem_names {names : List (List Char)} (h : names? ps = some names) :
    FitsAll ps text groups ↔ text ∈ names ∧ groups = [] := by
  induction ps generalizing names text groups with
  | nil =>
    obtain rfl := Option.some.inj h
    rw [List.mem_singleton]
    exact Iff.rfl
  | cons p ps ih =>
    rw [names?] at h
    split at h
    · next heads tails hheads htails =>
      obtain rfl := Option.some.inj h
      simp only [FitsAll, fits_iff_mem_texts hheads, ih htails, List.mem_flatMap, List.mem_map]
      constructor
      · rintro ⟨t, u, _, _, rfl, rfl, ⟨ht, rfl⟩, hu, rfl⟩
        exact ⟨⟨t, ht, u, hu, rfl⟩, rfl⟩
      · rintro ⟨⟨t, ht, u, hu, rfl⟩, rfl⟩
        exact ⟨t, u, [], [], rfl, rfl, ⟨ht, rfl⟩, hu, rfl⟩
    · cases h

theorem fitsAll_iff_allows {kind : StepKind} (h : ofParts? ps = some kind) :
    FitsAll ps text groups ↔ kind.allows text = true ∧ groups = [] := by
  unfold ofParts? at h
  split at h
  · next set =>
    obtain rfl := Option.some.inj h
    rw [fitsAll_singleton_iff, allows, Bool.and_eq_true_iff, List.all_eq_true,
      Bool.not_eq_true', List.isEmpty_eq_false_iff, ← List.length_pos_iff]
    exact Iff.rfl
  · obtain ⟨names, hnames, rfl⟩ := Option.map_eq_some_iff.mp h
    rw [fitsAll_iff_mem_names hnames, allows, List.contains_iff_mem]

/-- No text is allowed by both. -/
def apart : StepKind → StepKind → Bool
  | .name names, kind => names.all fun name => !kind.allows name
  | kind, .name names => names.all fun name => !kind.allows name
  | .run _, .run _ => false

theorem not_allows_of_apart {kind other : StepKind} (h : kind.apart other = true)
    (hkind : kind.allows text = true) : other.allows text = false := by
  cases kind with
  | name names =>
    have hmem : text ∈ names := List.contains_iff_mem.mp hkind
    simpa using List.all_eq_true.mp h text hmem
  | run set =>
    cases other with
    | name names =>
      rw [Bool.eq_false_iff]
      intro hother
      have hnot := List.all_eq_true.mp h text (List.contains_iff_mem.mp hother)
      rw [hkind] at hnot
      cases hnot
    | run other => cases h

/-- Every text that the second allows is allowed by the first. -/
def covers : StepKind → StepKind → Bool
  | kind, .name names => names.all kind.allows
  | .run set, .run other => set = other
  | .name _, .run _ => false

theorem allows_of_covers {kind other : StepKind} (h : kind.covers other = true)
    (hother : other.allows text = true) : kind.allows text = true := by
  cases other with
  | name names =>
    have hall : names.all kind.allows = true := by cases kind <;> exact h
    exact List.all_eq_true.mp hall text (List.contains_iff_mem.mp hother)
  | run other =>
    cases kind with
    | name names => cases h
    | run set =>
      obtain rfl := of_decide_eq_true h
      exact hother

end StepKind

/-- One step of a path as a pattern has it, and whether its text is captured. -/
structure PathStep where
  kind : StepKind
  captured : Bool
  deriving Repr, DecidableEq

namespace PathStep

def group (step : PathStep) (text : List Char) : List (Option (List Char)) :=
  if step.captured then [some text] else []

def ofParts? : List Pattern → Option PathStep
  | [.group p] => (StepKind.ofParts? [p]).map (⟨·, true⟩)
  | ps => (StepKind.ofParts? ps).map (⟨·, false⟩)

theorem fitsAll_iff {step : PathStep} (h : ofParts? ps = some step) :
    FitsAll ps text groups ↔ step.kind.allows text = true ∧ groups = step.group text := by
  unfold ofParts? at h
  split at h
  · next p =>
    obtain ⟨kind, hkind, rfl⟩ := Option.map_eq_some_iff.mp h
    rw [fitsAll_singleton_iff]
    simp only [Fits, ← fitsAll_singleton_iff (p := p), StepKind.fitsAll_iff_allows hkind]
    constructor
    · rintro ⟨_, rfl, hallows, rfl⟩
      exact ⟨hallows, rfl⟩
    · rintro ⟨hallows, rfl⟩
      exact ⟨[], rfl, hallows, rfl⟩
  · obtain ⟨kind, hkind, rfl⟩ := Option.map_eq_some_iff.mp h
    exact StepKind.fitsAll_iff_allows hkind

end PathStep

/-- The steps of a path, if each is one that can be told by itself. -/
def pathSteps? (ps : List Pattern) : Option (List PathStep) :=
  let parts := ps.flatMap letters
  if parts.all fun p => p = slash || p.isOneStep then
    (parts.splitOn slash).mapM PathStep.ofParts?
  else none

/-- The steps of a pattern allow the steps of a path, one by one. -/
def Allows (steps : List PathStep) (texts : List (List Char)) : Prop :=
  List.Forall₂ (fun step text => step.kind.allows text = true) steps texts

/-- What is captured of the steps of a path. -/
def captured (steps : List PathStep) (texts : List (List Char)) : List (Option (List Char)) :=
  (List.zipWith PathStep.group steps texts).flatten

theorem fitsSteps_iff {parts : List (List Pattern)} {steps : List PathStep}
    {texts : List (List Char)} (h : parts.mapM PathStep.ofParts? = some steps) :
    FitsSteps parts texts groups ↔ Allows steps texts ∧ groups = captured steps texts := by
  induction parts generalizing steps texts groups with
  | nil =>
    obtain rfl : [] = steps := by simpa using h
    cases texts with
    | nil => simp [FitsSteps, Allows, captured]
    | cons text texts => simp [FitsSteps, Allows]
  | cons ps parts ih =>
    rw [List.mapM_cons] at h
    obtain ⟨step, hstep, h⟩ := Option.bind_eq_some_iff.mp h
    obtain ⟨rest, hrest, h⟩ := Option.bind_eq_some_iff.mp h
    obtain rfl := Option.some.inj h
    cases texts with
    | nil => simp [FitsSteps, Allows]
    | cons text texts =>
      simp only [FitsSteps, PathStep.fitsAll_iff hstep, ih hrest, Allows, List.forall₂_cons]
      constructor
      · rintro ⟨_, _, rfl, ⟨hallows, rfl⟩, hmore, rfl⟩
        exact ⟨⟨hallows, hmore⟩, rfl⟩
      · rintro ⟨⟨hallows, hmore⟩, rfl⟩
        exact ⟨_, _, rfl, ⟨hallows, rfl⟩, hmore, rfl⟩

/-- A path fits when its steps are allowed, and the steps decide what is captured. -/
theorem fitsAll_iff_allows {steps : List PathStep} (h : pathSteps? ps = some steps) :
    FitsAll ps text groups ↔
      Allows steps (text.splitOn '/') ∧ groups = captured steps (text.splitOn '/') := by
  unfold pathSteps? at h
  simp only at h
  split at h
  · next hparts =>
    have hpath : IsPathParts (ps.flatMap letters) := by
      intro p hmem
      simpa using List.all_eq_true.mp hparts p hmem
    rw [← fitsAll_flatMap_letters, fitsAll_iff_fitsSteps hpath, fitsSteps_iff h]
  · cases h

/-! ### Two patterns for paths -/

/-- There are not as many steps on both sides, or two of them are apart. -/
def stepsApart : List PathStep → List PathStep → Bool
  | [], [] => false
  | step :: steps, other :: others => step.kind.apart other.kind || stepsApart steps others
  | _, _ => true

theorem not_allows_of_stepsApart {steps others : List PathStep} {texts : List (List Char)}
    (h : stepsApart steps others = true) (hsteps : Allows steps texts) :
    ¬ Allows others texts := by
  intro hothers
  induction hsteps generalizing others with
  | nil =>
    cases hothers
    cases h
  | cons hallows hrest ih =>
    cases hothers with
    | cons hother hmore =>
      rcases Bool.or_eq_true_iff.mp h with hapart | hlater
      · rw [StepKind.not_allows_of_apart hapart hallows] at hother
        cases hother
      · exact ih hlater hmore

/-- The others cover the first steps, one by one, and leave at least one. -/
def coversBeginning : List PathStep → List PathStep → Bool
  | [], _ :: _ => true
  | other :: others, step :: steps =>
    other.kind.covers step.kind && coversBeginning others steps
  | _, [] => false

theorem Allows.beginning {steps others : List PathStep} {texts : List (List Char)}
    (h : Allows steps texts) (hcovers : coversBeginning others steps = true) :
    others.length < texts.length ∧ Allows others (texts.take others.length) := by
  induction h generalizing others with
  | nil => cases others <;> cases hcovers
  | cons hallows hrest ih =>
    cases others with
    | nil => exact ⟨Nat.succ_pos _, .nil⟩
    | cons other others =>
      obtain ⟨hcover, hmore⟩ := Bool.and_eq_true_iff.mp hcovers
      obtain ⟨hlt, htake⟩ := ih hmore
      exact ⟨Nat.succ_lt_succ hlt, .cons (StepKind.allows_of_covers hcover hallows) htake⟩

end Pattern

end RackTelemetry
