import RackTelemetry.Proofs.Topic.Members
import RackTelemetry.Topic.Filter

/-!
What a topic below one device reaches. Whatever the names in a document on such a topic are, its
paths begin with the topic; so of the rules that match them, each captures the key of the device
first and has a handler that only looks at that device.
-/

namespace RackTelemetry

def deviceBeginning : String := "mbdetnrs/1.0/sensors/devices/"

/-- A topic that is taken, below the device with a key. -/
structure DeviceTopic (key topic : String) : Prop where
  accepted : TopicFilter.card.accepts topic = true
  oneStep : '/' ∉ key.toList
  below : ∃ rest, topic = deviceBeginning ++ key ++ "/" ++ rest

/-- The handler finds one device by the first text of its rule. -/
def Handler.isOfDevice : Handler → Bool
  | .deviceData | .devicePresence | .sensorCount | .sensorIndex | .sensorData | .temperatureValue
  | .sensorEnable | .contactConfig | .contactStatus => true
  | _ => false

/-! ### The step of the device -/

theorem has_notSlash_iff {c : Char} : CharSet.notSlash.has c = true ↔ c ≠ '/' := by
  have hhas : CharSet.notSlash.has c = !((decide ('/' ≤ c) && decide (c ≤ '/')) || false) := by
    show (((decide ('/' ≤ c) && decide (c ≤ '/')) || false) != true) = _
    rw [Bool.bne_true]
  rw [hhas, Bool.not_eq_true', Bool.or_false, Bool.and_eq_false_iff, decide_eq_false_iff_not,
    decide_eq_false_iff_not]
  constructor
  · rintro h rfl
    exact h.elim (absurd (Char.le_refl _)) (absurd (Char.le_refl _))
  · intro hne
    by_cases hle : '/' ≤ c
    · exact .inr fun hge => hne (Char.le_antisymm hge hle)
    · exact .inl hle

/-- A step of a path ends where the next slash is. -/
theorem step_inj {key step rest more : List Char} (hkey : '/' ∉ key)
    (hstep : ∀ c ∈ step, CharSet.notSlash.has c = true)
    (h : key ++ '/' :: rest = step ++ '/' :: more) : key = step ∧ rest = more := by
  have hslash : ∀ tail : List Char, ∀ c ∈ ('/' :: tail).head?, CharSet.notSlash.has c = false := by
    intro tail c hc
    obtain rfl := Option.some.inj hc
    decide
  have hkey' : ∀ c ∈ key, CharSet.notSlash.has c = true := by
    intro c hc
    exact has_notSlash_iff.mpr fun hslash => hkey (hslash ▸ hc)
  obtain ⟨rfl, htail⟩ := Pattern.run_inj hkey' hstep (hslash rest) (hslash more) h
  exact ⟨rfl, (List.cons.inj htail).2⟩

theorem notSlash_of_fits_many {text : List Char} {groups : List (Option (List Char))} {least : Nat}
    (h : (Pattern.many .notSlash least).Fits text groups) :
    ∀ c ∈ text, CharSet.notSlash.has c = true := h.1.2

/-- A part for one step, before a slash, fits exactly the step. -/
theorem Pattern.FitsAll.step {part : Pattern} {cs key rest : List Char} {parts : List Pattern}
    {groups : List (Option (List Char))} (hkey : '/' ∉ key)
    (hpart : ∀ text g, part.Fits text g → ∀ c ∈ text, CharSet.notSlash.has c = true)
    (h : FitsAll (part :: .literal ('/' :: cs) :: parts) (key ++ '/' :: rest) groups) :
    ∃ u g k, rest = cs ++ u ∧ groups = g ++ k ∧ part.Fits key g ∧ FitsAll parts u k := by
  obtain ⟨step, more, g, k, htext, rfl, hstep, hmore⟩ := h
  obtain ⟨u, rfl, hparts⟩ := fitsAll_literal.mp hmore
  obtain ⟨rfl, rfl⟩ := step_inj hkey (hpart step g hstep) htext
  exact ⟨u, g, k, rfl, rfl, hstep, hparts⟩

namespace TopicFilter

/-- Below the devices the pattern leaves a step, and then something that is no number. -/
def leavesStep (pattern : Pattern) : Bool :=
  match pattern.body? with
  | some body =>
    body.isPlain && match Pattern.meet body.parts deviceBeginning.toList with
      | some (.many set 1 :: .literal ['/'] :: part :: _, []) =>
        set = .notSlash && part.begins fun c => !CharSet.digit.has c
      | some (.many set 1 :: .literal ('/' :: c :: _) :: _, []) =>
        set = .notSlash && !CharSet.digit.has c
      | _ => false
  | none => false

theorem leavesStep_card : ∀ pattern ∈ card,
    pattern.rejects deviceBeginning.toList = true ∨ leavesStep pattern = true := by
  decide +kernel

theorem below_of_leavesStep {pattern : Pattern} {topic : String} {params : List String}
    {key below : List Char} (h : leavesStep pattern = true) (hkey : '/' ∉ key)
    (htopic : topic.toList = deviceBeginning.toList ++ (key ++ '/' :: below))
    (hcaptures : pattern.captures? topic = some params) :
    ∃ c rest, below = c :: rest ∧ CharSet.digit.has c = false := by
  unfold leavesStep at h
  split at h
  · next body hbody =>
    obtain ⟨hplain, hleaves⟩ := Bool.and_eq_true_iff.mp h
    rw [Pattern.eq_whole_of_body? hbody] at hcaptures
    split at hleaves
    · next set part more hmeet =>
      obtain ⟨hset, hbegins⟩ := Bool.and_eq_true_iff.mp hleaves
      obtain rfl := of_decide_eq_true hset
      obtain ⟨groups, hfits, -⟩ := Pattern.fitsAll_of_captures? hplain htopic hmeet hcaptures
      obtain ⟨_, _, _, rfl, -, -, text, rest, _, _, rfl, -, hpart, -⟩ :=
        hfits.step hkey fun _ _ => notSlash_of_fits_many
      obtain ⟨c, tail, rfl, hc⟩ := hpart.begins hbegins
      exact ⟨c, tail ++ rest, rfl, by simpa using hc⟩
    · next set c cs more hmeet =>
      obtain ⟨hset, hc⟩ := Bool.and_eq_true_iff.mp hleaves
      obtain rfl := of_decide_eq_true hset
      obtain ⟨groups, hfits, -⟩ := Pattern.fitsAll_of_captures? hplain htopic hmeet hcaptures
      obtain ⟨rest, _, _, rfl, -⟩ := hfits.step hkey fun _ _ => notSlash_of_fits_many
      exact ⟨c, cs ++ rest, rfl, by simpa using hc⟩
    · cases hleaves
  · cases h

end TopicFilter

theorem toList_below_device (key rest : String) :
    (deviceBeginning ++ key ++ "/" ++ rest).toList =
      deviceBeginning.toList ++ (key.toList ++ '/' :: rest.toList) := by
  rw [String.toList_append, String.toList_append, String.toList_append, List.append_assoc,
    List.append_assoc]
  rfl

/-- What stands below the device in a topic that is taken is no number. -/
theorem DeviceTopic.below_no_digit {key topic : String} (h : DeviceTopic key topic) :
    ∃ c rest, topic.toList = deviceBeginning.toList ++ (key.toList ++ '/' :: c :: rest) ∧
      CharSet.digit.has c = false := by
  obtain ⟨below, rfl⟩ := h.below
  have htopic := toList_below_device key below
  obtain ⟨pattern, hmem, hmatch⟩ := List.any_eq_true.mp h.accepted
  rw [← Pattern.isSome_captures?, Option.isSome_iff_exists] at hmatch
  obtain ⟨params, hcaptures⟩ := hmatch
  rcases TopicFilter.leavesStep_card pattern hmem with hrejects | hleaves
  · rw [Pattern.captures?_eq_none_of_rejects hrejects ⟨_, htopic.symm⟩] at hcaptures
    cases hcaptures
  · obtain ⟨c, rest, hbelow, hc⟩ :=
      TopicFilter.below_of_leavesStep hleaves h.oneStep htopic hcaptures
    exact ⟨c, rest, hbelow ▸ htopic, hc⟩

/-! ### The rules below a device -/

/-- Below the devices the pattern leaves the captured key of a device, and the handler looks at that
device only. -/
def TopicRule.isOfDevice (rule : TopicRule) : Bool :=
  match rule.pattern.body?, rule.handler with
  | some body, some handler =>
    body.isPlain && handler.isOfDevice &&
      match Pattern.meet body.parts deviceBeginning.toList with
      | some (.group (.many set 1) :: .literal ('/' :: _) :: _, []) => set = .notSlash
      | _ => false
  | _, _ => false

theorem TopicRule.captures_of_isOfDevice {rule : TopicRule} {key path : String} {below : List Char}
    {params : List String} (h : rule.isOfDevice = true) (hkey : '/' ∉ key.toList)
    (hpath : path.toList = deviceBeginning.toList ++ (key.toList ++ '/' :: below))
    (hcaptures : rule.pattern.captures? path = some params) :
    ∃ handler rest, rule.handler = some handler ∧ handler.isOfDevice = true ∧
      params = key :: rest := by
  unfold TopicRule.isOfDevice at h
  split at h
  · next body handler hbody hhandler =>
    obtain ⟨hboth, hshape⟩ := Bool.and_eq_true_iff.mp h
    obtain ⟨hplain, hofDevice⟩ := Bool.and_eq_true_iff.mp hboth
    rw [Pattern.eq_whole_of_body? hbody] at hcaptures
    split at hshape
    · next set cs parts hmeet =>
      obtain rfl := of_decide_eq_true hshape
      obtain ⟨groups, hfits, rfl⟩ := Pattern.fitsAll_of_captures? hplain hpath hmeet hcaptures
      have hpart : ∀ text g, (Pattern.group (.many .notSlash 1)).Fits text g →
          ∀ c ∈ text, CharSet.notSlash.has c = true := by
        rintro text _ ⟨_, -, hfit⟩
        exact notSlash_of_fits_many hfit
      obtain ⟨_, _, others, -, rfl, ⟨_, rfl, -, rfl⟩, -⟩ := hfits.step hkey hpart
      refine ⟨handler, others.map fun group => String.ofList (group.getD []), hhandler,
        hofDevice, ?_⟩
      rw [List.cons_append, List.nil_append, List.map_cons, Option.getD_some, String.ofList_toList]
    · cases hshape
  · cases h

namespace TopicTable

def deviceCountPattern : Pattern := topicRoot ++ .lit "sensors/devices/members@count"

/-- Apart from the two rules about the list of devices, every rule for paths below the devices is a
rule of a device. -/
theorem isOfDevice_card : ∀ rule ∈ card,
    rule.pattern.rejects deviceBeginning.toList = true ∨
      rule.pattern = .whole deviceCountPattern ∨ rule.pattern = .whole memberPattern ∨
        rule.isOfDevice = true := by
  decide +kernel

variable {key path : String} {c : Char} {below : List Char}

theorem not_captures_deviceCount {params : List String}
    (hpath : path.toList = deviceBeginning.toList ++ (key.toList ++ '/' :: below)) :
    (Pattern.whole deviceCountPattern).captures? path ≠ some params := by
  intro hcaptures
  have hmeet : Pattern.meet deviceCountPattern.parts deviceBeginning.toList =
      some ([.lit "members@count"], []) := by
    decide
  obtain ⟨groups, hfits, -⟩ := Pattern.fitsAll_of_captures? rfl hpath hmeet hcaptures
  obtain ⟨u, htext, rfl, -⟩ := Pattern.fitsAll_literal.mp hfits
  have hslash : '/' ∈ "members@count".toList := by
    rw [List.append_nil] at htext
    rw [← htext]
    exact List.mem_append_right _ List.mem_cons_self
  exact absurd hslash (by decide)

theorem not_captures_member {params : List String} (hkey : '/' ∉ key.toList)
    (hc : CharSet.digit.has c = false)
    (hpath : path.toList = deviceBeginning.toList ++ (key.toList ++ '/' :: c :: below)) :
    (Pattern.whole memberPattern).captures? path ≠ some params := by
  intro hcaptures
  have hmeet : Pattern.meet memberPattern.parts deviceBeginning.toList =
      some ([.lit "members/", .number, .lit "/@id"], []) := by
    decide
  obtain ⟨groups, hfits, -⟩ := Pattern.fitsAll_of_captures? rfl hpath hmeet hcaptures
  obtain ⟨u, htext, digits, _, _, _, rfl, -, hnumber, -⟩ := Pattern.fitsAll_literal.mp hfits
  obtain ⟨-, hne, hdigits⟩ := Pattern.fits_number.mp hnumber
  have hmembers : "members".toList.all CharSet.notSlash.has = true := by decide
  obtain ⟨-, hbelow⟩ := step_inj hkey (List.all_eq_true.mp hmembers) htext
  cases digits with
  | nil => exact hne rfl
  | cons d digits =>
    obtain ⟨rfl, -⟩ := List.cons.inj hbelow
    rw [hdigits c List.mem_cons_self] at hc
    cases hc

/-- A rule that matches a path below a device captures the key of the device first, and its handler
looks at that device only. -/
theorem find?_below_device {topic : String} (h : DeviceTopic key topic)
    (hpath : topic.toList <+: path.toList) {rule : TopicRule} {params : List String}
    (hfind : card.find? path = some (rule, params)) :
    ∃ handler rest, rule.handler = some handler ∧ handler.isOfDevice = true ∧
      params = key :: rest := by
  obtain ⟨c, rest, htopic, hc⟩ := h.below_no_digit
  obtain ⟨more, hmore⟩ := hpath
  have hlist : path.toList =
      deviceBeginning.toList ++ (key.toList ++ '/' :: c :: (rest ++ more)) := by
    rw [← hmore, htopic]
    simp only [List.append_assoc, List.cons_append]
  obtain ⟨hmem, hcaptures⟩ := rule_of_find? hfind
  rcases isOfDevice_card rule hmem with hrejects | hcount | hmember | hdevice
  · rw [Pattern.captures?_eq_none_of_rejects hrejects ⟨_, hlist.symm⟩] at hcaptures
    cases hcaptures
  · rw [hcount] at hcaptures
    exact absurd hcaptures (not_captures_deviceCount hlist)
  · rw [hmember] at hcaptures
    exact absurd hcaptures (not_captures_member h.oneStep hc hlist)
  · exact rule.captures_of_isOfDevice hdevice h.oneStep hlist hcaptures

end TopicTable

end RackTelemetry
