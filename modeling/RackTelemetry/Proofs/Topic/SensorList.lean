import RackTelemetry.Proofs.Topic.Contract
import RackTelemetry.Proofs.Topic.DevicePath

/-!
The paths of the list of sensors of one kind of one device. The number of the sensors and the path
of each lead to the handlers that take them, with the key of the device and the name of the channel
read off the path. Neither has a slash, so each ends where the next slash is, whatever the key of
the device is.
-/

namespace RackTelemetry

namespace TopicTable

def sensorListTopic (device : String) (kind : SensorKind) : String :=
  deviceBeginning ++ device ++ "/channels/" ++ kind.channelName

/-- A path below the list of sensors of a device. -/
def belowSensors (device : List Char) (kind : SensorKind) (rest : List Char) : List Char :=
  deviceBeginning.toList ++
    (device ++ '/' :: ("channels/".toList ++ (kind.channelName.toList ++ '/' :: rest)))

theorem toList_sensorListTopic (device : String) (kind : SensorKind) (rest : String) :
    (sensorListTopic device kind ++ "/" ++ rest).toList =
      belowSensors device.toList kind rest.toList := by
  have hchannels : "/channels/".toList = '/' :: "channels/".toList := by decide
  have hslash : "/".toList = ['/'] := by decide
  simp only [sensorListTopic, belowSensors, String.toList_append, hchannels, hslash,
    List.append_assoc, List.cons_append, List.nil_append]


def sensorCountPattern : Pattern :=
  deviceTopic ++ (channel SensorKind.all ++ .lit "/members@count")

def sensorMemberPattern : Pattern :=
  deviceTopic ++ (channel SensorKind.all ++ .lit "/members/" ++ .number ++ .lit "/@id")

def sensorCountRule : TopicRule := .handled (.whole sensorCountPattern) none .sensorCount

def sensorMemberRule : TopicRule := .handled (.whole sensorMemberPattern) none .sensorIndex

/-! ### What fits -/

variable {device : List Char} {kind : SensorKind} {rest : List Char}

theorem fits_deviceTopic (hne : device ≠ []) (hslash : '/' ∉ device) :
    deviceTopic.Fits (deviceBeginning.toList ++ device) [some device] := by
  have hbeginning : deviceBeginning.toList =
      "mbdetnrs/1.0/".toList ++ "sensors/devices/".toList := by
    decide
  have hstep : Pattern.step.Fits device [some device] :=
    ⟨[], rfl, ⟨List.length_pos_iff.mpr hne,
      fun c hc => has_notSlash_iff.mpr fun h => hslash (h ▸ hc)⟩, rfl⟩
  rw [hbeginning]
  refine Pattern.fits_append.mpr ⟨_, device, [], [some device], rfl, rfl, ?_, hstep⟩
  exact Pattern.fits_append.mpr ⟨_, _, [], [], rfl, rfl, fits_topicRoot, rfl, rfl⟩

theorem fits_channel (kind : SensorKind) :
    (channel SensorKind.all).Fits ("/channels/".toList ++ kind.channelName.toList)
      [some kind.channelName.toList] := by
  refine Pattern.fits_append.mpr ⟨_, _, [], _, rfl, rfl, ⟨rfl, rfl⟩, [], rfl, ?_⟩
  cases kind with
  | temperature => exact .inl ⟨[], rfl, rfl, rfl⟩
  | humidity => exact .inr ⟨[], rfl, .inl ⟨[], rfl, rfl, rfl⟩⟩
  | digitalInput => exact .inr ⟨[], rfl, .inr ⟨[], rfl, rfl, rfl⟩⟩

theorem notSlash_channelName (kind : SensorKind) :
    ∀ c ∈ kind.channelName.toList, CharSet.notSlash.has c = true := by
  apply List.all_eq_true.mp
  cases kind with
  | temperature => rfl
  | humidity => rfl
  | digitalInput => rfl

/-- The device and the channel are captured, and what follows them fits the rest. -/
theorem captured_of_fitsAll {cs : List Char} {parts : List Pattern}
    {groups : List (Option (List Char))} (hslash : '/' ∉ device)
    (h : Pattern.FitsAll (.step :: .literal ('/' :: "channels/".toList) ::
        .group (.oneOf (SensorKind.all.map SensorKind.channelName)) :: .literal ('/' :: cs) :: parts)
      (device ++ '/' :: ("channels/".toList ++ (kind.channelName.toList ++ '/' :: rest))) groups) :
    ∃ u k, rest = cs ++ u ∧ groups = some device :: some kind.channelName.toList :: k ∧
      Pattern.FitsAll parts u k := by
  have hdevice : ∀ text g, Pattern.step.Fits text g →
      ∀ c ∈ text, CharSet.notSlash.has c = true := by
    rintro text _ ⟨_, -, hfit⟩
    exact notSlash_of_fits_many hfit
  have hname : ∀ text g,
      (Pattern.group (.oneOf (SensorKind.all.map SensorKind.channelName))).Fits text g →
        ∀ c ∈ text, CharSet.notSlash.has c = true := by
    rintro text _ ⟨_, -, hfit⟩
    have hmem : text ∈ SensorKind.all.map fun found => found.channelName.toList :=
      hfit.mem_texts rfl
    obtain ⟨found, -, rfl⟩ := List.mem_map.mp hmem
    exact notSlash_channelName found
  have hnoSlash : '/' ∉ kind.channelName.toList := by
    intro hmem
    exact has_notSlash_iff.mp (notSlash_channelName kind _ hmem) rfl
  obtain ⟨u, _, k, hrest, rfl, ⟨_, rfl, -, rfl⟩, hparts⟩ := h.step hslash hdevice
  obtain rfl := List.append_cancel_left hrest
  obtain ⟨u, _, k, rfl, rfl, ⟨g, rfl, hfit⟩, hafter⟩ := hparts.step hnoSlash hname
  have hnone : g = [] := by
    have hlength := hfit.length_groups
    exact List.length_eq_zero_iff.mp hlength
  subst hnone
  exact ⟨u, k, rfl, rfl, hafter⟩

/-! ### The rules before -/

/-- After the step of a device the pattern goes on in another way. -/
def rejectsBelow (pattern : Pattern) (below : List Char) : Bool :=
  match pattern.body? with
  | some body =>
    body.isPlain && match Pattern.meet body.parts deviceBeginning.toList with
      | some (.group (.many set 1) :: .literal ('/' :: cs) :: parts, []) =>
        set = .notSlash && (Pattern.meet (.literal cs :: parts) below).isNone
      | _ => false
  | none => false

theorem captures?_eq_none_of_rejectsBelow {pattern : Pattern} {below : List Char} {path : String}
    (h : rejectsBelow pattern below = true) (hslash : '/' ∉ device)
    (hpath : path.toList = deviceBeginning.toList ++ (device ++ '/' :: (below ++ rest))) :
    pattern.captures? path = none := by
  unfold rejectsBelow at h
  split at h
  · next body hbody =>
    obtain ⟨hplain, hshape⟩ := Bool.and_eq_true_iff.mp h
    rw [Pattern.eq_whole_of_body? hbody]
    cases hcaptures : (Pattern.whole body).captures? path with
    | none => rfl
    | some params =>
      split at hshape
      · next set cs parts hmeet =>
        obtain ⟨hset, hnone⟩ := Bool.and_eq_true_iff.mp hshape
        obtain rfl := of_decide_eq_true hset
        obtain ⟨groups, hfits, -⟩ := Pattern.fitsAll_of_captures? hplain hpath hmeet hcaptures
        have hpart : ∀ text g, (Pattern.group (.many .notSlash 1)).Fits text g →
            ∀ c ∈ text, CharSet.notSlash.has c = true := by
          rintro text _ ⟨_, -, hfit⟩
          exact notSlash_of_fits_many hfit
        obtain ⟨u, _, k, hbelow, -, -, hparts⟩ := hfits.step hslash hpart
        have hall := Pattern.fitsAll_literal.mpr ⟨u, hbelow, hparts⟩
        obtain ⟨left, beyond, hleft, -⟩ := hall.meet
        rw [hleft] at hnone
        cases hnone
      · cases hshape
  · cases h

/-- Of the rules before the lists of sensors, those for paths below a device are the two about the
list of devices, and others that have no channels. -/
theorem rejectsBelow_card : ∀ rule ∈ card.take 22,
    rule.pattern.rejects deviceBeginning.toList = true ∨
      rule.pattern = .whole deviceCountPattern ∨ rule.pattern = .whole memberPattern ∨
        rejectsBelow rule.pattern "channels/".toList = true := by
  decide +kernel

theorem captures?_before_sensors {path : String} (hslash : '/' ∉ device)
    (hpath : path.toList = belowSensors device kind rest) :
    ∀ rule ∈ card.take 22, rule.pattern.captures? path = none := by
  have hkey : '/' ∉ (String.ofList device).toList := by rwa [String.toList_ofList]
  have hlist : path.toList = deviceBeginning.toList ++ ((String.ofList device).toList ++
      '/' :: ("channels/".toList ++ (kind.channelName.toList ++ '/' :: rest))) := by
    rw [String.toList_ofList]
    exact hpath
  have hchannels : "channels/".toList = 'c' :: "hannels/".toList := by decide
  intro rule hmem
  rcases rejectsBelow_card rule hmem with hrejects | hcount | hmember | hbelow
  · exact Pattern.captures?_eq_none_of_rejects hrejects ⟨_, hlist.symm⟩
  · rw [hcount, Option.eq_none_iff_forall_ne_some]
    exact fun params => not_captures_deviceCount hlist
  · rw [hmember, Option.eq_none_iff_forall_ne_some]
    rw [hchannels, List.cons_append] at hlist
    exact fun params => not_captures_member hkey (by decide) hlist
  · exact captures?_eq_none_of_rejectsBelow hbelow hslash hpath

/-! ### The two rules -/

theorem meet_sensorCountPattern :
    Pattern.meet sensorCountPattern.parts deviceBeginning.toList =
      some ([.step, .literal ('/' :: "channels/".toList),
        .group (.oneOf (SensorKind.all.map SensorKind.channelName)),
        .literal ('/' :: "members@count".toList)], []) := by
  decide

theorem meet_sensorMemberPattern :
    Pattern.meet sensorMemberPattern.parts deviceBeginning.toList =
      some ([.step, .literal ('/' :: "channels/".toList),
        .group (.oneOf (SensorKind.all.map SensorKind.channelName)),
        .literal ('/' :: "members/".toList), .number, .lit "/@id"], []) := by
  decide

theorem card_eq_append_sensorCountRule :
    card = card.take 22 ++ sensorCountRule :: card.drop 23 := rfl

theorem card_eq_append_sensorMemberRule :
    card = (card.take 22 ++ [sensorCountRule]) ++ sensorMemberRule :: card.drop 24 := rfl

variable {key : String}

/-- The path of the number of sensors leads to its handler. -/
theorem find?_sensorCount (hne : key ≠ "") (hslash : '/' ∉ key.toList) (kind : SensorKind) :
    card.find? (sensorListTopic key kind ++ "/" ++ "members@count") =
      some (sensorCountRule, [key, kind.channelName]) := by
  have hpath := toList_sensorListTopic key kind "members@count"
  have hnil : key.toList ≠ [] := fun h => hne (String.toList_inj.mp h)
  refine find?_of_eq card_eq_append_sensorCountRule
    (captures?_before_sensors hslash hpath) ?_
  have hfits : sensorCountPattern.Fits
      (sensorListTopic key kind ++ "/" ++ "members@count").toList
      [some key.toList, some kind.channelName.toList] := by
    have hlist : (sensorListTopic key kind ++ "/" ++ "members@count").toList =
        deviceBeginning.toList ++ key.toList ++
          ("/channels/".toList ++ kind.channelName.toList ++ "/members@count".toList) := by
      simp only [sensorListTopic, String.toList_append, List.append_assoc]
      rfl
    rw [hlist]
    refine Pattern.fits_append.mpr ⟨_, _, [_], [_], rfl, rfl, fits_deviceTopic hnil hslash, ?_⟩
    exact Pattern.fits_append.mpr ⟨_, _, [_], [], rfl, rfl, fits_channel kind, rfl, rfl⟩
  have hcaptures := Pattern.captures?_of_fits (p := sensorCountPattern) rfl hfits ?_
  · simp only [List.map_cons, Option.getD_some, List.map_nil, String.ofList_toList] at hcaptures
    exact hcaptures
  · intro groups hother
    rw [hpath] at hother
    obtain ⟨u, k, -, rfl, -, rfl⟩ :=
      captured_of_fitsAll hslash (hother.fitsAll meet_sensorCountPattern)
    rfl

theorem not_captures_sensorCount {path : String} (hslash : '/' ∉ device)
    (hpath : path.toList = belowSensors device kind ("members/".toList ++ rest)) :
    sensorCountRule.pattern.captures? path = none := by
  rw [Option.eq_none_iff_forall_ne_some]
  intro params hcaptures
  have hplain : sensorCountPattern.isPlain = true := rfl
  obtain ⟨groups, hfits, -⟩ :=
    Pattern.fitsAll_of_captures? hplain hpath meet_sensorCountPattern hcaptures
  obtain ⟨u, k, hrest, -, rfl, -⟩ := captured_of_fitsAll hslash hfits
  have hslash' : '/' ∈ "members@count".toList := by
    rw [List.append_nil] at hrest
    rw [← hrest]
    exact List.mem_append_left _ (by decide)
  exact absurd hslash' (by decide)

/-- The path of a sensor leads to its announcement. -/
theorem find?_sensorMember (hne : key ≠ "") (hslash : '/' ∉ key.toList) (kind : SensorKind)
    (index : Nat) :
    card.find? (sensorListTopic key kind ++ "/" ++ "members" ++ "/" ++ toString index ++ "/" ++
        "@id") =
      some (sensorMemberRule, [key, kind.channelName, toString index]) := by
  have hnil : key.toList ≠ [] := fun h => hne (String.toList_inj.mp h)
  have hid : "/@id".toList.head? = some '/' := rfl
  have hpath : (sensorListTopic key kind ++ "/" ++ "members" ++ "/" ++ toString index ++ "/" ++
      "@id").toList =
        belowSensors key.toList kind
          ("members/".toList ++ ((toString index).toList ++ "/@id".toList)) := by
    have hbelow := toList_sensorListTopic key kind ("members/" ++ toString index ++ "/@id")
    simp only [String.toList_append, List.append_assoc] at hbelow ⊢
    exact hbelow
  refine find?_of_eq card_eq_append_sensorMemberRule ?_ ?_
  · intro rule hmem
    rcases List.mem_append.mp hmem with hbefore | hcount
    · exact captures?_before_sensors hslash hpath rule hbefore
    · obtain rfl := List.mem_singleton.mp hcount
      exact not_captures_sensorCount hslash hpath
  have hfits : sensorMemberPattern.Fits
      (sensorListTopic key kind ++ "/" ++ "members" ++ "/" ++ toString index ++ "/" ++
        "@id").toList
      [some key.toList, some kind.channelName.toList, some (toString index).toList] := by
    have hlist : (sensorListTopic key kind ++ "/" ++ "members" ++ "/" ++ toString index ++ "/" ++
        "@id").toList =
          deviceBeginning.toList ++ key.toList ++
            ("/channels/".toList ++ kind.channelName.toList ++ "/members/".toList ++
              (toString index).toList ++ "/@id".toList) := by
      simp only [sensorListTopic, String.toList_append, List.append_assoc]
      rfl
    rw [hlist]
    refine Pattern.fits_append.mpr ⟨_, _, [_], [_, _], rfl, rfl, fits_deviceTopic hnil hslash, ?_⟩
    refine Pattern.fits_append.mpr ⟨_, _, [_, _], [], rfl, rfl, ?_, rfl, rfl⟩
    refine Pattern.fits_append.mpr ⟨_, _, [_], [_], rfl, rfl, ?_, fits_toString index⟩
    exact Pattern.fits_append.mpr ⟨_, _, [_], [], rfl, rfl, fits_channel kind, rfl, rfl⟩
  have hcaptures := Pattern.captures?_of_fits (p := sensorMemberPattern) rfl hfits ?_
  · simp only [List.map_cons, Option.getD_some, List.map_nil, String.ofList_toList] at hcaptures
    exact hcaptures
  · intro groups hother
    rw [hpath] at hother
    obtain ⟨u, k, hrest, rfl, hnumber⟩ :=
      captured_of_fitsAll hslash (hother.fitsAll meet_sensorMemberPattern)
    obtain rfl := List.append_cancel_left hrest
    rw [(number_of_fitsAll hid hid hnumber).2]

end TopicTable

end RackTelemetry
