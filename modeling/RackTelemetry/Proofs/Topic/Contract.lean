import RackTelemetry.Proofs.Topic.Members

/-!
What the rules of the card promise to their handlers: as many texts as the handler takes, the name
of a channel where one is read, and a name to publish under where there is no handler. The paths of
the announced devices lead to their handler, whatever version their root has.
-/

namespace RackTelemetry

/-- The handler reads from the second text of its rule which kind of sensors is meant. -/
def Handler.readsChannel : Handler → Bool
  | .sensorCount | .sensorIndex | .sensorData | .sensorEnable => true
  | _ => false

theorem SensorKind.ofChannel_channelName (kind : SensorKind) :
    ofChannel kind.channelName = .ok kind := by
  cases kind with
  | temperature => decide
  | humidity => decide
  | digitalInput => decide

namespace TopicRule

/-- The second group of a pattern only has names of channels. -/
def listsChannels (body : Pattern) : Bool :=
  match body.choices with
  | _ :: some texts :: _ =>
    texts.all fun text => SensorKind.all.any fun kind => kind.channelName.toList = text
  | _ => false

/-- A rule keeps what it owes to its handler, or to the published state. -/
def keepsContract (rule : TopicRule) : Bool :=
  match rule.handler, rule.pattern.body? with
  | some handler, some body =>
    body.isPlain && body.groups = handler.expectedParams &&
      (!handler.readsChannel || listsChannels body)
  | some _, none => false
  | none, _ =>
    match rule.template with
    | some (.fixed name) => name ≠ ""
    | _ => false

variable {rule : TopicRule} {handler : Handler} {path : String} {params : List String}

/-- The texts that a rule gives to its handler are those of the groups of a pattern. -/
theorem fits_of_keepsContract (h : rule.keepsContract = true)
    (hhandler : rule.handler = some handler)
    (hparams : rule.pattern.captures? path = some params) :
    ∃ body groups, body.groups = handler.expectedParams ∧
      (handler.readsChannel = true → listsChannels body = true) ∧
      body.Fits path.toList groups ∧
      params = groups.map fun group => String.ofList (group.getD []) := by
  unfold keepsContract at h
  rw [hhandler] at h
  split at h
  · next found body hfound hbody =>
    obtain rfl := Option.some.inj hfound
    obtain ⟨hboth, hchannels⟩ := Bool.and_eq_true_iff.mp h
    obtain ⟨hplain, hgroups⟩ := Bool.and_eq_true_iff.mp hboth
    rw [Pattern.eq_whole_of_body? hbody] at hparams
    obtain ⟨groups, hfits, hmap⟩ := Pattern.fits_of_captures? hplain hparams
    refine ⟨body, groups, of_decide_eq_true hgroups, ?_, hfits, hmap⟩
    intro hreads
    simpa [hreads] using hchannels
  · cases h
  · next hnone => cases hnone

theorem length_params (h : rule.keepsContract = true) (hhandler : rule.handler = some handler)
    (hparams : rule.pattern.captures? path = some params) :
    params.length = handler.expectedParams := by
  obtain ⟨body, groups, hgroups, -, hfits, rfl⟩ := fits_of_keepsContract h hhandler hparams
  rw [List.length_map, hfits.length_groups, hgroups]

/-- The text of a second group that only has names of channels is the name of one. -/
theorem kind_of_listsChannels {body : Pattern} {text : List Char}
    {groups : List (Option (List Char))} {device channel : String} {rest : List String}
    (hlists : listsChannels body = true) (hfits : body.Fits text groups)
    (hmap : device :: channel :: rest =
      groups.map fun group => String.ofList (group.getD [])) :
    ∃ kind, channel = SensorKind.channelName kind := by
  have hchosen := hfits.chosen
  unfold listsChannels at hlists
  split at hlists
  · next first texts others hchoices =>
    rw [hchoices] at hchosen
    match groups, hchosen with
    | _ :: second :: _, .cons _ (.cons hsecond _) =>
      obtain ⟨text, htext, rfl⟩ := hsecond texts rfl
      obtain ⟨kind, -, hkind⟩ := List.any_eq_true.mp (List.all_eq_true.mp hlists text htext)
      obtain rfl := of_decide_eq_true hkind
      simp only [List.map_cons, Option.getD_some, String.ofList_toList, List.cons.injEq] at hmap
      exact ⟨kind, hmap.2.1⟩
  · cases hlists

/-- Where a handler reads a channel, there is the name of one. -/
theorem kind_of_channel {device channel : String} {rest : List String}
    (h : rule.keepsContract = true) (hhandler : rule.handler = some handler)
    (hparams : rule.pattern.captures? path = some (device :: channel :: rest))
    (hreads : handler.readsChannel = true) : ∃ kind, SensorKind.ofChannel channel = .ok kind := by
  obtain ⟨body, groups, -, hchannels, hfits, hmap⟩ := fits_of_keepsContract h hhandler hparams
  obtain ⟨kind, rfl⟩ := kind_of_listsChannels (hchannels hreads) hfits hmap
  exact ⟨kind, kind.ofChannel_channelName⟩

theorem name_of_direct (h : rule.keepsContract = true) (hhandler : rule.handler = none) :
    ∃ name, rule.template = some (.fixed name) ∧ name ≠ "" := by
  unfold keepsContract at h
  rw [hhandler] at h
  split at h
  · next hsome _ => cases hsome
  · next hsome _ => cases hsome
  · split at h
    · next name htemplate => exact ⟨name, htemplate, of_decide_eq_true h⟩
    · cases h

end TopicRule

namespace TopicTable

theorem keepsContract_card : ∀ rule ∈ card, rule.keepsContract = true := by
  decide

/-! ### The announced devices -/

/-- What stands below the root fits the rest of a pattern that begins with the root. -/
theorem below_topicRoot {parts : List Pattern} {text : List Char}
    {groups : List (Option (List Char))}
    (h : Pattern.FitsAll (topicRoot.parts ++ parts) text groups) :
    ∃ root rest, text = root ++ rest ∧ root.length = 13 ∧ Pattern.FitsAll parts rest groups := by
  change Pattern.FitsAll (.lit "mbdetnrs/1" :: .one .any :: .lit "0/" :: parts) text groups at h
  obtain ⟨u, rfl, hone⟩ := Pattern.fitsAll_literal.mp h
  obtain ⟨_, v, _, k, rfl, rfl, ⟨⟨c, rfl, -⟩, rfl⟩, hslash⟩ := hone
  obtain ⟨rest, rfl, hrest⟩ := Pattern.fitsAll_literal.mp hslash
  exact ⟨"mbdetnrs/1".toList ++ [c] ++ "0/".toList, rest, by simp, rfl, hrest⟩

/-- The pattern begins with the root, and what it allows below the root does not begin like this. -/
def excludes (pattern : Pattern) (below : List Char) : Bool :=
  match pattern.body? with
  | some body =>
    body.isPlain && body.parts = topicRoot.parts ++ body.parts.drop 3 &&
      (Pattern.meet (body.parts.drop 3) below).isNone
  | none => false

theorem captures?_eq_none_of_excludes {pattern : Pattern} {path : String}
    {root below rest : List Char} (h : excludes pattern below = true)
    (hpath : path.toList = root ++ (below ++ rest)) (hroot : root.length = 13) :
    pattern.captures? path = none := by
  unfold excludes at h
  split at h
  · next body hbody =>
    obtain ⟨hboth, hnone⟩ := Bool.and_eq_true_iff.mp h
    obtain ⟨hplain, hparts⟩ := Bool.and_eq_true_iff.mp hboth
    rw [Pattern.eq_whole_of_body? hbody]
    cases hcaptures : (Pattern.whole body).captures? path with
    | none => rfl
    | some params =>
      obtain ⟨groups, hfits, -⟩ := Pattern.fits_of_captures? hplain hcaptures
      have hall := hfits.parts
      rw [of_decide_eq_true hparts] at hall
      obtain ⟨other, tail, htext, hother, htail⟩ := below_topicRoot hall
      rw [hpath] at htext
      obtain ⟨-, rfl⟩ := List.append_inj htext (hroot.trans hother.symm)
      obtain ⟨left, beyond, hmeet, -⟩ := htail.meet
      rw [hmeet] at hnone
      cases hnone
  · cases h

/-- A path that the rule of the announced devices matches leads to their handler. -/
theorem find?_of_isMatch_deviceIndex {rule : TopicRule} {path : String} (hmem : rule ∈ card)
    (hhandler : rule.handler = some .deviceIndex) (hmatch : rule.pattern.isMatch path = true) :
    ∃ params, card.find? path = some (rule, params) := by
  have honly : ∀ rule ∈ card, rule.handler = some .deviceIndex → rule = memberRule := by decide
  obtain rfl := honly rule hmem hhandler
  rw [← Pattern.isSome_captures?, Option.isSome_iff_exists] at hmatch
  obtain ⟨params, hcaptures⟩ := hmatch
  refine ⟨params, find?_of_eq card_eq_append_memberRule ?_ hcaptures⟩
  obtain ⟨groups, hfits, -⟩ := Pattern.fits_of_captures? (p := memberPattern) rfl hcaptures
  obtain ⟨root, rest, hpath, hroot, hrest⟩ := below_topicRoot hfits.parts
  obtain ⟨u, rfl, -⟩ := Pattern.fitsAll_literal.mp hrest
  have hexcludes : ∀ other ∈ card.take 15,
      excludes other.pattern "sensors/devices/members/".toList = true := by
    decide +kernel
  intro other hother
  exact captures?_eq_none_of_excludes (hexcludes other hother) hpath hroot

end TopicTable

end RackTelemetry
