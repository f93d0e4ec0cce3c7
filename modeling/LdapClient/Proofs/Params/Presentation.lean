/-
# LdapClient.Proofs.Params.Presentation -- one reading for all presentations of the parameters

The same parameters can be written in many ways: the members of an object in any order, among
members that mean nothing here, under either name of a field, or as a list of values.  All of them
are read alike (`documents_read_alike`): to the same parameters, or to a refusal in all cases.

The argument is that none of this changes what the document sets, as a collection
(`Rearranged.sameContent`), and that settings of different fields can be made in any order
(`ofSettings_perm`).
-/
import LdapClient.Proofs.Params.Document
import Mathlib.Data.List.Basic

namespace LdapClient.Params

open Json

/-! ## Settings in any order -/

theorem apply_apply_comm {one other : Setting} (h : one.field ≠ other.field) (params : Params) :
    Setting.apply (Setting.apply params one) other =
      Setting.apply (Setting.apply params other) one := by
  cases one <;> cases other <;> first | rfl | exact absurd rfl h

theorem foldl_apply_perm {one other : List Setting} (h : one.Perm other)
    (hdistinct : (one.map Setting.field).Nodup) (params : Params) :
    one.foldl Setting.apply params = other.foldl Setting.apply params := by
  induction h generalizing params with
  | nil => rfl
  | cons setting _ ih => exact ih (List.nodup_cons.mp hdistinct).2 _
  | swap first second rest =>
    have hne : second.field ≠ first.field := by
      intro heq
      simp [heq] at hdistinct
    rw [List.foldl_cons, List.foldl_cons, apply_apply_comm hne]
    rfl
  | trans hone _ ihone ihother =>
    rw [ihone hdistinct, ihother ((hone.map Setting.field).nodup_iff.mp hdistinct)]

theorem ofSettings_perm {one other : List Setting} (h : one.Perm other)
    (hdistinct : (one.map Setting.field).Nodup) : ofSettings one = ofSettings other :=
  foldl_apply_perm h hdistinct {}

/-! ## Rearranged objects -/

/-- The names of the fields that have two. -/
def aliases : List (String × String) :=
  [("uris", "uries"), ("bind_dn", "binddn"), ("bind_password", "bindpw"),
    ("use_start_tls", "use_tls"), ("network_timeout_secs", "nettimeout"),
    ("time_limit_secs", "timelimit")]

/-- The two names are one, or the two names of a field. -/
def SameName (name other : String) : Prop :=
  name = other ∨ (name, other) ∈ aliases

theorem SameName.named?_eq {name other : String} (h : SameName name other) :
    Field.named? name = Field.named? other := by
  have hall : ∀ pair ∈ aliases, Field.named? pair.1 = Field.named? pair.2 := by decide
  rcases h with rfl | h
  · rfl
  · exact hall _ h

/-- The members of one object are those of the other, but for their order, members whose name is
not that of a field, and the choice between the names of a field. -/
inductive Rearranged : List Member → List Member → Prop
  | permuted {members others : List Member} (h : members.Perm others) : Rearranged members others
  | inserted (before after : List Member) {member : Member} (hcalled : member.called?.isSome)
      (hstrange : ∀ field, ¬ Names member field) :
      Rearranged (before ++ after) (before ++ member :: after)
  | renamed (before after : List Member) {member other : Member} {name otherName : String}
      (hname : member.called? = some name) (hother : other.called? = some otherName)
      (hsame : SameName name otherName) (hvalue : member.value = other.value) :
      Rearranged (before ++ member :: after) (before ++ other :: after)
  | back {members others : List Member} (h : Rearranged members others) :
      Rearranged others members
  | trans {members others third : List Member} (h : Rearranged members others)
      (hthird : Rearranged others third) : Rearranged members third

/-- The members can be read in both cases or in neither; they name the same fields and set the
same, in some order. -/
structure SameContent (members others : List Member) : Prop where
  readable : (∀ member ∈ members, Readable member) ↔ ∀ member ∈ others, Readable member
  fields : (members.filterMap fieldOf).Perm (others.filterMap fieldOf)
  settings : (members.filterMap settingBy).Perm (others.filterMap settingBy)

theorem SameContent.symm {members others : List Member} (h : SameContent members others) :
    SameContent others members where
  readable := h.readable.symm
  fields := h.fields.symm
  settings := h.settings.symm

theorem SameContent.trans {members others third : List Member} (h : SameContent members others)
    (hthird : SameContent others third) : SameContent members third where
  readable := h.readable.trans hthird.readable
  fields := h.fields.trans hthird.fields
  settings := h.settings.trans hthird.settings

theorem sameContent_of_perm {members others : List Member} (h : members.Perm others) :
    SameContent members others where
  readable := by simp only [h.mem_iff]
  fields := h.filterMap fieldOf
  settings := h.filterMap settingBy

/-- A member whose name is not that of a field is read, and sets nothing. -/
theorem sameContent_insert (before after : List Member) {member : Member}
    (hcalled : member.called?.isSome) (hstrange : ∀ field, ¬ Names member field) :
    SameContent (before ++ after) (before ++ member :: after) := by
  have hfield : fieldOf member = none := fieldOf_eq_none_iff.mpr hstrange
  have hreadable : Readable member := by simp [Readable, hcalled, hfield]
  have hsetting : settingBy member = none := by simp [settingBy, hfield]
  refine ⟨?_, ?_, ?_⟩
  · simp [or_imp, forall_and, hreadable]
  · simp [hfield]
  · simp [hsetting]

/-- Which of its names a field is set by makes no difference. -/
theorem sameContent_rename (before after : List Member) {member other : Member}
    {name otherName : String} (hname : member.called? = some name)
    (hother : other.called? = some otherName) (hsame : SameName name otherName)
    (hvalue : member.value = other.value) :
    SameContent (before ++ member :: after) (before ++ other :: after) := by
  have hfield : fieldOf member = fieldOf other := by
    simp [fieldOf, hname, hother, hsame.named?_eq]
  have hreadable : Readable member ↔ Readable other := by
    simp [Readable, hname, hother, hfield, hvalue]
  have hsetting : settingBy member = settingBy other := by
    simp [settingBy, hfield, hvalue]
  refine ⟨?_, ?_, ?_⟩
  · simp [or_imp, forall_and, hreadable]
  · simp [List.filterMap_cons, hfield]
  · simp [List.filterMap_cons, hsetting]

theorem Rearranged.sameContent {members others : List Member} (h : Rearranged members others) :
    SameContent members others := by
  induction h with
  | permuted h => exact sameContent_of_perm h
  | inserted before after hcalled hstrange =>
    exact sameContent_insert before after hcalled hstrange
  | renamed before after hname hother hsame hvalue =>
    exact sameContent_rename before after hname hother hsame hvalue
  | back _ ih => exact ih.symm
  | trans _ _ ih ihthird => exact ih.trans ihthird

theorem SameContent.accepted {members others : List Member} (h : SameContent members others) :
    Accepted [] members ↔ Accepted [] others := by
  rw [accepted_iff, accepted_iff, h.readable, h.fields.nodup_iff]

/-! ## Readings -/

/-- The document is refused as a wrong parameter. -/
def Refused (reading : Except Failure Params) : Prop :=
  ∃ failure, reading = .error failure ∧ failure.code.value = 89

/-- Both documents give these parameters, or both are refused. -/
def SameReading (reading other : Except Failure Params) : Prop :=
  (∃ params, reading = .ok params ∧ other = .ok params) ∨ (Refused reading ∧ Refused other)

theorem refused_param (message : String) : Refused (.error (.param message)) :=
  ⟨.param message, rfl, rfl⟩

theorem ensureValid_cases (params : Params) :
    params.ensureValid = .ok () ∨ ∃ message, params.ensureValid = .error (.param message) := by
  unfold ensureValid
  split
  · exact .inl rfl
  · exact .inr ⟨_, rfl⟩

/-- What can be read of a document is accepted if it satisfies the rules. -/
theorem ofJson_of_parse {text : String} {params : Params} (h : parse text = .ok params) :
    (ofJson text = .ok params ∧ params.ensureValid = .ok ()) ∨ Refused (ofJson text) := by
  rw [ofJson, h]
  rcases ensureValid_cases params with hvalid | ⟨message, hinvalid⟩
  · exact .inl ⟨by simp only [hvalid], hvalid⟩
  · right
    simp only [hinvalid]
    exact refused_param message

/-- What is accepted satisfies the rules. -/
theorem ensureValid_of_ofJson {text : String} {params : Params} (h : ofJson text = .ok params) :
    params.ensureValid = .ok () := by
  cases hparse : parse text with
  | error fault => simp [ofJson, hparse] at h
  | ok read =>
    rcases ofJson_of_parse hparse with ⟨hread, hvalid⟩ | ⟨failure, hrefused, -⟩
    · rw [hread, Except.ok.injEq] at h
      rw [← h]
      exact hvalid
    · rw [h] at hrefused
      cases hrefused

theorem refused_of_parse {text : String} (h : ∀ params, parse text ≠ .ok params) :
    Refused (ofJson text) := by
  rw [ofJson]
  cases hparse : parse text with
  | error fault => exact refused_param _
  | ok params => exact absurd hparse (h params)

/-- The rules are about the parameters alone, so documents that are read to the same parameters
have the same fate. -/
theorem sameReading_of_parse {one other : String}
    (h : ∀ params, parse one = .ok params ↔ parse other = .ok params) :
    SameReading (ofJson one) (ofJson other) := by
  cases hone : parse one with
  | error fault =>
    have hnone : ∀ params, parse one ≠ .ok params := by simp [hone]
    have hother : ∀ params, parse other ≠ .ok params := by
      intro params hparse
      exact hnone params ((h params).mpr hparse)
    exact .inr ⟨refused_of_parse hnone, refused_of_parse hother⟩
  | ok params =>
    have hsame : parse one = parse other := hone.trans ((h params).mp hone).symm
    have heq : ofJson other = ofJson one := by rw [ofJson, ofJson, hsame]
    rw [heq]
    rcases ofJson_of_parse hone with ⟨haccepted, -⟩ | hrefused
    · exact .inl ⟨params, haccepted, haccepted⟩
    · exact .inr ⟨hrefused, hrefused⟩

section Documents

variable {text other list object : String} {members others : List Member}

/-- An object gives what its members set on top of the defaults, if they can be read. -/
theorem parse_object_iff (hwrites : Writes text (.object members)) (params : Params) :
    parse text = .ok params ↔
      Accepted [] members ∧ params = ofSettings (members.filterMap settingBy) :=
  map_eq_ok_iff (readWhole_eq_ok_iff hwrites fun _ => readSettings_object) ofSettings params

/-- A list gives what its values set for the fields that they are for. -/
theorem parse_list_iff (hwrites : Writes text (.list (members.map Member.value)))
    (horder : InOrder Field.all members) (params : Params) :
    parse text = .ok params ↔
      (∀ member ∈ members, Readable member) ∧
        params = ofSettings (members.filterMap settingBy) :=
  map_eq_ok_iff (readWhole_eq_ok_iff hwrites fun _ => readSettings_list horder) ofSettings params

/-- The settings of readable members are for the fields that they name. -/
theorem map_field_settings (h : ∀ member ∈ members, Readable member) :
    (members.filterMap settingBy).map Setting.field = members.filterMap fieldOf := by
  rw [List.map_filterMap]
  exact List.filterMap_congr fun member hmember => (h member hmember).field_settingBy

/-- Objects with the same content are read to the same parameters. -/
theorem SameContent.parse_iff (h : SameContent members others)
    (hwrites : Writes text (.object members)) (hother : Writes other (.object others))
    (params : Params) : parse text = .ok params ↔ parse other = .ok params := by
  rw [parse_object_iff hwrites, parse_object_iff hother, h.accepted]
  apply and_congr_right
  intro haccepted
  have hdistinct : ((members.filterMap settingBy).map Setting.field).Nodup := by
    rw [map_field_settings (h.readable.mpr haccepted.readable), h.fields.nodup_iff]
    exact haccepted.distinct
  rw [ofSettings_perm h.settings hdistinct]

/-- Two of the members name one field, each by either of its names. -/
def NamesTwice (members : List Member) : Prop :=
  ∃ (before between after : List Member) (first second : Member) (field : Field),
    members = before ++ first :: (between ++ second :: after) ∧
      Names first field ∧ Names second field

theorem NamesTwice.not_accepted (h : NamesTwice members) : ¬ Accepted [] members := by
  obtain ⟨before, between, after, first, second, field, rfl, hfirst, hsecond⟩ := h
  rw [← fieldOf_eq_some_iff] at hfirst hsecond
  intro haccepted
  have hdistinct := haccepted.distinct
  simp [hfirst, hsecond, List.nodup_append] at hdistinct

/-- Members that name these fields, one by one. -/
theorem map_fieldOf {fields : List Field} (h : List.Forall₂ Names members fields) :
    members.map fieldOf = fields.map some := by
  induction h with
  | nil => rfl
  | cons hname _ ih => rw [List.map_cons, List.map_cons, ih, fieldOf_eq_some_iff.mpr hname]

/-- Members for the first fields in order name no field twice. -/
theorem InOrder.distinct (h : InOrder Field.all members) : (members.filterMap fieldOf).Nodup := by
  have hsub : ((members.map fieldOf).filterMap id).Sublist Field.all := h.sublist.filterMap id
  have hall : Field.all.Nodup := by decide
  rw [List.filterMap_map] at hsub
  exact hall.sublist hsub

/-- A list is read like an object whose members are for the first fields in order. -/
theorem InOrder.parse_iff (h : InOrder Field.all members)
    (hlist : Writes list (.list (members.map Member.value)))
    (hobject : Writes object (.object members)) (params : Params) :
    parse list = .ok params ↔ parse object = .ok params := by
  rw [parse_list_iff hlist h, parse_object_iff hobject, accepted_iff, and_iff_left h.distinct]

end Documents

/-- However parameters are presented, the reading is the same: objects that are rearranged, a field
named twice, a list for an object, and what is accepted satisfies the rules. -/
theorem documents_read_alike :
    (∀ (text other : String) (members others : List Member),
      Writes text (.object members) → Writes other (.object others) →
        Rearranged members others → SameReading (ofJson text) (ofJson other)) ∧
    (∀ (text : String) (members : List Member),
      Writes text (.object members) → NamesTwice members → Refused (ofJson text)) ∧
    (∀ (list object : String) (values : List Value) (members : List Member),
      values.length ≤ 15 → Writes list (.list values) → Writes object (.object members) →
        members.map Member.value = values →
        List.Forall₂ Names members (Field.all.take values.length) →
        SameReading (ofJson list) (ofJson object)) ∧
    ∀ (text : String) (params : Params),
      ofJson text = .ok params → params.ensureValid = .ok () := by
  refine ⟨?_, ?_, ?_, ?_⟩
  · intro text other members others hwrites hother hrearranged
    exact sameReading_of_parse (hrearranged.sameContent.parse_iff hwrites hother)
  · intro text members hwrites htwice
    apply refused_of_parse
    intro params hparse
    exact htwice.not_accepted ((parse_object_iff hwrites params).mp hparse).1
  · rintro list object values members - hlist hobject rfl horder
    have hfirst : InOrder Field.all members := by
      rw [InOrder, map_fieldOf horder]
      exact (List.take_prefix _ _).map some
    exact sameReading_of_parse (hfirst.parse_iff hlist hobject)
  · intro text params haccepted
    exact ensureValid_of_ofJson haccepted

/-- A name or text that is written without escapes. -/
def plain (text : String) : List Piece :=
  text.toList.map .char

/-- A member that sets the domain. -/
def domainMember : Member :=
  .mk (plain "domain") (.text (plain "d"))

/-- A member that means nothing here. -/
def strangeMember : Member :=
  .mk (plain "x") (.list [.number ⟨false, [1], none, none⟩])

/-- A member that asks for StartTLS, if this is a name for it. -/
def startTlsMember (name : String) : Member :=
  .mk (plain name) (.word .true)

theorem startTls_rearranged :
    Rearranged [domainMember, strangeMember, startTlsMember "use_tls"]
      [startTlsMember "use_start_tls", domainMember] := by
  have hstrange : Rearranged [domainMember, startTlsMember "use_tls"]
      [domainMember, strangeMember, startTlsMember "use_tls"] := by
    have hstrange : ∀ field, ¬ Names strangeMember field :=
      fieldOf_eq_none_iff.mp (by decide)
    exact .inserted [domainMember] [startTlsMember "use_tls"] (by decide) hstrange
  have horder : Rearranged [domainMember, startTlsMember "use_tls"]
      [startTlsMember "use_tls", domainMember] := .permuted (.swap _ _ _)
  have hname : Rearranged [startTlsMember "use_start_tls", domainMember]
      [startTlsMember "use_tls", domainMember] := by
    have hmain : (startTlsMember "use_start_tls").called? = some "use_start_tls" := by decide
    have hother : (startTlsMember "use_tls").called? = some "use_tls" := by decide
    exact .renamed [] [domainMember] hmain hother (.inr (by decide)) rfl
  exact hstrange.back.trans (horder.trans hname.back)

/-- Two objects that ask for StartTLS, an object that names one field twice, and a list that sets
the domain beside the object that does. -/
theorem domain_documents_read_alike :
    SameReading (ofJson "\x7b\"domain\":\"d\",\"x\":[1],\"use_tls\":true\x7d")
        (ofJson "\x7b \"use_start_tls\": true, \"domain\": \"d\" \x7d") ∧
      Refused (ofJson "\x7b\"uris\":[],\"uries\":[]\x7d") ∧
      SameReading (ofJson "[\"d\"]") (ofJson "\x7b\"domain\":\"d\"\x7d") ∧
      ofJson "[\"d\"]" = .ok { domain := "d" } ∧
      ({ domain := "d" } : Params).ensureValid = .ok () := by
  have hlist : Writes "[\"d\"]" (.list [.text (plain "d")]) := by
    unfold Writes
    decide +kernel
  have hread : ofJson "[\"d\"]" = .ok { domain := "d" } := by
    rw [ofJson, parse, readWhole, hlist]
    rfl
  refine ⟨?_, ?_, ?_, hread, ?_⟩
  · exact documents_read_alike.1 _ _ _ _ (by unfold Writes; decide +kernel)
      (by unfold Writes; decide +kernel) startTls_rearranged
  · apply documents_read_alike.2.1 _
      [.mk (plain "uris") (.list []), .mk (plain "uries") (.list [])]
    · unfold Writes
      decide +kernel
    · exact ⟨[], [], [], _, _, .uris, rfl, by decide, by decide⟩
  · apply documents_read_alike.2.2.1 _ _ [.text (plain "d")] [domainMember] (by decide) hlist
    · unfold Writes
      decide +kernel
    · rfl
    · exact .cons (by decide) .nil
  · exact documents_read_alike.2.2.2 _ _ hread

end LdapClient.Params
