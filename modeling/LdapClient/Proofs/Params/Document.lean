/-
# LdapClient.Proofs.Params.Document -- what a document sets

A member is `Readable` if its name stands for a string and, where that names a field, the value
suits the field.  An object is read if all its members are readable and no field is named twice;
what it sets is what its members set (`readSettings_object`).  A list is read if its values suit
the fields in order (`readSettings_list`).
-/
import LdapClient.Params.Document
import LdapClient.Proofs.Json.Value

namespace LdapClient.Params

open Json

/-- What is made of a result that is there under a condition is there under the same condition. -/
theorem map_eq_ok_iff {ε α β : Type} {condition : Prop} {result : Except ε α} {a : α}
    (h : ∀ x, result = .ok x ↔ condition ∧ x = a) (f : α → β) (b : β) :
    result.map f = .ok b ↔ condition ∧ b = f a := by
  cases result with
  | error e =>
    have hnot : ¬ condition := fun hcondition => nomatch (h a).mpr ⟨hcondition, rfl⟩
    simp [Except.map, hnot]
  | ok x =>
    obtain ⟨hcondition, rfl⟩ := (h x).mp rfl
    simp [Except.map, hcondition, eq_comm]

/-! ## Values for fields -/

/-- Every field has a reader of its own that keeps to the value, and sets what that reads. -/
theorem readSetting_eq (field : Field) :
    ∃ (α : Type) (make : α → Setting) (reader : List Token → Read α), KeepsToValue reader ∧
      (∀ value, (make value).field = field) ∧
      ∀ tokens, readSetting field tokens = settingOf make (reader tokens) := by
  have htext := keepsToValue_readText .text
  have hbool := keepsToValue_readBool
  have hint := keepsToValue_readInt .int64 (-9223372036854775808) 9223372036854775807
  have hpath := keepsToValue_readPath?
  cases field with
  | domain => exact ⟨_, Setting.domain, _, htext, fun _ => rfl, fun _ => rfl⟩
  | site => exact ⟨_, Setting.site, _, htext, fun _ => rfl, fun _ => rfl⟩
  | uris => exact ⟨_, Setting.uris, _, keepsToValue_readTexts, fun _ => rfl, fun _ => rfl⟩
  | bindDn => exact ⟨_, Setting.bindDn, _, htext, fun _ => rfl, fun _ => rfl⟩
  | bindPassword =>
    exact ⟨_, fun value => Setting.bindPassword ⟨value⟩, _, htext, fun _ => rfl, fun _ => rfl⟩
  | searchBase => exact ⟨_, Setting.searchBase, _, htext, fun _ => rfl, fun _ => rfl⟩
  | secured => exact ⟨_, Setting.secured, _, hbool, fun _ => rfl, fun _ => rfl⟩
  | useGssapi => exact ⟨_, Setting.useGssapi, _, hbool, fun _ => rfl, fun _ => rfl⟩
  | useLdaps => exact ⟨_, Setting.useLdaps, _, hbool, fun _ => rfl, fun _ => rfl⟩
  | useStartTls => exact ⟨_, Setting.useStartTls, _, hbool, fun _ => rfl, fun _ => rfl⟩
  | networkTimeout => exact ⟨_, Setting.networkTimeout, _, hint, fun _ => rfl, fun _ => rfl⟩
  | timeLimit => exact ⟨_, Setting.timeLimit, _, hint, fun _ => rfl, fun _ => rfl⟩
  | keytab => exact ⟨_, Setting.keytab, _, hpath, fun _ => rfl, fun _ => rfl⟩
  | tlsVerify => exact ⟨_, Setting.tlsVerify, _, hbool, fun _ => rfl, fun _ => rfl⟩
  | tlsCaCert => exact ⟨_, Setting.tlsCaCert, _, hpath, fun _ => rfl, fun _ => rfl⟩

/-- What a value sets a field to; `none` if it does not suit the field. -/
def settingFor (field : Field) (value : Value) : Option Setting :=
  (readSetting field value.tokens).toOption.map Prod.fst

/-- A value suits a field or not, whatever comes behind it; one that does sets that field. -/
theorem readSetting_tokens (field : Field) (value : Value) (rest : List Token) :
    (∃ fault, settingFor field value = none ∧
      readSetting field (value.tokens ++ rest) = .error fault) ∨
    (∃ setting, settingFor field value = some setting ∧ setting.field = field ∧
      readSetting field (value.tokens ++ rest) = .ok (setting, rest)) := by
  obtain ⟨α, make, reader, hkeeps, hfield, hread⟩ := readSetting_eq field
  rw [settingFor, hread, hread, hkeeps value rest]
  cases reader value.tokens with
  | error fault => exact .inl ⟨fault, rfl, rfl⟩
  | ok read => exact .inr ⟨make read.1, rfl, hfield read.1, rfl⟩

/-! ## Members -/

/-- The member names this field, by either of the names that the field has. -/
def Names (member : Member) (field : Field) : Prop :=
  ∃ called, member.called? = some called ∧
    (called = field.name ∨ field.otherName = some called)

/-- The field that a member names. -/
def fieldOf (member : Member) : Option Field :=
  member.called?.bind Field.named?

/-- No two fields share a name, so looking a name up finds the field that has it. -/
theorem named?_eq_some_iff {called : String} {field : Field} :
    Field.named? called = some field ↔ called = field.name ∨ field.otherName = some called := by
  constructor
  · intro h
    have hfound := List.find?_some h
    rw [Bool.or_eq_true, beq_iff_eq, beq_iff_eq] at hfound
    exact hfound.imp_left Eq.symm
  · rintro (rfl | hother)
    · cases field <;> rfl
    · cases field <;> cases hother <;> rfl

theorem fieldOf_eq_some_iff {member : Member} {field : Field} :
    fieldOf member = some field ↔ Names member field := by
  simp only [fieldOf, Names, Option.bind_eq_some_iff, named?_eq_some_iff]

instance (member : Member) (field : Field) : Decidable (Names member field) :=
  decidable_of_iff (fieldOf member = some field) fieldOf_eq_some_iff

theorem fieldOf_eq_none_iff {member : Member} :
    fieldOf member = none ↔ ∀ field, ¬ Names member field := by
  simp only [← fieldOf_eq_some_iff, Option.eq_none_iff_forall_ne_some]

/-- What a member sets. -/
def settingBy (member : Member) : Option Setting :=
  (fieldOf member).bind fun field => settingFor field member.value

/-- The name stands for a string, and if that names a field then the value suits the field. -/
def Readable (member : Member) : Prop :=
  member.called?.isSome ∧ ∀ field ∈ fieldOf member, (settingFor field member.value).isSome

theorem called?_isSome {member : Member} {field : Field} (h : fieldOf member = some field) :
    member.called?.isSome := by
  obtain ⟨called, hcalled, -⟩ := Option.bind_eq_some_iff.mp h
  rw [hcalled]
  rfl

theorem readable_iff_of_fieldOf {member : Member} {field : Field}
    (h : fieldOf member = some field) :
    Readable member ↔ (settingFor field member.value).isSome := by
  simp [Readable, called?_isSome h, h]

theorem settingBy_of_fieldOf {member : Member} {field : Field} (h : fieldOf member = some field) :
    settingBy member = settingFor field member.value := by
  simp [settingBy, h]

/-- A readable member sets the field that it names. -/
theorem Readable.field_settingBy {member : Member} (h : Readable member) :
    (settingBy member).map Setting.field = fieldOf member := by
  cases hfield : fieldOf member with
  | none => simp [settingBy, hfield]
  | some field =>
    rw [settingBy_of_fieldOf hfield]
    rcases readSetting_tokens field member.value [] with ⟨_, hnone, _⟩ | ⟨setting, hsome, hf, _⟩
    · have hsuits := (readable_iff_of_fieldOf hfield).mp h
      simp [hnone] at hsuits
    · simp [hsome, hf]

section Member

variable {seen : List Field} {member : Member} {called : String} {rest : List Token}

theorem fieldOf_of_called (hname : decodeString member.name none = .ok called) :
    fieldOf member = Field.named? called := by
  simp [fieldOf, Member.called?, hname, Except.toOption]

/-- The name of a member is taken off together with the colon. -/
theorem readName_fresh (hname : decodeString member.name none = .ok called)
    (hfresh : ∀ field ∈ fieldOf member, field ∉ seen) (rest : List Token) :
    readName seen (.text member.name none :: .colon :: rest) = .ok (fieldOf member, rest) := by
  rw [fieldOf_of_called hname] at hfresh ⊢
  have hnone : (Field.named? called).filter seen.contains = none := by
    simpa using hfresh
  simp only [readName, hname, hnone]

/-- A name of a field among `seen` is refused. -/
theorem readName_seen (hname : decodeString member.name none = .ok called) {field : Field}
    (hfield : fieldOf member = some field) (hseen : field ∈ seen) :
    readName seen (.text member.name none :: .colon :: rest) = .error (.duplicate field.name) := by
  rw [fieldOf_of_called hname] at hfield
  have hsome : (Field.named? called).filter seen.contains = some field := by
    simp [hfield, Option.filter_some, hseen]
  simp only [readName, hname, hsome]

/-- A member is read if and only if it is readable and its field is not among `seen`. -/
theorem readMember_eq_ok_iff {read : Option Setting × List Token} :
    readMember seen (member.tokens ++ rest) = .ok read ↔
      Readable member ∧ (∀ field ∈ fieldOf member, field ∉ seen) ∧
        read = (settingBy member, rest) := by
  rw [Member.tokens_eq, List.cons_append, List.cons_append]
  cases hname : decodeString member.name none with
  | error fault => simp [Readable, Member.called?, readMember, readName, hname, Except.toOption]
  | ok called =>
    cases hfield : fieldOf member with
    | none =>
      have hfresh : ∀ field ∈ fieldOf member, field ∉ seen := by simp [hfield]
      have hcalled : member.called?.isSome := by simp [Member.called?, hname, Except.toOption]
      simp only [readMember, readName_fresh hname hfresh, hfield, skip_value, Except.map,
        Except.ok.injEq]
      simp [Readable, hcalled, hfield, settingBy, @eq_comm _ read]
    | some field =>
      rw [readable_iff_of_fieldOf hfield, settingBy_of_fieldOf hfield]
      by_cases hseen : field ∈ seen
      · simp [readMember, readName_seen hname hfield hseen, hseen]
      · have hfresh : ∀ field ∈ fieldOf member, field ∉ seen := by simpa [hfield] using hseen
        simp only [readMember, readName_fresh hname hfresh, hfield]
        rcases readSetting_tokens field member.value rest with
          ⟨fault, hset, hvalue⟩ | ⟨setting, hset, -, hvalue⟩
        · simp [hset, hvalue, Except.map]
        · simp [hseen, hset, hvalue, Except.map, @eq_comm _ read]

end Member

/-! ## Objects -/

/-- Members that can be read behind members that named the fields `seen`. -/
structure Accepted (seen : List Field) (members : List Member) : Prop where
  readable : ∀ member ∈ members, Readable member
  distinct : (members.filterMap fieldOf).Nodup
  fresh : ∀ field ∈ members.filterMap fieldOf, field ∉ seen

theorem accepted_iff {members : List Member} : Accepted [] members ↔
    (∀ member ∈ members, Readable member) ∧ (members.filterMap fieldOf).Nodup :=
  ⟨fun h => ⟨h.readable, h.distinct⟩, fun h => ⟨h.1, h.2, fun _ _ => List.not_mem_nil⟩⟩

section Objects

variable {seen : List Field} {member : Member} {members : List Member}

theorem filterMap_cons_toList {α β : Type} (f : α → Option β) (a : α) (l : List α) :
    (a :: l).filterMap f = (f a).toList ++ l.filterMap f := by
  rw [List.filterMap_cons]
  cases f a <;> rfl

theorem accepted_nil (seen : List Field) : Accepted seen [] where
  readable := fun _ h => nomatch h
  distinct := List.nodup_nil
  fresh := fun _ h => nomatch h

theorem accepted_cons_iff : Accepted seen (member :: members) ↔
    Readable member ∧ (∀ field ∈ fieldOf member, field ∉ seen) ∧
      Accepted ((fieldOf member).toList ++ seen) members := by
  have hfields := filterMap_cons_toList fieldOf member members
  constructor
  · rintro ⟨hreadable, hdistinct, hfresh⟩
    rw [hfields] at hdistinct hfresh
    obtain ⟨-, hrest, hapart⟩ := List.nodup_append.mp hdistinct
    refine ⟨hreadable member List.mem_cons_self, ?_, ?_, hrest, ?_⟩
    · intro field hfield
      exact hfresh field (List.mem_append_left _ (Option.mem_toList.mpr hfield))
    · intro next hnext
      exact hreadable next (List.mem_cons_of_mem _ hnext)
    · intro field hfield hseen
      rcases List.mem_append.mp hseen with hown | hseen
      · exact hapart field hown field hfield rfl
      · exact hfresh field (List.mem_append_right _ hfield) hseen
  · rintro ⟨hreadable, hown, hrest⟩
    refine ⟨List.forall_mem_cons.mpr ⟨hreadable, hrest.readable⟩, ?_, ?_⟩
    · rw [hfields, List.nodup_append]
      refine ⟨?_, hrest.distinct, ?_⟩
      · cases fieldOf member <;> simp
      · rintro field hfield _ hother rfl
        exact hrest.fresh field hother (List.mem_append_left _ hfield)
    · rw [hfields]
      intro field hfield hseen
      rcases List.mem_append.mp hfield with hfield | hfield
      · exact hown field (Option.mem_toList.mp hfield) hseen
      · exact hrest.fresh field hfield (List.mem_append_right _ hseen)

section Steps

variable {rest : List Token} {read : List Setting × List Token}

/-- A member that cannot be read ends the reading, and could not be accepted. -/
theorem readMembers_refused (fuel : Nat) {settings : List Setting}
    (h : ¬ (Readable member ∧ ∀ field ∈ fieldOf member, field ∉ seen)) :
    readMembers fuel seen (member.tokens ++ rest) = .ok read ↔
      Accepted seen (member :: members) ∧ read = (settings, []) := by
  constructor
  · intro hread
    cases fuel with
    | zero => cases hread
    | succ fuel =>
      rw [readMembers] at hread
      cases hmember : readMember seen (member.tokens ++ rest) with
      | error fault =>
        rw [hmember] at hread
        cases hread
      | ok result =>
        obtain ⟨hreadable, hown, -⟩ := readMember_eq_ok_iff.mp hmember
        exact absurd ⟨hreadable, hown⟩ h
  · rintro ⟨haccepted, -⟩
    obtain ⟨hreadable, hown, -⟩ := accepted_cons_iff.mp haccepted
    exact absurd ⟨hreadable, hown⟩ h

variable (hreadable : Readable member) (hown : ∀ field ∈ fieldOf member, field ∉ seen)

include hreadable hown

theorem readMembers_last (fuel : Nat) :
    readMembers (fuel + 1) seen (member.tokens ++ moreMembers []) =
      .ok ((settingBy member).toList, []) := by
  rw [readMembers, readMember_eq_ok_iff.mpr ⟨hreadable, hown, rfl⟩]
  rfl

theorem readMembers_next (fuel : Nat) (next : Member) (members : List Member) :
    readMembers (fuel + 1) seen (member.tokens ++ moreMembers (next :: members)) =
      (readMembers fuel ((fieldOf member).toList ++ seen)
        (next.tokens ++ moreMembers members)).map
          fun read => ((settingBy member).toList ++ read.1, read.2) := by
  have hseen : (settingBy member).toList.map Setting.field = (fieldOf member).toList := by
    rw [← hreadable.field_settingBy]
    cases settingBy member <;> rfl
  have hcomma : readSeparator (moreMembers (next :: members)) =
      .ok (true, next.tokens ++ moreMembers members) := by
    rw [moreMembers, Member.tokens_eq]
    rfl
  rw [readMembers, readMember_eq_ok_iff.mpr ⟨hreadable, hown, rfl⟩]
  simp only [hcomma, hseen]

end Steps

/-- The members of an object are read to the end if and only if they can be; what is set is what
they set, in order. -/
theorem readMembers_eq_ok_iff {fuel : Nat} {read : List Setting × List Token}
    (hfuel : members.length < fuel) :
    readMembers fuel seen (member.tokens ++ moreMembers members) = .ok read ↔
      Accepted seen (member :: members) ∧ read = ((member :: members).filterMap settingBy, []) := by
  induction members generalizing fuel seen member read with
  | nil =>
    by_cases h : Readable member ∧ ∀ field ∈ fieldOf member, field ∉ seen
    · obtain ⟨hreadable, hown⟩ := h
      obtain ⟨fuel, rfl⟩ := Nat.exists_eq_add_one.mpr (Nat.zero_lt_of_lt hfuel)
      have haccepted := accepted_cons_iff.mpr ⟨hreadable, hown, accepted_nil _⟩
      rw [readMembers_last hreadable hown, and_iff_right haccepted, filterMap_cons_toList]
      simp [eq_comm]
    · exact readMembers_refused fuel h
  | cons next members ih =>
    by_cases h : Readable member ∧ ∀ field ∈ fieldOf member, field ∉ seen
    · obtain ⟨hreadable, hown⟩ := h
      obtain ⟨fuel, rfl⟩ := Nat.exists_eq_add_one.mpr (Nat.zero_lt_of_lt hfuel)
      rw [readMembers_next hreadable hown, accepted_cons_iff, and_iff_right hreadable,
        and_iff_right hown, filterMap_cons_toList settingBy member]
      exact map_eq_ok_iff (fun _ => ih (Nat.lt_of_succ_lt_succ hfuel)) _ _
    · exact readMembers_refused fuel h

theorem length_moreMembers (members : List Member) :
    members.length < (moreMembers members).length := by
  induction members with
  | nil => exact Nat.one_pos
  | cons member members ih =>
    simp only [moreMembers, List.length_cons, List.length_append]
    omega

theorem readObject_cons (member : Member) (members : List Member) :
    readObject (memberTokens (member :: members)) =
      readMembers (memberTokens (member :: members)).length []
        (member.tokens ++ moreMembers members) := by
  rw [memberTokens, Member.tokens_eq]
  rfl

/-- An object is read if and only if its members can be. -/
theorem readSettings_object {read : List Setting × List Token} :
    readSettings (Value.object members).tokens = .ok read ↔
      Accepted [] members ∧ read = (members.filterMap settingBy, []) := by
  show readObject (memberTokens members) = .ok read ↔ _
  cases members with
  | nil => simp [memberTokens, readObject, accepted_nil, @eq_comm _ read]
  | cons member members =>
    rw [readObject_cons]
    apply readMembers_eq_ok_iff
    have hfuel := length_moreMembers members
    rw [memberTokens, List.length_append]
    omega

end Objects

/-! ## Lists -/

section Lists

variable {fields : List Field} {members : List Member}

/-- No value begins with the bracket that closes a list. -/
theorem readMoreItems_comma (field : Field) (value : Value) (rest : List Token) :
    readMoreItems (field :: fields) (.comma :: (value.tokens ++ rest)) =
      match readSetting field (value.tokens ++ rest) with
      | .error fault => .error fault
      | .ok (setting, rest) =>
        (readMoreItems fields rest).map fun read => (setting :: read.1, read.2) := by
  cases value <;> rfl

/-- The first item is read like the others, but for the comma. -/
theorem readItems_itemTokens (field : Field) (values : List Value) :
    readItems (field :: fields) (itemTokens values) =
      readMoreItems (field :: fields) (moreItems values) := by
  cases values with
  | nil => rfl
  | cons value values =>
    rw [itemTokens, moreItems, readMoreItems_comma]
    cases value <;> rfl

/-- The members name the first of these fields, in order. -/
def InOrder (fields : List Field) (members : List Member) : Prop :=
  members.map fieldOf <+: fields.map some

theorem readMoreItems_eq_ok_iff {read : List Setting × List Token}
    (horder : InOrder fields members) :
    readMoreItems fields (moreItems (members.map Member.value)) = .ok read ↔
      (∀ member ∈ members, Readable member) ∧ read = (members.filterMap settingBy, []) := by
  induction members generalizing fields read with
  | nil => cases fields <;> simp [moreItems, readMoreItems, @eq_comm _ read]
  | cons member members ih =>
    cases fields with
    | nil => simp [InOrder] at horder
    | cons field fields =>
      obtain ⟨hfield, horder⟩ := List.cons_prefix_cons.mp horder
      rw [List.map_cons, moreItems, readMoreItems_comma, List.forall_mem_cons,
        readable_iff_of_fieldOf hfield, filterMap_cons_toList, settingBy_of_fieldOf hfield]
      rcases readSetting_tokens field member.value (moreItems (members.map Member.value)) with
        ⟨fault, hset, hread⟩ | ⟨setting, hset, -, hread⟩
      · simp [hset, hread]
      · rw [hset, hread, and_iff_right Option.isSome_some]
        exact map_eq_ok_iff (fun _ => ih horder) _ _

/-- A list is read if and only if its values suit the fields that they are for. -/
theorem readSettings_list {read : List Setting × List Token}
    (horder : InOrder Field.all members) :
    readSettings (Value.list (members.map Member.value)).tokens = .ok read ↔
      (∀ member ∈ members, Readable member) ∧ read = (members.filterMap settingBy, []) := by
  show readItems Field.all (itemTokens (members.map Member.value)) = .ok read ↔ _
  rw [← readMoreItems_eq_ok_iff horder, Field.all, readItems_itemTokens]

end Lists

end LdapClient.Params
