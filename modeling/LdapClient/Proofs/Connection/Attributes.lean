/-
# LdapClient.Proofs.Connection.Attributes -- what the attribute readers see of an entry

The two attribute readers make one search for the object itself and look at the first entry of the
answer, like the second round of a search.  A search builds an `Entry` of it; the attribute readers
take its text part and leave the rest.  `attribute_readers` says what they ask and bring, whatever
the session answers, and exactly when that is what the `Entry` would have said.

The difference shows wherever a server sends octets: an attribute with nothing but octets reads as
absent (`objectSid_absent`), although `Entry.values` shows a text for each of them.
-/
import LdapClient.Proofs.Connection.Use
import LdapClient.Proofs.Entry

namespace LdapClient.Connection

open Dialogue Text

variable {σ : Type} {c : Connection} {session : SessionId} {object : String}

/-! ## What happens -/

/-- The text attributes of the first entry of an answer. -/
def firstText : List RawEntry → NameMap (List String)
  | [] => .empty
  | raw :: _ => raw.text

section Course

variable {n m : Nat} {events : List Event} (hs : c.heldSession = .ok session)
include hs

theorem attributes_course {names : List String} {result : Except Failure (NameMap (List String))}
    (h : (c.attributes object names).Admits n events result m) :
    ∃ answer,
      events = [asking session (readRequest object names) answer,
        c.ending "get_object_attributes" result] ∧
      result = (answer.mapError Signal.toFailure).map firstText := by
  obtain ⟨used, rfl, huse⟩ := withSession_held hs h
  obtain ⟨_, _, _, _, hcall, hrest, rfl⟩ := admits_bind.mp huse
  obtain ⟨answer, rfl, rfl, rfl⟩ := admits_call.mp hcall
  refine ⟨answer, ?_⟩
  rcases answer with signal | _ | ⟨raw, others⟩ <;>
    obtain ⟨rfl, rfl, rfl⟩ := admits_done.mp hrest <;> exact ⟨rfl, rfl⟩

theorem attributeValues_course {name : String} {result : Except Failure (List String)}
    (h : (c.attributeValues object name).Admits n events result m) :
    ∃ answer,
      events = [asking session (readRequest object [name]) answer,
        c.ending "get_object_attributes" result] ∧
      result = (answer.mapError Signal.toFailure).map fun found =>
        ((firstText found).findFolded? name).getD [] := by
  obtain ⟨_, _, _, _, hread, hrest, rfl⟩ := admits_bind.mp h
  obtain ⟨answer, rfl, rfl⟩ := attributes_course hs hread
  refine ⟨answer, ?_⟩
  rcases answer with signal | found <;> obtain ⟨rfl, rfl, rfl⟩ := admits_done.mp hrest <;>
    exact ⟨rfl, rfl⟩

end Course

/-! ## The readers -/

/-- What reading attributes of an object asks and brings, given the answer. -/
structure ReadsAttributes (c : Connection) (session : SessionId) (object : String)
    (names : List String) (answer : Except Signal (List RawEntry))
    (outcome : Outcome σ (Except Failure (NameMap (List String)))) : Prop where
  asked : outcome.events =
    [asking session ⟨object, .baseObject, "(objectclass=*)", if names = [] then ["*"] else names⟩
      answer, c.ending "get_object_attributes" outcome.value]
  failed : ∀ signal, answer = .error signal → outcome.value = .error signal.toFailure
  nothing : answer = .ok [] → outcome.value = .ok .empty
  /-- The attributes that are not text are left out. -/
  first : ∀ raw others, answer = .ok (raw :: others) → outcome.value = .ok raw.text
  /-- What is brought is what the entry says if and only if there is nothing in those. -/
  agrees : ∀ raw others, answer = .ok (raw :: others) →
    ((∃ found, outcome.value = .ok found ∧
      found.toList = (Entry.ofRaw raw).attributes.map fun a => (a.name, a.values)) ↔ raw.IsText)

/-- What reading the values of one attribute asks and brings, given the answer. -/
structure ReadsValues (c : Connection) (session : SessionId) (object name : String)
    (answer : Except Signal (List RawEntry))
    (outcome : Outcome σ (Except Failure (List String))) : Prop where
  asked : outcome.events =
    [asking session ⟨object, .baseObject, "(objectclass=*)", [name]⟩ answer,
      c.ending "get_object_attributes" outcome.value]
  failed : ∀ signal, answer = .error signal → outcome.value = .error signal.toFailure
  nothing : answer = .ok [] → outcome.value = .ok []
  /-- Only text attributes are looked through. -/
  first : ∀ raw others, answer = .ok (raw :: others) →
    outcome.value = .ok ((raw.text.findFolded? name).getD [])
  /-- Without one of them the attribute reads as absent, whatever octets there are. -/
  absent : ∀ raw others, answer = .ok (raw :: others) →
    (∀ other ∈ raw.text.names, sameFolded other name = false) → outcome.value = .ok []
  /-- What is brought is what the entry says if and only if the octets make no difference. -/
  agrees : ∀ raw others, answer = .ok (raw :: others) →
    (outcome.value = .ok ((Entry.ofRaw raw).values .folded name) ↔ raw.IsTextAt name)

theorem toList_eq_attributes_iff {raw : RawEntry} :
    raw.text.toList = (Entry.ofRaw raw).attributes.map (fun a => (a.name, a.values)) ↔
      raw.IsText := by
  rw [← Entry.toList_texts, ← Entry.texts_ofRaw_eq_iff, NameMap.mk.injEq]

section Readers

variable (env : Environment σ) (standing : Standing σ) (object : String)

theorem attributes_reads (hs : c.heldSession = .ok session) (names : List String) :
    ∃ answer, ReadsAttributes c session object names answer
      ((c.attributes object names).run env standing) := by
  obtain ⟨answer, hevents, hvalue⟩ :=
    attributes_course hs (run_admits env (c.attributes object names) standing)
  rw [readRequest_eq] at hevents
  have hfirst : ∀ raw others, answer = .ok (raw :: others) →
      ((c.attributes object names).run env standing).value = .ok raw.text := by
    rintro raw others rfl
    exact hvalue
  refine ⟨answer, ⟨hevents, ?_, ?_, hfirst, ?_⟩⟩
  · rintro signal rfl
    exact hvalue
  · rintro rfl
    exact hvalue
  · intro raw others hanswer
    rw [hfirst raw others hanswer, ← toList_eq_attributes_iff]
    simp

theorem attributeValues_reads (hs : c.heldSession = .ok session) (name : String) :
    ∃ answer, ReadsValues c session object name answer
      ((c.attributeValues object name).run env standing) := by
  obtain ⟨answer, hevents, hvalue⟩ :=
    attributeValues_course hs (run_admits env (c.attributeValues object name) standing)
  rw [readRequest_eq, if_neg (List.cons_ne_nil name [])] at hevents
  have hfirst : ∀ raw others, answer = .ok (raw :: others) →
      ((c.attributeValues object name).run env standing).value =
        .ok ((raw.text.findFolded? name).getD []) := by
    rintro raw others rfl
    exact hvalue
  refine ⟨answer, ⟨hevents, ?_, ?_, hfirst, ?_, ?_⟩⟩
  · rintro signal rfl
    exact hvalue
  · rintro rfl
    exact hvalue
  · intro raw others hanswer hnone
    rw [hfirst raw others hanswer, NameMap.findFolded?_eq_none_iff.mpr hnone]
    rfl
  · intro raw others hanswer
    rw [hfirst raw others hanswer, ← Entry.values_ofRaw_eq_iff, Except.ok.injEq]

/-- Whatever object is read on a bound connection, and whatever its session answers: one search
reads the object itself, and of the first entry of the answer only the text attributes are
brought. -/
theorem attribute_readers (hphase : c.phase = .bound) (hsession : c.state.session = some session) :
    (∀ names, ∃ answer, ReadsAttributes c session object names answer
      ((c.attributes object names).run env standing)) ∧
    ∀ name, ∃ answer, ReadsValues c session object name answer
      ((c.attributeValues object name).run env standing) :=
  have hs := heldSession_of_bound hphase hsession
  ⟨attributes_reads env standing object hs, attributeValues_reads env standing object hs⟩

end Readers

/-- Of a photo that is answered as a text and as octets, only the text is read. -/
theorem photo_text_read :
    let c : Connection :=
      ⟨⟨"ldap://ds1", .ldap, "ds1", none⟩, {}, "",
        ⟨.bound, some 0, false, some ⟨.simple, .plain, "ldap://ds1"⟩⟩⟩
    let raw : RawEntry :=
      ⟨"cn=a", ⟨[("Photo", ["none"])], List.pairwise_singleton _ _⟩,
        ⟨[("Photo", [[0xFF, 0xD8]])], List.pairwise_singleton _ _⟩⟩
    let outcome := (c.attributeValues "cn=a" "photo").run recounting ⟨[.ok [raw]], 1⟩
    c.phase = .bound ∧ c.state.session = some 0 ∧
      (∃ answer, ReadsValues c 0 "cn=a" "photo" answer outcome) ∧ outcome.value = .ok ["none"] ∧
      (Entry.ofRaw raw).values .folded "photo" = ["none", "\uFFFD\uFFFD"] := by
  intro c raw outcome
  exact ⟨rfl, rfl, (attribute_readers recounting ⟨[.ok [raw]], 1⟩ "cn=a" rfl rfl).2 "photo", rfl, by decide⟩

/-- A server answers an `objectSid` with octets that are no text: both readers say that there is
none, and the entry shows it. -/
theorem objectSid_absent :
    let c : Connection :=
      ⟨⟨"ldap://ds1", .ldap, "ds1", none⟩, {}, "",
        ⟨.bound, some 0, false, some ⟨.simple, .plain, "ldap://ds1"⟩⟩⟩
    let raw : RawEntry :=
      ⟨"cn=host,dc=org", .empty,
        ⟨[("objectSid", [[0x01, 0xFF]])], List.pairwise_singleton _ _⟩⟩
    let answers : Standing (List (Except Signal (List RawEntry))) := ⟨[.ok [raw]], 1⟩
    ((c.attributes "cn=host,dc=org" ["objectSid"]).run recounting answers).value = .ok .empty ∧
      ((c.attributeValues "cn=host,dc=org" "objectSid").run recounting answers).value = .ok [] ∧
      (Entry.ofRaw raw).attributes.map (fun a => (a.name, a.values)) =
        [("objectSid", ["\u0001\uFFFD"])] ∧
      (Entry.ofRaw raw).values .folded "objectSid" = ["\u0001\uFFFD"] :=
  ⟨rfl, rfl, rfl, rfl⟩

end LdapClient.Connection
