/-
# LdapClient.Proofs.Connection.Move -- what a move asks for

A move looks for the destination and then asks for a new parent.  `MoveCourse` lists all that it can
do on a held session: the name of the entry is refused, the destination is missing or cannot be
looked for, or the request is made.  Nothing is changed in the first three cases, and only the last
one can succeed, which `successful_move` says of every run.

The new parent is the destination as the caller wrote it.  A request without one is a rename in
place, so what was asked for is a move if and only if the destination is not the empty name.  The
empty name is that of the server's own entry, which is there to be found (`moved_in_place`).
-/
import LdapClient.Proofs.Connection.Precondition
import LdapClient.Proofs.Dn.Parsed

namespace LdapClient.Connection

open Dialogue

/-! ## The two calls -/

/-- The search for the destination of a move and its answer. -/
def looking (session : SessionId) (container : String)
    (answer : Except Signal (List RawEntry)) : Event :=
  asking session ⟨container, .baseObject, "(objectclass=*)", ["1.1"]⟩ answer

/-- A request for another name or parent and its answer. -/
def relocating (session : SessionId) (request : RenameRequest) (answer : Except Signal Unit) :
    Event :=
  .exchange (.call session (.modifyDn request)) answer

/-- No entry is listed for what is not there. -/
theorem Absent.listed_eq_nil {answer : Except Signal (List RawEntry)} (h : Absent answer) :
    listed answer = [] := by
  rcases h with rfl | ⟨signal, rfl, -⟩ <;> rfl

theorem ending_eq_line (c : Connection) (name : String) (result : Except Failure Unit) :
    ∃ line, c.ending name result = .line line := by
  cases result <;> exact ⟨_, rfl⟩

theorem request_eq_of_relocating {session : SessionId} {request other : RenameRequest}
    {answer reply : Except Signal Unit}
    (h : relocating session request answer = relocating session other reply) : request = other := by
  cases h
  rfl

/-! ## Courses of a move -/

/-- All that a move can do on a held session. -/
inductive MoveCourse (c : Connection) (session : SessionId) (dn container : String) :
    List Event → Except Failure Unit → Prop
  /-- The name of the entry is refused. -/
  | refused {fault : Dn.Fault} (h : Dn.parse dn = .error fault) :
      MoveCourse c session dn container [] (.error fault.toFailure)
  /-- The destination is not there. -/
  | missing {name : Dn} (h : Dn.parse dn = .ok name) {answer : Except Signal (List RawEntry)}
      (habsent : Absent answer) {result : Except Failure Unit}
      (hresult : result = (Refusal.noDestination container).refuse) :
      MoveCourse c session dn container
        [looking session container answer, c.ending "move_object" result] result
  /-- The destination cannot be looked for. -/
  | failed {name : Dn} (h : Dn.parse dn = .ok name) {signal : Signal}
      (hcode : signal.toFailure.code ≠ .noSuchObject) {result : Except Failure Unit}
      (hresult : result = .error signal.toFailure) :
      MoveCourse c session dn container
        [looking session container (.error signal), c.ending "move_object" result] result
  /-- The destination is there, and the request is made. -/
  | sent {name : Dn} (h : Dn.parse dn = .ok name) {found : List RawEntry} (hfound : found ≠ [])
      (answer : Except Signal Unit) {result : Except Failure Unit}
      (hresult : result = answer.mapError Signal.toFailure) :
      MoveCourse c session dn container
        [looking session container (.ok found),
          relocating session ⟨dn, name.firstRdn, true, container⟩ answer,
          c.ending "move_object" result] result

variable {c : Connection} {session : SessionId} {dn container : String} {n m : Nat}
  {events : List Event} {result : Except Failure Unit}

theorem move_course (hs : c.heldSession = .ok session)
    (h : (c.move dn container).Admits n events result m) :
    MoveCourse c session dn container events result := by
  unfold move at h
  split at h
  · rename_i fault hfault
    obtain ⟨rfl, rfl, rfl⟩ := admits_done.mp h
    exact .refused hfault
  · rename_i name hname
    obtain ⟨used, rfl, hused⟩ := withSession_held hs h
    obtain ⟨_, presence?, k, second, hprobe, hrest, rfl⟩ := admits_bind.mp hused
    obtain ⟨rfl, answer, rfl, hpresence⟩ := probe_course hprobe
    rcases presence? with failure | present | present
    · obtain ⟨signal, rfl, hcode, rfl⟩ := presence_eq_error.mp hpresence.symm
      obtain ⟨rfl, hresult, rfl⟩ := admits_done.mp hrest
      exact .failed hname hcode hresult
    · obtain ⟨rfl, hresult, rfl⟩ := admits_done.mp hrest
      exact .missing hname (presence_eq_false.mp hpresence.symm) hresult
    · obtain ⟨found, hfound, rfl⟩ := presence_eq_true.mp hpresence.symm
      obtain ⟨reply, rfl, hresult, rfl⟩ := admits_call.mp hrest
      exact .sent hname hfound reply hresult

namespace MoveCourse

/-- A move that succeeds has made its request. -/
theorem sent_of_ok (h : MoveCourse c session dn container events (.ok ())) :
    ∃ name found, Dn.parse dn = .ok name ∧ found ≠ [] ∧
      events = [looking session container (.ok found),
        relocating session ⟨dn, name.firstRdn, true, container⟩ (.ok ()),
        c.note .debug ("move_object on " ++ c.address.text ++ ": ok")] := by
  cases h with
  | missing _ _ hresult => cases hresult
  | failed _ _ hresult => cases hresult
  | @sent name hname found hfound answer _ hresult =>
    cases answer with
    | error signal => cases hresult
    | ok value => exact ⟨name, found, hname, hfound, rfl⟩

/-- Nothing is asked for if the name of the entry is refused. -/
theorem eq_nil_of_refused (h : MoveCourse c session dn container events result) {fault : Dn.Fault}
    (hfault : Dn.parse dn = .error fault) : events = [] := by
  cases h with
  | refused => rfl
  | missing hname => rw [hfault] at hname; cases hname
  | failed hname => rw [hfault] at hname; cases hname
  | sent hname => rw [hfault] at hname; cases hname

/-- If the name of the entry can be read, the destination is looked for, and the request is made
just if the search brings an entry. -/
theorem asked (h : MoveCourse c session dn container events result) {name : Dn}
    (hname : Dn.parse dn = .ok name) :
    ∃ answer line,
      (listed answer = [] ∧ events = [looking session container answer, .line line]) ∨
      (listed answer ≠ [] ∧ ∃ reply : Except Signal Unit, result = reply.mapError Signal.toFailure ∧
        events = [looking session container answer,
          relocating session ⟨dn, name.firstRdn, true, container⟩ reply, .line line]) := by
  obtain ⟨line, hline⟩ := c.ending_eq_line "move_object" result
  cases h with
  | refused hfault =>
    rw [hname] at hfault
    cases hfault
  | @missing _ _ answer habsent =>
    exact ⟨answer, line, Or.inl ⟨habsent.listed_eq_nil, by rw [hline]⟩⟩
  | @failed _ _ signal => exact ⟨.error signal, line, Or.inl ⟨rfl, by rw [hline]⟩⟩
  | @sent other hother found hfound reply _ hresult =>
    obtain rfl : name = other := by
      rw [hname] at hother
      cases hother
      rfl
    refine ⟨.ok found, line, Or.inr ⟨?_, reply, hresult, by rw [hline]⟩⟩
    intro hnone
    exact hfound (List.map_eq_nil_iff.mp hnone)

end MoveCourse

/-! ## Moves that succeed -/

theorem isMove_iff {request : RenameRequest} :
    request.isMove = true ↔ request.newSuperior ≠ "" := by
  simp [RenameRequest.isMove]

/-- Whatever entry is moved wherever on a bound connection, and whatever the session answers: if the
move succeeds, it has found the destination and then had one request accepted, for the leading
relative name as it is written and the destination as new parent.  That request is a move if and
only if the destination is not the empty name.  If the name of the entry is refused, nothing is
asked for.  Otherwise the destination is looked for; if the search brings no entry, nothing else is
asked for, and if it brings one, the answer to the request is the result. -/
theorem successful_move {σ : Type} (env : Environment σ) (standing : Standing σ)
    (hphase : c.phase = .bound) (hsession : c.state.session = some session)
    (dn container : String) :
    let outcome := (c.move dn container).run env standing
    (outcome.value = .ok () → ∃ rdn found,
      let request : RenameRequest := ⟨dn, rdn, true, container⟩
      Dn.Leads rdn.toList dn.toList ∧
        (∀ other, Dn.Leads other dn.toList → other = rdn.toList) ∧ found ≠ [] ∧
        outcome.events = [looking session container (.ok found),
          relocating session request (.ok ()),
          c.note .debug ("move_object on " ++ c.address.text ++ ": ok")] ∧
        (request.isMove = true ↔ container ≠ "")) ∧
    (∀ fault, Dn.parse dn = .error fault → outcome.events = []) ∧
    ∀ name, Dn.parse dn = .ok name → ∃ answer line,
      (listed answer = [] ∧ outcome.events = [looking session container answer, .line line]) ∨
      (listed answer ≠ [] ∧ ∃ reply : Except Signal Unit,
        outcome.value = reply.mapError Signal.toFailure ∧
          outcome.events = [looking session container answer,
            relocating session ⟨dn, name.firstRdn, true, container⟩ reply, .line line]) := by
  intro outcome
  have hcourse : MoveCourse c session dn container outcome.events outcome.value :=
    move_course (heldSession_of_bound hphase hsession) (run_admits env _ standing)
  refine ⟨?_, ?_, ?_⟩
  · intro hok
    rw [hok] at hcourse
    obtain ⟨name, found, hname, hfound, hevents⟩ := hcourse.sent_of_ok
    have hleads := Dn.leads_firstRdn hname
    exact ⟨name.firstRdn, found, hleads, fun _ hother => hother.unique hleads, hfound, hevents,
      isMove_iff⟩
  · intro fault hfault
    exact hcourse.eq_nil_of_refused hfault
  · intro name hname
    exact hcourse.asked hname

/-- A name with an escaped comma is moved. -/
theorem entry_moved :
    let c : Connection :=
      ⟨⟨"ldap://ds1", .ldap, "ds1", none⟩, {}, "",
        ⟨.bound, some 0, false, some ⟨.simple, .plain, "ldap://ds1"⟩⟩⟩
    let found : List RawEntry := [⟨"ou=new,dc=org", .empty, .empty⟩]
    let request : RenameRequest := ⟨" cn=a\\, b , dc=org", "cn=a\\, b", true, "ou=new,dc=org"⟩
    let outcome := (c.move " cn=a\\, b , dc=org" "ou=new,dc=org").run recounting ⟨[.ok found], 1⟩
    c.phase = .bound ∧ c.state.session = some 0 ∧ outcome.value = .ok () ∧
      Dn.Leads request.newRdn.toList request.dn.toList ∧
      outcome.events = [looking 0 "ou=new,dc=org" (.ok found), relocating 0 request (.ok ()),
        c.note .debug "move_object on ldap://ds1: ok"] ∧
      request.isMove = true := by
  intro c found request outcome
  have hevents : outcome.events = [looking 0 "ou=new,dc=org" (.ok found),
      relocating 0 request (.ok ()), c.note .debug "move_object on ldap://ds1: ok"] := rfl
  have hvalue : outcome.value = .ok () := rfl
  have hmoves := successful_move recounting ⟨[.ok found], 1⟩ (c := c) rfl rfl request.dn
    "ou=new,dc=org"
  obtain ⟨rdn, _, hleads, -, -, hsent, hmove⟩ := hmoves.1 hvalue
  -- what was sent is known twice, and the two agree in the relative name
  have hsame := (List.cons.inj (List.cons.inj (hsent.symm.trans hevents)).2).1
  have hrdn : rdn = request.newRdn := congrArg RenameRequest.newRdn (request_eq_of_relocating hsame)
  subst hrdn
  exact ⟨rfl, rfl, hvalue, hleads, hevents, hmove.mpr (by decide)⟩

/-- A move to the empty name succeeds if the server shows its own entry, but what was asked for is a
rename in place, under the name that the entry has: it stays where it is. -/
theorem moved_in_place :
    let c : Connection :=
      ⟨⟨"ldap://ds1", .ldap, "ds1", none⟩, {}, "",
        ⟨.bound, some 0, false, some ⟨.simple, .plain, "ldap://ds1"⟩⟩⟩
    let found : List RawEntry := [⟨"", .empty, .empty⟩]
    let request : RenameRequest := .inPlace "cn=a,dc=org" "cn=a" true
    let outcome := (c.move "cn=a,dc=org" "").run recounting ⟨[.ok found], 1⟩
    outcome.value = .ok () ∧
      outcome.events = [looking 0 "" (.ok found), relocating 0 request (.ok ()),
        c.note .debug "move_object on ldap://ds1: ok"] ∧
      request.isMove = false :=
  ⟨rfl, rfl, rfl⟩

end LdapClient.Connection
