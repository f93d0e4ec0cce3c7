/-
# LdapClient.Proofs.Connection.Modify -- changes are made one by one

A request with several changes is sent as so many calls.  An addition of nothing, wherever it stands
in the list, is noticed before the first of them.  Otherwise the calls follow the list up to the
first that fails: `MadeInTurn` says which changes the session gets and what the result is, and the
main statement is `changes_made_in_turn`.  Nothing is taken back and nothing is sent twice, whatever
the session makes of the changes that it got before.
-/
import LdapClient.Proofs.Connection.Verdict

namespace LdapClient.Connection

open Dialogue

variable {σ : Type} {c : Connection} {session : SessionId} {n m : Nat} {events : List Event}
  {result : Except Failure Unit}

/-! ## What happens -/

/-- A change of an entry that is asked of a session, and its answer. -/
def changing (session : SessionId) (dn : String) (change : Change) (answer : Except Signal Unit) :
    Event :=
  .exchange (.call session (.modify dn change)) answer

/-- Each change is one call, and the first that fails is the last. -/
theorem applyChanges_course {dn : String} {changes : List Change}
    (h : (applyChanges session dn changes).Admits n events result m) :
    m = n ∧ ∃ answers outcome, InTurn changes.length answers outcome ∧
      events = List.zipWith (changing session dn) changes answers ∧
      result = (outcome.mapError Signal.toFailure).map fun _ => () := by
  induction changes generalizing n m events with
  | nil =>
    obtain ⟨rfl, rfl, rfl⟩ := admits_done.mp h
    exact ⟨rfl, [], .ok [], .ended, rfl, rfl⟩
  | cons change changes ih =>
    obtain ⟨_, _, _, _, hcall, hrest, rfl⟩ := admits_bind.mp h
    obtain ⟨answer, rfl, rfl, rfl⟩ := admits_call.mp hcall
    rcases answer with signal | ⟨⟨⟩⟩
    · obtain ⟨rfl, rfl, rfl⟩ := admits_done.mp hrest
      refine ⟨rfl, [.error signal], .error signal, .failed _ signal, ?_, rfl⟩
      rw [List.zipWith_cons_cons, List.zipWith_nil_right]
      rfl
    · obtain ⟨rfl, answers, outcome, hturn, rfl, rfl⟩ := ih hrest
      refine ⟨rfl, _, _, .went () hturn, rfl, ?_⟩
      cases outcome <;> rfl

/-- The line at the end of a request; a request without changes writes none. -/
def modifyEnding (c : Connection) (request : ModifyRequest) (result : Except Failure Unit) :
    List Event :=
  if request.changes = [] then [] else [c.ending "modify" result]

theorem modify_course {request : ModifyRequest} (hs : c.heldSession = .ok session)
    (hadds : ∀ change ∈ request.changes, change.kind = .add → change.values ≠ [])
    (h : (c.modify request).Admits n events result m) :
    ∃ answers outcome, InTurn request.changes.length answers outcome ∧
      events = List.zipWith (changing session request.dn) request.changes answers ++
        c.modifyEnding request result ∧
      result = (outcome.mapError Signal.toFailure).map fun _ => () := by
  unfold modify at h
  split at h
  · rename_i change hchange
    obtain ⟨hkind, hvalues⟩ := isEmptyAdd_iff.mp (List.find?_some hchange)
    exact absurd hvalues (hadds change (List.mem_of_find?_eq_some hchange) hkind)
  · split at h
    · rename_i hnone
      have hchanges : request.changes = [] := List.isEmpty_iff.mp hnone
      obtain ⟨rfl, rfl, rfl⟩ := admits_done.mp h
      rw [modifyEnding, if_pos hchanges, hchanges]
      exact ⟨[], .ok [], .ended, rfl, rfl⟩
    · rename_i hsome
      have hchanges : request.changes ≠ [] := mt List.isEmpty_iff.mpr hsome
      obtain ⟨used, rfl, hused⟩ := withSession_held hs h
      obtain ⟨rfl, answers, outcome, hturn, rfl, rfl⟩ := applyChanges_course hused
      rw [modifyEnding, if_neg hchanges]
      exact ⟨answers, outcome, hturn, rfl, rfl⟩

/-! ## The request as a whole -/

/-- What a request asks of a session and what it comes to, given the changes that are made and the
answers to them. -/
structure MadeInTurn (c : Connection) (session : SessionId) (request : ModifyRequest)
    (made : List Change) (answers : List (Except Signal Unit))
    (outcome : Outcome σ (Except Failure Unit)) : Prop where
  /-- The changes are made from the front of the list on, each of them once and as it is. -/
  front : made <+: request.changes
  answered : answers.length = made.length
  asked : outcome.events =
    List.zipWith (changing session request.dn) made answers ++ c.modifyEnding request outcome.value
  /-- Nothing is asked after a change that failed. -/
  stopped : ∀ answer ∈ answers.dropLast, answer.isOk = true
  /-- If no change failed, all are made and the request succeeds. -/
  complete : (∀ answer ∈ answers, answer.isOk = true) →
    made = request.changes ∧ outcome.value = .ok ()
  /-- If a change failed, so does the request, with what the signal says. -/
  failed : ∀ signal, .error signal ∈ answers → outcome.value = .error signal.toFailure

/-- Whatever is to be changed on a bound connection, and whatever its session answers: if one of the
changes is an addition of nothing, nothing is asked and the result is the failure 89.  Otherwise the
session gets the changes in order up to the first that fails; the result is the failure of that one,
and success if none fails. -/
theorem changes_made_in_turn (env : Environment σ) (standing : Standing σ) (request : ModifyRequest)
    (hphase : c.phase = .bound) (hsession : c.state.session = some session) :
    let outcome := (c.modify request).run env standing
    ((∃ change ∈ request.changes, change.kind = .add ∧ change.values = []) →
      outcome.events = [] ∧ ∃ failure, outcome.value = .error failure ∧ failure.code.value = 89) ∧
    ((∀ change ∈ request.changes, change.kind = .add → change.values ≠ []) →
      ∃ made answers, MadeInTurn c session request made answers outcome) := by
  intro outcome
  constructor
  · rintro ⟨change, hmem, hkind, hvalues⟩
    obtain ⟨first, hmodify⟩ := modify_emptyAdd request hmem hkind hvalues
    have houtcome : outcome = ⟨(Refusal.emptyAdd first request.dn).refuse, standing, []⟩ := by
      simp only [outcome, hmodify]
      rfl
    rw [houtcome]
    exact ⟨rfl, _, rfl, rfl⟩
  · intro hadds
    obtain ⟨answers, turn, hturn, hevents, hvalue⟩ :=
      modify_course (heldSession_of_bound hphase hsession) hadds (run_admits env _ standing)
    have hlength : answers.length ≤ request.changes.length := hturn.length_le
    refine ⟨request.changes.take answers.length, answers, ?_⟩
    exact {
      front := List.take_prefix _ _
      answered := by rw [List.length_take, Nat.min_eq_left hlength]
      asked := by
        rw [hevents, List.zipWith_eq_zipWith_take_min, Nat.min_eq_right hlength, List.take_length]
      stopped := hturn.isOk_of_mem_dropLast
      complete := fun hok => by
        obtain ⟨values, rfl, rfl, hcount⟩ := hturn.complete hok
        rw [List.length_map, hcount, List.take_length]
        exact ⟨rfl, hvalue⟩
      failed := fun signal hmem => by
        rw [hvalue, hturn.eq_error_of_mem hmem]
        rfl }

/-- The environment that answers one change after another from a list, and everything else like the
obliging one. -/
def ruling : Environment (List (Except Signal Unit)) where
  answer
    | .call _ (.modify _ _), world => (world.headD (.ok ()), world.tail)
    | question, world => ((obliging.answer question ()).1, world)

/-- The second of three changes is refused: the first stays made, and the third is not asked for. -/
theorem second_change_refused :
    let c : Connection :=
      ⟨⟨"ldap://ds1", .ldap, "ds1", none⟩, {}, "",
        ⟨.bound, some 0, false, some ⟨.simple, .plain, "ldap://ds1"⟩⟩⟩
    let mail : Change := ⟨.add, "mail", ["a@example.org"]⟩
    let control : Change := ⟨.replace, "control", []⟩
    let request : ModifyRequest := ⟨"cn=a", [mail, control, ⟨.delete, "mail", []⟩]⟩
    let answers : List (Except Signal Unit) := [.ok (), .error (.withCode 53 "system: only")]
    let outcome := (c.modify request).run ruling ⟨answers, 1⟩
    c.phase = .bound ∧ c.state.session = some 0 ∧
      (∀ change ∈ request.changes, change.kind = .add → change.values ≠ []) ∧
      (∃ made answers, MadeInTurn c 0 request made answers outcome) ∧
      outcome.events = List.zipWith (changing 0 "cn=a") [mail, control] answers ++
        [c.ending "modify" outcome.value] ∧
      outcome.value = .error ⟨⟨53, by decide, by decide⟩, "system: only"⟩ := by
  intro c mail control request answers outcome
  have hadds : ∀ change ∈ request.changes, change.kind = .add → change.values ≠ [] := by decide
  have hmade := (changes_made_in_turn ruling ⟨answers, 1⟩ request (c := c) rfl rfl).2 hadds
  exact ⟨rfl, rfl, hadds, hmade, rfl, rfl⟩

end LdapClient.Connection
