/-
# LdapClient.Proofs.Connection.Use -- what an operation makes of its answers

`operate_asks` bounds what a directory operation asks.  Here its questions, their answers and its
result are put together.  What happens between the calls is the same everywhere: an operation on a
bound connection is what it does with the held session and one line about the result
(`withSession_course`), and calls that are made one after the other end with the first that fails
(`InTurn`).
-/
import LdapClient.Proofs.Connection.Course

namespace LdapClient

open Dialogue

/-! ## Calls in turn -/

/-- The answers to a number of calls that are made one after the other, each only if the one before
it succeeded, and what they come to: the values of all, or the signal of the last. -/
inductive InTurn {β : Type} : Nat → List (Except Signal β) → Except Signal (List β) → Prop
  | ended : InTurn 0 [] (.ok [])
  | failed (count : Nat) (signal : Signal) : InTurn (count + 1) [.error signal] (.error signal)
  | went {count : Nat} {answers : List (Except Signal β)} {outcome : Except Signal (List β)}
      (value : β) (h : InTurn count answers outcome) :
      InTurn (count + 1) (.ok value :: answers) (outcome.map (value :: ·))

namespace InTurn

variable {β : Type} {count : Nat} {answers : List (Except Signal β)}
  {outcome : Except Signal (List β)}

theorem length_le (h : InTurn count answers outcome) : answers.length ≤ count := by
  induction h with
  | ended => exact Nat.le_refl 0
  | failed count signal => exact Nat.succ_le_succ (Nat.zero_le count)
  | went value h ih => exact Nat.succ_le_succ ih

/-- Nothing is asked after a call that failed. -/
theorem isOk_of_mem_dropLast (h : InTurn count answers outcome) :
    ∀ answer ∈ answers.dropLast, answer.isOk = true := by
  induction h with
  | ended => exact List.forall_mem_nil _
  | failed count signal => exact List.forall_mem_nil _
  | @went count answers outcome value h ih =>
    cases answers with
    | nil => exact List.forall_mem_nil _
    | cons answer answers => exact List.forall_mem_cons.mpr ⟨rfl, ih⟩

/-- If no call failed, all were made. -/
theorem complete (h : InTurn count answers outcome)
    (hok : ∀ answer ∈ answers, answer.isOk = true) :
    ∃ values, outcome = .ok values ∧ answers = values.map .ok ∧ values.length = count := by
  induction h with
  | ended => exact ⟨[], rfl, rfl, rfl⟩
  | failed count signal => exact absurd (hok _ List.mem_cons_self) Bool.false_ne_true
  | went value h ih =>
    obtain ⟨values, rfl, rfl, hlength⟩ := ih (List.forall_mem_cons.mp hok).2
    exact ⟨value :: values, rfl, rfl, congrArg (· + 1) hlength⟩

/-- A signal among the answers decides the outcome. -/
theorem eq_error_of_mem (h : InTurn count answers outcome) {signal : Signal}
    (hmem : .error signal ∈ answers) : outcome = .error signal := by
  induction h with
  | ended => cases hmem
  | failed count other =>
    obtain ⟨rfl⟩ := List.mem_singleton.mp hmem
    rfl
  | went value h ih =>
    rcases List.mem_cons.mp hmem with heq | hmem
    · cases heq
    · rw [ih hmem]
      rfl

end InTurn

namespace Connection

variable {α : Type} {c : Connection} {n m : Nat} {events : List Event}

/-! ## The held session -/

/-- The line at the end of an operation. -/
def ending (c : Connection) (name : String) : Except Failure α → Event
  | .ok _ => c.note .debug (name ++ " on " ++ c.address.text ++ ": ok")
  | .error failure => c.note .error (name ++ " on " ++ c.address.text ++ ": " ++ failure.display)

/-- An operation uses the session and writes one line. -/
theorem withSession_course {name : String} {use : SessionId → Dialogue (Except Failure α)}
    {result : Except Failure α} (h : (c.withSession name use).Admits n events result m) :
    ∃ used, events = used ++ [c.ending name result] ∧
      (c.useSession use).Admits n used result m := by
  obtain ⟨used, value, k, _, huse, hrest, rfl⟩ := admits_bind.mp h
  obtain ⟨_, _, _, _, hlog, hdone, rfl⟩ := admits_bind.mp hrest
  obtain ⟨rfl, rfl, rfl⟩ := admits_done.mp hdone
  refine ⟨used, ?_, ?_⟩
  · cases result <;> obtain ⟨rfl, rfl⟩ := admits_log.mp hlog <;> rfl
  · cases result <;> obtain ⟨rfl, rfl⟩ := admits_log.mp hlog <;> exact huse

theorem heldSession_of_bound {session : SessionId} (hphase : c.phase = .bound)
    (hsession : c.state.session = some session) : c.heldSession = .ok session := by
  rw [heldSession, hphase]
  simp only [hsession]

/-- On a bound connection it is the held session that is used. -/
theorem withSession_held {name : String} {session : SessionId}
    {use : SessionId → Dialogue (Except Failure α)} {result : Except Failure α}
    (hs : c.heldSession = .ok session) (h : (c.withSession name use).Admits n events result m) :
    ∃ used, events = used ++ [c.ending name result] ∧ (use session).Admits n used result m := by
  obtain ⟨used, hevents, huse⟩ := withSession_course h
  rw [useSession, hs] at huse
  exact ⟨used, hevents, huse⟩

/-! ## Searches -/

/-- A search of a session and its answer. -/
def asking (session : SessionId) (request : SearchRequest)
    (answer : Except Signal (List RawEntry)) : Event :=
  .exchange (.call session (.search request)) answer

theorem readRequest_eq (dn : String) (names : List String) :
    readRequest dn names =
      ⟨dn, .baseObject, "(objectclass=*)", if names = [] then ["*"] else names⟩ := by
  simp only [readRequest, requestedOrAll, List.isEmpty_iff]

/-- The names in an answer. -/
def listed : Except Signal (List RawEntry) → List String
  | .ok found => found.map RawEntry.dn
  | .error _ => []

theorem enumerate_course {session : SessionId} {base filter : String} {scope : Scope}
    {result : Except Failure (List String)}
    (h : (enumerate session base scope filter).Admits n events result m) :
    m = n ∧ ∃ listing, events = [asking session ⟨base, scope, filter, noAttributes⟩ listing] ∧
      result = (listing.mapError Signal.toFailure).map (List.map RawEntry.dn) := by
  obtain ⟨_, _, _, _, hcall, hrest, rfl⟩ := admits_bind.mp h
  obtain ⟨answer, rfl, rfl, rfl⟩ := admits_call.mp hcall
  rcases answer with signal | found
  · obtain ⟨rfl, rfl, rfl⟩ := admits_done.mp hrest
    exact ⟨rfl, .error signal, rfl, rfl⟩
  · obtain ⟨rfl, rfl, rfl⟩ := admits_done.mp hrest
    exact ⟨rfl, .ok found, rfl, rfl⟩

/-- Entries are read in the order of their names, up to the first that cannot be read. -/
theorem readEntries_course {session : SessionId} {names dns : List String}
    {result : Except Failure (List Entry)}
    (h : (readEntries session names dns).Admits n events result m) :
    m = n ∧ ∃ reads outcome, InTurn dns.length reads outcome ∧
      events = List.zipWith (fun dn read => asking session (readRequest dn names) read) dns reads ∧
      result = (outcome.mapError Signal.toFailure).map (List.zipWith entryOf dns) := by
  induction dns generalizing n m events result with
  | nil =>
    obtain ⟨rfl, rfl, rfl⟩ := admits_done.mp h
    exact ⟨rfl, [], .ok [], .ended, rfl, rfl⟩
  | cons dn dns ih =>
    obtain ⟨_, _, _, _, hcall, hrest, rfl⟩ := admits_bind.mp h
    obtain ⟨answer, rfl, rfl, rfl⟩ := admits_call.mp hcall
    rcases answer with signal | found
    · obtain ⟨rfl, rfl, rfl⟩ := admits_done.mp hrest
      refine ⟨rfl, [.error signal], .error signal, .failed _ signal, ?_, rfl⟩
      rw [List.zipWith_cons_cons, List.zipWith_nil_right]
      rfl
    · obtain ⟨later, read, k, _, hlater, hdone, rfl⟩ := admits_bind.mp hrest
      obtain ⟨rfl, reads, outcome, hturn, rfl, rfl⟩ := ih hlater
      cases outcome with
      | error signal =>
        obtain ⟨rfl, rfl, rfl⟩ := admits_done.mp hdone
        rw [List.append_nil]
        exact ⟨rfl, _, _, .went found hturn, rfl, rfl⟩
      | ok founds =>
        obtain ⟨rfl, rfl, rfl⟩ := admits_done.mp hdone
        rw [List.append_nil]
        exact ⟨rfl, _, _, .went found hturn, rfl, rfl⟩

/-- What the answer to a search for one entry says about it. -/
def presence : Except Signal (List RawEntry) → Except Failure Bool
  | .ok found => .ok !found.isEmpty
  | .error signal =>
    if signal.toFailure.code = .noSuchObject then .ok false else .error signal.toFailure

/-- Looking for an entry is one search. -/
theorem probe_course {session : SessionId} {dn objectClass : String} {result : Except Failure Bool}
    (h : (probe session dn objectClass).Admits n events result m) :
    m = n ∧ ∃ answer, events = [asking session (probeRequest dn objectClass) answer] ∧
      result = presence answer := by
  obtain ⟨_, _, _, _, hcall, hrest, rfl⟩ := admits_bind.mp h
  obtain ⟨answer, rfl, rfl, rfl⟩ := admits_call.mp hcall
  rcases answer with signal | found
  · change (if signal.toFailure.code = .noSuchObject then done (.ok false)
      else done (.error signal.toFailure) : Dialogue (Except Failure Bool)).Admits _ _ _ _ at hrest
    by_cases hcode : signal.toFailure.code = .noSuchObject
    · rw [if_pos hcode] at hrest
      obtain ⟨rfl, rfl, rfl⟩ := admits_done.mp hrest
      exact ⟨rfl, .error signal, rfl, by rw [presence, if_pos hcode]⟩
    · rw [if_neg hcode] at hrest
      obtain ⟨rfl, rfl, rfl⟩ := admits_done.mp hrest
      exact ⟨rfl, .error signal, rfl, by rw [presence, if_neg hcode]⟩
  · obtain ⟨rfl, rfl, rfl⟩ := admits_done.mp hrest
    exact ⟨rfl, .ok found, rfl, rfl⟩

end Connection

end LdapClient
