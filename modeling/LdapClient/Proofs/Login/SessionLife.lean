/-
# LdapClient.Proofs.Login.SessionLife -- a login leaves no session behind

A login asks a resolver for servers, which concerns no session, and makes its attempts one after the
other.  Each attempt begins with all stories complete, and ends so unless it succeeds
(`AttemptCourse.leaves`); then the connection that it returns holds the only open session.

The main statement, `session_lives`, is about all sessions of a dialed connection and all sessions
of a login and the connection that it returns.
-/
import LdapClient.Proofs.Login.Course
import LdapClient.Proofs.SessionLife

namespace LdapClient

open Dialogue

namespace Login

open Connection

variable {params : Params} {options : DialOptions} {n m : Nat} {past events : List Event}

/-! ## Resolvers -/

theorem story_of_lookups (h : ∀ event ∈ events, event.IsWithin IsResolverQuestion)
    (session : SessionId) : story session events = [] := by
  refine List.filterMap_eq_nil_iff.mpr fun event hmem => ?_
  cases event with
  | line line => rfl
  | exchange question answer =>
    have hquestion : IsResolverQuestion question := h _ hmem
    cases hquestion <;> rfl

/-! ## Attempts -/

theorem bindCall_isBind (params : Params) (server : Address) :
    (bindCall params server).isBind = true := by
  unfold bindCall
  split <;> rfl

theorem coherent_unboundTo (server : Address) (options : DialOptions) (startTls : Bool) :
    (unboundTo server options startTls).state.Coherent := by
  constructor <;> simp [unboundTo]

/-- The bind of an attempt keeps all sessions accounted for. -/
theorem bindAttempt_accounted {server : Address} {result : Except Failure Unit} {bound : Connection}
    (course : BindAttempt params options server n events result bound m)
    (hpast : Settled n past) :
    Accounted bound m (past ++ dialedNote server options :: events) := by
  have hdialed : Settled n (past ++ [dialedNote server options]) :=
    hpast.append_quiet fun _ => rfl
  have hstart := hdialed.accounted (coherent_unboundTo server options (bindStartTls params)) rfl
  rw [List.append_cons]
  exact course.accounted (bindCall_isBind params server) hstart

/-- An attempt that starts with all stories complete ends so, or with a connection that holds the
only open session. -/
theorem AttemptCourse.leaves {address : String} {result : Except Failure Connection}
    (course : AttemptCourse params options address n events result m) (hpast : Settled n past) :
    Leaves m (past ++ events) result := by
  cases course with
  | unread => exact hpast.append_quiet fun _ => rfl
  | unsuited => exact hpast.append_quiet fun _ => rfl
  | passwordless => exact hpast.append_quiet fun _ => rfl
  | @failed server _ _ _ _ _ _ course =>
    have hbound := bindAttempt_accounted course hpast
    obtain rfl := failed_of_error course
    -- the bind failed, so nothing is held that the closing would have to end
    have hclosed := (hbound.settled rfl).append_quiet
      (fun session => show story session [closedNote server options] = [] from rfl)
    rwa [List.append_assoc] at hclosed
  | bound _ _ course => exact bindAttempt_accounted course hpast

/-- So do the attempts of a login. -/
theorem Attempts.leaves {last : Failure} {uris : List String} {attempts : List Attempt}
    (h : Attempts params options uris n attempts m) (hpast : Settled n past) :
    Leaves m (past ++ attempts.flatMap (Attempt.trace params options)) (ending last attempts) := by
  induction h generalizing past last with
  | exhausted =>
    rw [List.flatMap_nil, List.append_nil]
    exact hpast
  | success course =>
    rw [List.flatMap_singleton]
    exact course.leaves hpast
  | failure course _ ih =>
    have hsettled : Settled _ (past ++ _) := course.leaves hpast
    rw [List.flatMap_cons, ending_cons last rfl, ← List.append_assoc, Attempt.trace,
      ← List.append_assoc]
    exact ih (hsettled.append_quiet fun _ => rfl)

theorem leaves_setSearchBase {result : Except Failure Connection} (h : Leaves n past result)
    (base : String) : Leaves n past (result.map fun c => { c with searchBase := base }) := by
  cases result with
  | error failure => exact h
  | ok c => exact ⟨h.coherent, h.fresh, h.held, h.others⟩

theorem login_leaves {result : Except Failure Connection}
    (h : (login params options).Admits n events result m) (hpast : Settled n past) :
    Leaves m (past ++ events) result := by
  cases login_course h with
  | refused =>
    rw [List.append_nil]
    exact hpast
  | lost _ hlookups => exact hpast.append_quiet (story_of_lookups hlookups)
  | tried _ hlookups hattempts =>
    have hfound := hpast.append_quiet (story_of_lookups hlookups)
    rw [← List.append_assoc]
    exact leaves_setSearchBase (hattempts.leaves hfound) _

end Login

/-! ## All sessions -/

open Connection in
/-- Whatever is called on a connection, in any order, and whatever is answered: until it is dropped
the connector is asked at most once, and the session that it opens gets one bind, directory calls if
the bind was accepted, and then one unbind, which is its last call.  Each session that a login
opens, for a failed attempt or for the connection that it returns, lives in the same way. -/
theorem session_lives {σ : Type} (env : Environment σ) (standing : Standing σ) (address : String)
    (params : Params) (options : DialOptions) (history : History) :
    let dialed := ((useAndDrop (dial address options) history).run env standing).events
    let loggedIn := ((useAndDrop (Login.login params options) history).run env standing).events
    dialed.countP Event.isConnect ≤ 1 ∧ (∀ session, IsLife (story session dialed)) ∧
      ∀ session, IsLife (story session loggedIn) := by
  intro dialed loggedIn
  have hdialed := run_admits env (useAndDrop (dial address options) history) standing
  have hloggedIn := run_admits env (useAndDrop (Login.login params options) history) standing
  refine ⟨useAndDrop_dial_connects hdialed, ?_, ?_⟩
  · exact (useAndDrop_settled (fun h => dial_leaves h (settled_nil _)) hdialed).lived
  · exact (useAndDrop_settled (fun h => Login.login_leaves h (settled_nil _)) hloggedIn).lived

end LdapClient
