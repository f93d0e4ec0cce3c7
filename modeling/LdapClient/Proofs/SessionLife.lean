/-
# LdapClient.Proofs.SessionLife -- every session is opened, bound, used and unbound

All that befalls one session is read off the events of a conversation by `story`.  `IsLife` says
what a complete story looks like: the connector may refuse the session, and a session that it opens
gets one bind, then directory calls if the bind was accepted, and then one unbind, after which there
is nothing.

The invariant is `Accounted`: at any time the story of the session that a connection holds lacks
only its end, and all other stories are complete.  One call keeps it (`CommandCourse.accounted`), so
every history does, and closing completes the last story.  How often the connector is asked is
counted apart, by `AskedOnce`.

What is said of all sessions of a connection, from its making to its end, is `useAndDrop_settled`
and `useAndDrop_dial_connects`.
-/
import LdapClient.Proofs.Connection.Coherence

namespace LdapClient

open Dialogue

/-! ## Stories -/

/-- What befalls a session. -/
inductive Happening where
  /-- The connector is asked for it, and opens it or not. -/
  | opened (accepted : Bool)
  /-- It receives a call, and accepts it or not. -/
  | called (made : SessionCall) (accepted : Bool)
deriving DecidableEq

/-- The happening is a directory call. -/
def Happening.isUse : Happening → Bool
  | opened _ => false
  | called made _ => made.isUse

namespace Dialogue

/-- What an event means for a session. -/
def Event.happening? (session : SessionId) : Event → Option Happening
  | .line _ => none
  | .exchange .systemResolver _ => none
  | .exchange (.lookup _) _ => none
  | .exchange (.connect s _ _ _) (answer : Except Signal Unit) =>
    if s = session then some (.opened answer.isOk) else none
  | .exchange (.call s made) (answer : Except Signal made.Value) =>
    if s = session then some (.called made answer.isOk) else none

/-- The event asks the connector for a session. -/
def Event.isConnect : Event → Bool
  | .exchange (.connect ..) _ => true
  | _ => false

end Dialogue

/-- All that befalls a session, in order. -/
def story (session : SessionId) (events : List Event) : List Happening :=
  events.filterMap (Event.happening? session)

/-- The story of a session that is open: it was opened, its bind was accepted, and only directory
calls followed. -/
def IsOpen (happenings : List Happening) : Prop :=
  ∃ bind uses, bind.isBind = true ∧ (∀ use ∈ uses, use.isUse = true) ∧
    happenings = .opened true :: .called bind true :: uses

/-- The complete stories of a session. -/
inductive IsLife : List Happening → Prop
  /-- The connector is never asked for it. -/
  | unborn : IsLife []
  /-- The connector does not open it. -/
  | refused : IsLife [.opened false]
  /-- Its bind is rejected, and it is unbound at once. -/
  | rejected {bind : SessionCall} {ended : Bool} (hbind : bind.isBind = true) :
      IsLife [.opened true, .called bind false, .called .unbind ended]
  /-- Its bind is accepted; directory calls follow, and one unbind comes last. -/
  | used {happenings : List Happening} {ended : Bool} (hopen : IsOpen happenings) :
      IsLife (happenings ++ [.called .unbind ended])

@[simp]
theorem story_nil (session : SessionId) : story session [] = [] :=
  rfl

@[simp]
theorem story_append (session : SessionId) (first second : List Event) :
    story session (first ++ second) = story session first ++ story session second :=
  List.filterMap_append

@[simp]
theorem story_line (session : SessionId) (line : Line) (events : List Event) :
    story session (.line line :: events) = story session events :=
  rfl

@[simp]
theorem story_note (session : SessionId) (c : Connection) (level : Level) (text : String)
    (events : List Event) :
    story session (c.note level text :: events) = story session events :=
  rfl

@[simp]
theorem story_connect (session s : SessionId) (connector : Connector) (address : Address)
    (options : TransportOptions) (answer : Except Signal Unit) (events : List Event) :
    story session (.exchange (.connect s connector address options) answer :: events) =
      (if s = session then [.opened answer.isOk] else []) ++ story session events := by
  by_cases h : s = session <;> simp [story, Event.happening?, h]

@[simp]
theorem story_call (session s : SessionId) (made : SessionCall) (answer : made.Answer)
    (events : List Event) :
    story session (.exchange (.call s made) answer :: events) =
      (if s = session then [.called made answer.isOk] else []) ++ story session events := by
  by_cases h : s = session <;> simp [story, Event.happening?, h]

@[simp]
theorem story_unbind (session s : SessionId) (answer : Except Signal Unit)
    (events : List Event) :
    story session (.exchange (.call s .unbind) answer :: events) =
      (if s = session then [.called .unbind answer.isOk] else []) ++ story session events :=
  story_call session s .unbind answer events

@[simp]
theorem story_farewell (session : SessionId) (c : Connection) (answer : Except Signal Unit) :
    story session (c.farewell answer) = [] := by
  cases answer <;> rfl

@[simp]
theorem story_abandonment (session : SessionId) (c : Connection) (answer : Except Signal Unit) :
    story session (c.abandonment answer) = [] := by
  cases answer <;> rfl

theorem IsOpen.append {happenings uses : List Happening} (h : IsOpen happenings)
    (huses : ∀ use ∈ uses, use.isUse = true) : IsOpen (happenings ++ uses) := by
  obtain ⟨bind, earlier, hbind, hearlier, rfl⟩ := h
  refine ⟨bind, earlier ++ uses, hbind, ?_, rfl⟩
  intro use huse
  rcases List.mem_append.mp huse with huse | huse
  · exact hearlier use huse
  · exact huses use huse

theorem IsOpen.ne_nil {happenings : List Happening} (h : IsOpen happenings) : happenings ≠ [] := by
  obtain ⟨bind, uses, -, -, rfl⟩ := h
  simp

namespace Connection

theorem heldSession_eq_ok_iff {c : Connection} {session : SessionId} :
    c.heldSession = .ok session ↔ c.phase = .bound ∧ c.state.session = some session := by
  unfold heldSession
  cases c.phase with
  | bound => cases c.state.session <;> simp [Refusal.refuse]
  | unbound => simp [Refusal.refuse]
  | failed => simp [Refusal.refuse]
  | closed => simp [Refusal.refuse]

/-- A directory operation adds directory calls to the story of the held session. -/
theorem isUse_of_mem_story {c : Connection} {session : SessionId} {events : List Event}
    (huses : ∀ event ∈ events, event.IsWithin c.Uses) {happening : Happening}
    (h : happening ∈ story session events) :
    c.heldSession = .ok session ∧ happening.isUse = true := by
  obtain ⟨event, hmem, hhappening⟩ := List.mem_filterMap.mp h
  cases event with
  | line line => simp [Event.happening?] at hhappening
  | exchange question answer =>
    obtain ⟨held, made, hs, rfl, hmade⟩ := huses _ hmem
    simp only [Event.happening?, Option.ite_none_right_eq_some, Option.some.injEq] at hhappening
    obtain ⟨rfl, rfl⟩ := hhappening
    exact ⟨hs, hmade⟩

/-! ## The invariant -/

/-- All sessions are accounted for: none has a number that is still to come, the held one is open,
and all others have lived. -/
structure Accounted (c : Connection) (n : Nat) (past : List Event) : Prop where
  coherent : c.state.Coherent
  fresh : ∀ session, n ≤ session → story session past = []
  held : ∀ session, c.state.session = some session → IsOpen (story session past)
  others : ∀ session, c.state.session ≠ some session → IsLife (story session past)

/-- All sessions are accounted for and none is open. -/
structure Settled (n : Nat) (past : List Event) : Prop where
  fresh : ∀ session, n ≤ session → story session past = []
  lived : ∀ session, IsLife (story session past)

variable {c : Connection} {n : Nat} {past : List Event}

/-- Events that concern no session leave all stories as they are. -/
theorem Settled.append_quiet (h : Settled n past) {events : List Event}
    (hquiet : ∀ session, story session events = []) : Settled n (past ++ events) where
  fresh session hs := by rw [story_append, hquiet, List.append_nil, h.fresh session hs]
  lived session := by rw [story_append, hquiet, List.append_nil]; exact h.lived session

/-- A connection that holds no session has nothing left to account for. -/
theorem Accounted.settled (h : Accounted c n past) (hc : c.state.session = none) :
    Settled n past where
  fresh := h.fresh
  lived session := h.others session (by simp [hc])

theorem Settled.accounted (h : Settled n past) (hcoherent : c.state.Coherent)
    (hc : c.state.session = none) : Accounted c n past where
  coherent := hcoherent
  fresh := h.fresh
  held session hs := by simp [hc] at hs
  others session _ := h.lived session

/-- The story of the next session, written after a settled past. -/
theorem Settled.append_life (h : Settled n past) {events : List Event}
    (hlife : IsLife (story n events))
    (hquiet : ∀ session, session ≠ n → story session events = []) :
    Settled (n + 1) (past ++ events) where
  fresh session hs := by
    rw [story_append, h.fresh session (by omega), hquiet session (by omega), List.append_nil]
  lived session := by
    rw [story_append]
    by_cases hn : session = n
    · subst hn
      rw [h.fresh session (Nat.le_refl session), List.nil_append]
      exact hlife
    · rw [hquiet session hn, List.append_nil]
      exact h.lived session

theorem session_eq_none_of_phase_ne_bound (h : c.state.Coherent) (hc : c.phase ≠ .bound) :
    c.state.session = none :=
  Option.not_isSome_iff_eq_none.mp (mt h.bound_iff_session.mpr hc)

/-- Closing writes the end of the last open story. -/
theorem CloseCourse.settled {closed : Connection} {events : List Event}
    (course : CloseCourse c events closed) (h : Accounted c n past) :
    Settled n (past ++ events) := by
  cases course with
  | already hc =>
    have hnone := (h.coherent.closed_empty hc).1
    rw [List.append_nil]
    exact h.settled hnone
  | idle _ hs => exact (h.settled hs).append_quiet fun _ => rfl
  | @ending held hc hs answer =>
    constructor
    · intro session hn
      -- an open session has a story, so its number is not one that is still to come
      have hne : held ≠ session := by
        rintro rfl
        exact (h.held held hs).ne_nil (h.fresh held hn)
      simp [hne, h.fresh session hn]
    · intro session
      by_cases heq : held = session
      · subst heq
        simpa using IsLife.used (h.held held hs)
      · have hother := h.others session (by simp [hs, heq])
        simpa [heq] using hother

/-- A bind writes the whole story of a session that comes to nothing, or the first part of the
story of the session that the connection then holds. -/
theorem BindCourse.accounted {bound : Connection} {method : LoginMethod} {startTls : Bool}
    {made : SessionCall} {m : Nat} {events : List Event} {result : Except Failure Unit}
    (hmade : made.isBind = true)
    (course : BindCourse c method startTls made n events result bound m)
    (h : Accounted c n past) : Accounted bound m (past ++ events) := by
  have hcoherent := course.coherent h.coherent
  -- whatever asks the connector starts unbound, so nothing is held and the past is settled
  cases course with
  | refused => rwa [List.append_nil]
  | unreachable hc signal =>
    have hnone := session_eq_none_of_phase_ne_bound h.coherent (by simp [hc])
    refine Settled.accounted ?_ hcoherent hnone
    apply (h.settled hnone).append_life
    · simpa [opening, Except.isOk, Except.toBool] using IsLife.refused
    · intro session hn
      simp [opening, hn.symm]
  | rejected hc signal goodbye =>
    have hnone := session_eq_none_of_phase_ne_bound h.coherent (by simp [hc])
    refine Settled.accounted ?_ hcoherent hnone
    apply (h.settled hnone).append_life
    · simpa [opening, Except.isOk, Except.toBool] using IsLife.rejected hmade
    · intro session hn
      simp [opening, hn.symm]
  | accepted hc value =>
    have hnone := session_eq_none_of_phase_ne_bound h.coherent (by simp [hc])
    have hpast := h.settled hnone
    refine ⟨hcoherent, ?_, ?_, ?_⟩
    · intro session hn
      have hne : n ≠ session := by omega
      simp [opening, hne, hpast.fresh session (by omega)]
    · intro session hs
      obtain rfl : n = session := by simpa [hold] using hs
      refine ⟨made, [], hmade, by simp, ?_⟩
      simp [opening, hpast.fresh n (Nat.le_refl n), Except.isOk, Except.toBool]
    · intro session hs
      have hne : n ≠ session := by simpa [hold] using hs
      simpa [opening, hne] using hpast.lived session

/-- Every call on a connection keeps all sessions accounted for. -/
theorem CommandCourse.accounted {after : Connection} {m : Nat} {events : List Event}
    (course : CommandCourse c n events after m) (h : Accounted c n past) :
    Accounted after m (past ++ events) := by
  have hcoherent := course.coherent h.coherent
  cases course with
  | quiet => rwa [List.append_nil]
  | wishes =>
    rw [List.append_nil]
    exact ⟨hcoherent, h.fresh, h.held, h.others⟩
  | @binds _ wish _ _ _ _ _ _ hmade hwish course =>
    refine course.accounted hmade ⟨?_, h.fresh, h.held, h.others⟩
    apply h.coherent.setStartTls
    intro hclosed
    rcases hwish with rfl | rfl
    · exact (h.coherent.closed_empty hclosed).2.2
    · rfl
  | operates huses =>
    -- only the story of the held session grows, and only by directory calls
    have hquiet : ∀ session, c.state.session ≠ some session → story session events = [] := by
      intro session hs
      rw [List.eq_nil_iff_forall_not_mem]
      intro happening hmem
      exact hs (heldSession_eq_ok_iff.mp (isUse_of_mem_story huses hmem).1).2
    refine ⟨h.coherent, ?_, ?_, ?_⟩
    · intro session hn
      have hne : c.state.session ≠ some session := fun hs =>
        (h.held session hs).ne_nil (h.fresh session hn)
      rw [story_append, h.fresh session hn, hquiet session hne, List.append_nil]
    · intro session hs
      rw [story_append]
      exact (h.held session hs).append fun use huse => (isUse_of_mem_story huses huse).2
    · intro session hs
      rw [story_append, hquiet session hs, List.append_nil]
      exact h.others session hs
  | closes course =>
    have hclosed := (course.coherent h.coherent).2
    refine (course.settled h).accounted hcoherent ?_
    exact session_eq_none_of_phase_ne_bound hcoherent (by simp [hclosed])

/-! ## How often the connector is asked -/

/-- The connector has not been asked while the connection is unbound, and at most once later. -/
structure AskedOnce (c : Connection) (past : List Event) : Prop where
  unbound : c.phase = .unbound → past.countP Event.isConnect = 0
  atMostOnce : past.countP Event.isConnect ≤ 1

theorem countP_isConnect_farewell (answer : Except Signal Unit) :
    (c.farewell answer).countP Event.isConnect = 0 := by
  cases answer <;> rfl

theorem countP_isConnect_abandonment (answer : Except Signal Unit) :
    (c.abandonment answer).countP Event.isConnect = 0 := by
  cases answer <;> rfl

theorem countP_isConnect_uses {events : List Event}
    (huses : ∀ event ∈ events, event.IsWithin c.Uses) : events.countP Event.isConnect = 0 := by
  apply List.countP_eq_zero.mpr
  intro event hmem
  cases event with
  | line line => simp [Event.isConnect]
  | exchange question answer =>
    obtain ⟨_, _, -, rfl, -⟩ := huses _ hmem
    simp [Event.isConnect]

theorem countP_isConnect_close {closed : Connection} {events : List Event}
    (course : CloseCourse c events closed) : events.countP Event.isConnect = 0 := by
  cases course with
  | already => rfl
  | idle => rfl
  | ending =>
    simp only [List.cons_append, List.countP_cons, List.countP_append, countP_isConnect_farewell]
    rfl

/-- A bind asks the connector once and is then no longer to come, or it does nothing. -/
theorem BindCourse.countP_isConnect {bound : Connection} {method : LoginMethod} {startTls : Bool}
    {made : SessionCall} {m : Nat} {events : List Event} {result : Except Failure Unit}
    (course : BindCourse c method startTls made n events result bound m) :
    (events = [] ∧ bound = c) ∨
      (c.phase = .unbound ∧ bound.phase ≠ .unbound ∧ events.countP Event.isConnect = 1) := by
  cases course with
  | refused => exact Or.inl ⟨rfl, rfl⟩
  | unreachable hc => exact Or.inr ⟨hc, by simp [enter, phase], rfl⟩
  | rejected hc =>
    refine Or.inr ⟨hc, by simp [enter, phase], ?_⟩
    rw [List.countP_append, countP_isConnect_abandonment]
    rfl
  | accepted hc => exact Or.inr ⟨hc, by simp [hold, phase], rfl⟩

/-- Every call keeps to asking the connector at most once. -/
theorem CommandCourse.askedOnce {after : Connection} {m : Nat} {events : List Event}
    (course : CommandCourse c n events after m) (h : AskedOnce c past) :
    AskedOnce after (past ++ events) := by
  cases course with
  | quiet => rwa [List.append_nil]
  | wishes =>
    rw [List.append_nil]
    exact ⟨h.unbound, h.atMostOnce⟩
  | binds _ _ course =>
    rcases course.countP_isConnect with ⟨rfl, rfl⟩ | ⟨hc, hbound, hcount⟩
    · rw [List.append_nil]
      exact ⟨h.unbound, h.atMostOnce⟩
    · have htotal : (past ++ events).countP Event.isConnect = 1 := by
        rw [List.countP_append, h.unbound hc, hcount]
      exact ⟨fun hphase => absurd hphase hbound, Nat.le_of_eq htotal⟩
  | operates huses =>
    have hcount := countP_isConnect_uses huses
    constructor
    · intro hc
      rw [List.countP_append, h.unbound hc, hcount]
    · rw [List.countP_append, hcount]
      exact h.atMostOnce
  | closes course =>
    have hcount := countP_isConnect_close course
    constructor
    · intro hc
      rw [List.countP_append, hcount, Nat.add_zero]
      -- a connection that was closed here is not unbound any more
      cases course with
      | already => exact h.unbound hc
      | idle => cases hc
      | ending => cases hc
    · rw [List.countP_append, hcount]
      exact h.atMostOnce

/-! ## Whole lives of connections -/

/-- A connection is made, its calls are made, and it is dropped. -/
def useAndDrop (make : Dialogue (Except Failure Connection)) (history : History) :
    Dialogue (Except Failure (List (Except Failure Answer))) := do
  match ← make with
  | .error failure => return .error failure
  | .ok c =>
    let (results, _) ← c.live history
    return .ok results

/-- Using a connection begins when it is made, and there is nothing to use if it is not. -/
theorem useAndDrop_course {make : Dialogue (Except Failure Connection)} {history : History}
    {m : Nat} {events : List Event} {result : Except Failure (List (Except Failure Answer))}
    (h : (useAndDrop make history).Admits n events result m) :
    (∃ failure, make.Admits n events (.error failure) m) ∨
      ∃ first c k second results after, make.Admits n first (.ok c) k ∧
        (c.live history).Admits k second (results, after) m ∧ events = first ++ second := by
  obtain ⟨first, made, k, second, hmake, hrest, rfl⟩ := admits_bind.mp h
  cases made with
  | error failure =>
    obtain ⟨rfl, -, rfl⟩ := admits_done.mp hrest
    rw [List.append_nil]
    exact Or.inl ⟨failure, hmake⟩
  | ok c =>
    obtain ⟨used, ⟨results, after⟩, _, _, hlive, hdone, rfl⟩ := admits_bind.mp hrest
    obtain ⟨rfl, -, rfl⟩ := admits_done.mp hdone
    rw [List.append_nil]
    exact Or.inr ⟨first, c, k, used, results, after, hmake, hlive, rfl⟩

theorem live_settled {after : Connection} {history : History} {m : Nat} {events : List Event}
    {results : List (Except Failure Answer)}
    (h : (c.live history).Admits n events (results, after) m) (hc : Accounted c n past) :
    Settled m (past ++ events) := by
  obtain ⟨first, last, second, hall, hclose, rfl⟩ := live_course h
  have hlast : Accounted last m (past ++ first) :=
    performAll_induction Accounted (fun hc course => course.accounted hc) past hall hc
  rw [← List.append_assoc]
  exact hclose.settled hlast

/-- What making a connection leaves behind: a failure and no open session, or a connection. -/
def Leaves (n : Nat) (past : List Event) : Except Failure Connection → Prop
  | .error _ => Settled n past
  | .ok c => Accounted c n past

/-- However a connection is made, using and dropping it leaves no session open. -/
theorem useAndDrop_settled {make : Dialogue (Except Failure Connection)} {history : History}
    {m : Nat} {events : List Event} {result : Except Failure (List (Except Failure Answer))}
    (hmake : ∀ {first : List Event} {k : Nat} {made : Except Failure Connection},
      make.Admits n first made k → Leaves k first made)
    (h : (useAndDrop make history).Admits n events result m) : Settled m events := by
  rcases useAndDrop_course h with ⟨failure, hfailed⟩ | ⟨_, c, _, _, _, _, hmade, hlive, rfl⟩
  · exact hmake hfailed
  · exact live_settled hlive (hmake hmade)

theorem settled_nil (n : Nat) : Settled n [] :=
  ⟨fun _ _ => rfl, fun _ => .unborn⟩

theorem dial_leaves {address : String} {options : DialOptions} {m : Nat} {events : List Event}
    {result : Except Failure Connection} (h : (dial address options).Admits n events result m)
    (hpast : Settled n past) : Leaves m (past ++ events) result := by
  obtain ⟨rfl, line, rfl, hdialed⟩ := dial_course h
  have hquiet : ∀ session, story session [.line line] = [] := fun _ => rfl
  have hsettled := hpast.append_quiet hquiet
  cases result with
  | error failure => exact hsettled
  | ok c =>
    obtain ⟨-, hstate, -⟩ := hdialed c rfl
    exact hsettled.accounted (hstate ▸ coherent_dialed) (by simp [hstate, State.dialed])

/-- On a dialed connection the connector is asked at most once, however long it is used. -/
theorem useAndDrop_dial_connects {address : String} {options : DialOptions} {history : History}
    {m : Nat} {events : List Event} {result : Except Failure (List (Except Failure Answer))}
    (h : (useAndDrop (dial address options) history).Admits n events result m) :
    events.countP Event.isConnect ≤ 1 := by
  rcases useAndDrop_course h with ⟨failure, hfailed⟩ | ⟨_, c, _, _, _, _, hdial, hlive, rfl⟩
  · obtain ⟨-, line, rfl, -⟩ := dial_course hfailed
    exact Nat.zero_le 1
  · obtain ⟨-, line, rfl, -⟩ := dial_course hdial
    obtain ⟨used, last, closing, hall, hclose, rfl⟩ := live_course hlive
    have hstart : AskedOnce c [.line line] := ⟨fun _ => rfl, Nat.zero_le 1⟩
    have hlast : AskedOnce last ([.line line] ++ used) :=
      performAll_induction (fun c _ => AskedOnce c) (fun hc course => course.askedOnce hc) _ hall
        hstart
    rw [← List.append_assoc, List.countP_append, countP_isConnect_close hclose]
    exact hlast.atMostOnce

end Connection

end LdapClient
