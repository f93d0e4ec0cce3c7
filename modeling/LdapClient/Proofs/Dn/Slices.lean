/-
# LdapClient.Proofs.Dn.Slices -- where a text is cut

A text is cut in one walk over its characters, which keeps its place as a number of octets, the place
where the piece at hand begins, and whether the character before was a backslash that escapes this
one.  `Walk.Passed` says what that means for the characters passed so far: they are the pieces that
are done, each with the mark behind it, and then the piece at hand, which is whole, or whole up to a
last backslash if the flag is set.  One step keeps this (`Walk.Passed.step`), so it holds at the end
(`Walk.passed_run`).

How a text ends can be told without the walk.  Its escapes are finished just if an even number of
backslashes stands at its end (`whole_iff`), hence the flag is the parity of that number
(`Walk.Passed.escaped_iff`).  The main statement is `split_at_slices`.
-/
import LdapClient.Dn.Basic
import LdapClient.Proofs.Dn.Parsed
import LdapClient.Proofs.Dn.Split
import Mathlib.Algebra.Ring.Parity
import Mathlib.Data.List.DropRight
import Mathlib.Data.List.Forall2

namespace LdapClient.Dn

open Text

/-! ## Backslashes at the end -/

/-- How many backslashes stand at the end of the text. -/
def backslashes (text : List Char) : Nat :=
  (text.rtakeWhile (· = '\\')).length

theorem backslashes_backslash (text : List Char) :
    backslashes (text ++ ['\\']) = backslashes text + 1 := by
  simp [backslashes]

theorem backslashes_concat {c : Char} (hc : c ≠ '\\') (text : List Char) :
    backslashes (text ++ [c]) = 0 := by
  simp [backslashes, hc]

theorem Whole.not_concat {text : List Char} (h : Whole [] text) : ¬ Whole [] (text ++ ['\\']) := by
  intro hall
  have hlast := (h.append_iff.mp hall).2
  cases hlast with
  | char hc => exact hc rfl

/-- The escapes of a text are finished, or only the last backslash is left over; which of the two
is said by the number of backslashes at the end. -/
theorem whole_or_open (text : List Char) :
    Whole [] text ∧ Even (backslashes text) ∨
      (∃ front, text = front ++ ['\\'] ∧ Whole [] front) ∧ Odd (backslashes text) := by
  induction text using List.reverseRecOn with
  | nil => exact .inl ⟨.nil, Even.zero⟩
  | append_singleton text c ih =>
    by_cases hc : c = '\\'
    · subst hc
      rw [backslashes_backslash]
      rcases ih with ⟨hwhole, heven⟩ | ⟨⟨front, rfl, hfront⟩, hodd⟩
      · exact .inr ⟨⟨text, rfl, hwhole⟩, heven.add_one⟩
      · refine .inl ⟨?_, hodd.add_one⟩
        rw [List.append_assoc]
        exact hfront.append (.escape '\\' .nil)
    · rw [backslashes_concat hc]
      refine .inl ⟨?_, Even.zero⟩
      rcases ih with ⟨hwhole, -⟩ | ⟨⟨front, rfl, hfront⟩, -⟩
      · exact hwhole.append (.char hc List.not_mem_nil .nil)
      · rw [List.append_assoc]
        exact hfront.append (.escape c .nil)

theorem whole_iff {text : List Char} : Whole [] text ↔ Even (backslashes text) := by
  rcases whole_or_open text with ⟨hwhole, heven⟩ | ⟨⟨front, rfl, hfront⟩, hodd⟩
  · exact iff_of_true hwhole heven
  · exact iff_of_false hfront.not_concat (Nat.not_even_iff_odd.mpr hodd)

/-- A mark in a whole text stands behind an odd number of backslashes. -/
theorem Whole.odd_of_mark {mark : Char} (hmark : mark ≠ '\\') {front back : List Char}
    (h : Whole [mark] (front ++ mark :: back)) : Odd (backslashes front) := by
  by_contra heven
  have hfront := whole_iff.mpr (Nat.not_odd_iff_even.mp heven)
  obtain ⟨hnot, -⟩ := (hfront.append_iff.mp h).2.of_char hmark
  exact hnot (List.mem_singleton_self mark)

/-! ## Positions -/

/-- The position behind these characters. -/
def endOf (front : List Char) : String.Pos.Raw :=
  (String.ofList front).rawEndPos

theorem endOf_concat (front : List Char) (c : Char) : endOf (front ++ [c]) = endOf front + c := by
  have hpush : String.ofList (front ++ [c]) = (String.ofList front).push c :=
    String.toList_inj.mp (by simp)
  rw [endOf, hpush, String.rawEndPos_push, endOf]

/-- The positions are the bounds of an occurrence of the piece in the text. -/
def Stands (text : List Char) (bounds : String.Pos.Raw × String.Pos.Raw) (piece : List Char) :
    Prop :=
  ∃ front back, text = front ++ piece ++ back ∧ bounds = (endOf front, endOf (front ++ piece))

theorem Stands.append {text : List Char} {bounds : String.Pos.Raw × String.Pos.Raw}
    {piece : List Char} (h : Stands text bounds piece) (more : List Char) :
    Stands (text ++ more) bounds piece := by
  obtain ⟨front, back, rfl, hbounds⟩ := h
  exact ⟨front, back ++ more, by rw [List.append_assoc _ back], hbounds⟩

/-- The octets from one position up to the other are those of the piece, and neither position is
inside a character. -/
structure IsSlice (text : String) (bounds : String.Pos.Raw × String.Pos.Raw) (piece : List Char) :
    Prop where
  ordered : bounds.1 ≤ bounds.2
  first_valid : bounds.1.IsValid text
  last_valid : bounds.2.IsValid text
  octets : text.toByteArray.extract bounds.1.byteIdx bounds.2.byteIdx =
    (String.ofList piece).toByteArray

theorem Stands.isSlice {text : String} {bounds : String.Pos.Raw × String.Pos.Raw}
    {piece : List Char} (h : Stands text.toList bounds piece) : IsSlice text bounds piece := by
  obtain ⟨front, back, htext, rfl⟩ := h
  have heq : text = String.ofList front ++ String.ofList piece ++ String.ofList back := by
    rw [← String.ofList_append, ← String.ofList_append, ← htext, String.ofList_toList]
  have hlength : (endOf (front ++ piece)).byteIdx =
      (String.ofList front).toByteArray.size + (String.ofList piece).toByteArray.size := by
    rw [endOf, String.ofList_append, ← ByteArray.size_append, ← String.toByteArray_append]
    rfl
  refine ⟨?_, ?_, ?_, ?_⟩
  · rw [String.Pos.Raw.le_iff, hlength]
    exact Nat.le_add_right _ _
  · refine String.Pos.Raw.isValid_iff_exists_append.mpr
      ⟨_, String.ofList piece ++ String.ofList back, ?_, rfl⟩
    rw [heq, String.append_assoc]
  · refine String.Pos.Raw.isValid_iff_exists_append.mpr ⟨_, String.ofList back, ?_, rfl⟩
    rw [heq, String.ofList_append]
  · rw [heq, String.append_assoc, String.toByteArray_append, String.toByteArray_append, hlength]
    exact (ByteArray.extract_append_size_add (i := 0)).trans (ByteArray.extract_append_eq_left rfl)

/-! ## The walk -/

/-- A walk over a text: the position it has come to, the position where the piece at hand begins,
whether the next character is escaped, and the bounds of the pieces that are done. -/
structure Walk where
  here : String.Pos.Raw
  start : String.Pos.Raw
  escaped : Bool
  slices : List (String.Pos.Raw × String.Pos.Raw)

namespace Walk

/-- A walk at the front of a text. -/
def front : Walk :=
  ⟨0, 0, false, []⟩

/-- Passes one character. -/
def step (mark : Char) (walk : Walk) (c : Char) : Walk :=
  let walk' := { walk with here := walk.here + c, escaped := false }
  if walk.escaped then walk'
  else if c = '\\' then { walk' with escaped := true }
  else if c = mark then
    { walk' with start := walk.here + c, slices := walk.slices ++ [(walk.start, walk.here)] }
  else walk'

/-- Passes a text. -/
def run (mark : Char) (text : List Char) : Walk :=
  text.foldl (step mark) front

end Walk

/-- The bounds of the pieces between the unescaped occurrences of the mark. -/
def slices? (mark : Char) (text : String) : Option (List (String.Pos.Raw × String.Pos.Raw)) :=
  let walk := Walk.run mark text.toList
  if walk.escaped then none else some (walk.slices ++ [(walk.start, text.rawEndPos)])

/-! ## What was passed -/

/-- The pieces that are done, each with the mark behind it. -/
def closedText (mark : Char) (closed : List (List Char)) : List Char :=
  closed.flatMap (· ++ [mark])

theorem closedText_concat (mark : Char) (closed : List (List Char)) (piece : List Char) :
    closedText mark (closed ++ [piece]) = closedText mark closed ++ piece ++ [mark] := by
  simp [closedText]

theorem intercalate_concat (mark : Char) (closed : List (List Char)) (last : List Char) :
    [mark].intercalate (closed ++ [last]) = closedText mark closed ++ last := by
  induction closed with
  | nil => exact List.intercalate_singleton
  | cons piece closed ih =>
    rw [List.cons_append, List.intercalate_cons_of_ne_nil (by simp), ih]
    simp [closedText]

theorem closedText_whole {mark : Char} (hmark : mark ≠ '\\') {closed : List (List Char)}
    (h : ∀ piece ∈ closed, Whole [mark] piece) : Whole [] (closedText mark closed) := by
  induction closed with
  | nil => exact .nil
  | cons piece closed ih =>
    obtain ⟨hpiece, hclosed⟩ := List.forall_mem_cons.mp h
    have hfirst := (hpiece.mono (List.nil_subset _)).append (.char hmark List.not_mem_nil .nil)
    exact hfirst.append (ih hclosed)

namespace Walk

/-- The walk has passed these characters: the pieces that are done and the one at hand. -/
structure Passed (mark : Char) (walk : Walk) (passed : List Char) (closed : List (List Char))
    (current : List Char) : Prop where
  passed_eq : passed = closedText mark closed ++ current
  closed_whole : ∀ piece ∈ closed, Whole [mark] piece
  settled : walk.escaped = false → Whole [mark] current
  pending : walk.escaped = true → ∃ front, current = front ++ ['\\'] ∧ Whole [mark] front
  slices_stand : List.Forall₂ (Stands passed) walk.slices closed
  here_eq : walk.here = endOf passed
  start_eq : walk.start = endOf (closedText mark closed)

variable {mark : Char} {walk : Walk} {passed current : List Char} {closed : List (List Char)}

theorem passed_front (mark : Char) : front.Passed mark [] [] [] where
  passed_eq := rfl
  closed_whole := List.forall_mem_nil _
  settled _ := .nil
  pending h := by contradiction
  slices_stand := .nil
  here_eq := rfl
  start_eq := rfl

namespace Passed

/-- A character that ends no piece goes into the one at hand. -/
theorem extend (h : walk.Passed mark passed closed current) (c : Char) {escaped : Bool}
    (settled : escaped = false → Whole [mark] (current ++ [c]))
    (pending : escaped = true → ∃ front, current ++ [c] = front ++ ['\\'] ∧ Whole [mark] front) :
    { walk with here := walk.here + c, escaped }.Passed mark (passed ++ [c]) closed
      (current ++ [c]) where
  passed_eq := by rw [h.passed_eq, List.append_assoc]
  closed_whole := h.closed_whole
  settled := settled
  pending := pending
  slices_stand := h.slices_stand.imp fun _ _ hstands => hstands.append [c]
  here_eq := by rw [endOf_concat, ← h.here_eq]
  start_eq := h.start_eq

/-- A mark ends the piece at hand. -/
theorem close (h : walk.Passed mark passed closed current) (hcurrent : Whole [mark] current) :
    { here := walk.here + mark, start := walk.here + mark, escaped := false,
      slices := walk.slices ++ [(walk.start, walk.here)] : Walk }.Passed mark (passed ++ [mark])
      (closed ++ [current]) [] where
  passed_eq := by rw [closedText_concat, h.passed_eq, List.append_nil]
  closed_whole := List.forall_mem_append.mpr
    ⟨h.closed_whole, List.forall_mem_singleton.mpr hcurrent⟩
  settled _ := .nil
  pending h := by contradiction
  slices_stand := by
    have hlast : Stands (passed ++ [mark]) (walk.start, walk.here) current :=
      ⟨closedText mark closed, [mark], by rw [h.passed_eq], by
        rw [h.start_eq, h.here_eq, h.passed_eq]⟩
    exact List.rel_append (h.slices_stand.imp fun _ _ hstands => hstands.append [mark])
      (.cons hlast .nil)
  here_eq := by rw [endOf_concat, ← h.here_eq]
  start_eq := by rw [closedText_concat, ← h.passed_eq, endOf_concat, ← h.here_eq]

/-- One more character is passed. -/
theorem step (hmark : mark ≠ '\\') (h : walk.Passed mark passed closed current) (c : Char) :
    ∃ closed current, (walk.step mark c).Passed mark (passed ++ [c]) closed current := by
  unfold Walk.step
  dsimp only
  cases hescaped : walk.escaped with
  | true =>
    obtain ⟨front, rfl, hfront⟩ := h.pending hescaped
    refine ⟨closed, _, h.extend c (fun _ => ?_) (fun h => by contradiction)⟩
    rw [List.append_assoc]
    exact hfront.append (.escape c .nil)
  | false =>
    have hcurrent := h.settled hescaped
    rw [if_neg Bool.false_ne_true]
    split
    · next hc =>
      subst hc
      exact ⟨closed, _, h.extend '\\' (fun h => by contradiction) fun _ => ⟨current, rfl, hcurrent⟩⟩
    · next hc =>
      split
      · next hc =>
        subst hc
        exact ⟨_, [], h.close hcurrent⟩
      · next hne =>
        refine ⟨closed, _, h.extend c (fun _ => ?_) (fun h => by contradiction)⟩
        exact hcurrent.append (.char hc (by simpa using hne) .nil)

/-- The flag says whether an odd number of backslashes has just been passed. -/
theorem escaped_iff (hmark : mark ≠ '\\') (h : walk.Passed mark passed closed current) :
    walk.escaped = true ↔ Odd (backslashes passed) := by
  have hbefore := closedText_whole hmark h.closed_whole
  cases hescaped : walk.escaped with
  | true =>
    obtain ⟨front, hcurrent, hfront⟩ := h.pending hescaped
    have hwhole := hbefore.append (hfront.mono (List.nil_subset _))
    have hnot := hwhole.not_concat
    rw [List.append_assoc, ← hcurrent, ← h.passed_eq, whole_iff, Nat.not_even_iff_odd] at hnot
    exact iff_of_true rfl hnot
  | false =>
    have hwhole := hbefore.append ((h.settled hescaped).mono (List.nil_subset _))
    rw [← h.passed_eq, whole_iff, ← Nat.not_odd_iff_even] at hwhole
    exact iff_of_false Bool.false_ne_true hwhole

/-- At the end, the pieces are those that are done and the one at hand. -/
theorem cutAt (h : walk.Passed mark passed closed current) (hescaped : walk.escaped = false) :
    CutAt mark passed (closed ++ [current]) where
  ne_nil := by simp
  joined := (intercalate_concat mark closed current).trans h.passed_eq.symm
  whole := List.forall_mem_append.mpr
    ⟨h.closed_whole, List.forall_mem_singleton.mpr (h.settled hescaped)⟩

/-- At the end, the bounds of the last piece are found as well. -/
theorem all_stand (h : walk.Passed mark passed closed current) :
    List.Forall₂ (Stands passed) (walk.slices ++ [(walk.start, endOf passed)])
      (closed ++ [current]) := by
  have hlast : Stands passed (walk.start, endOf passed) current :=
    ⟨closedText mark closed, [], by rw [List.append_nil, h.passed_eq], by
      rw [h.start_eq, ← h.passed_eq]⟩
  exact List.rel_append h.slices_stand (.cons hlast .nil)

end Passed

/-- A walk has passed the text that it went over. -/
theorem passed_run (hmark : mark ≠ '\\') (text : List Char) :
    ∃ closed current, (run mark text).Passed mark text closed current := by
  induction text using List.reverseRecOn with
  | nil => exact ⟨[], [], passed_front mark⟩
  | append_singleton text c ih =>
    obtain ⟨closed, current, hpassed⟩ := ih
    rw [run, List.foldl_append]
    exact hpassed.step hmark c

end Walk

/-! ## Pieces and slices -/

/-- The text is cut into these pieces: joined by the mark they are the text, and in each of them
every mark is escaped, all escapes are finished, and there is nothing more to cut. -/
structure SplitsInto (mark : Char) (text : List Char) (pieces : List (List Char)) : Prop where
  joined : [mark].intercalate pieces = text
  marks_escaped : ∀ piece ∈ pieces, ∀ front back, piece = front ++ mark :: back →
    Odd (backslashes front)
  even : ∀ piece ∈ pieces, Even (backslashes piece)
  alone : ∀ piece ∈ pieces, Rdn.pieces mark piece = .ok [piece]

theorem CutAt.splitsInto {mark : Char} (hmark : mark ≠ '\\') {text : List Char}
    {pieces : List (List Char)} (h : CutAt mark text pieces) : SplitsInto mark text pieces where
  joined := h.joined
  marks_escaped piece hpiece _ _ heq := (heq ▸ h.whole piece hpiece).odd_of_mark hmark
  even piece hpiece := whole_iff.mp ((h.whole piece hpiece).mono (List.nil_subset _))
  alone piece hpiece := (Rdn.pieces_eq_ok hmark).mpr (.single (h.whole piece hpiece))

/-- A text is cut at every mark without an escape, unless it ends with an odd number of backslashes;
then it is refused.  The pieces joined by the mark are the text again, no mark stands in a piece
without an escape, no piece ends with an odd number of backslashes, and a piece is not cut any
further.  Each piece is found in the text between two positions, neither of which is inside a
character. -/
theorem split_at_slices {mark : Char} (hmark : mark ≠ '\\') (text : String) :
    (Odd (backslashes text.toList) →
      Rdn.pieces mark text.toList = .error .unterminatedEscape ∧ slices? mark text = none) ∧
    (Even (backslashes text.toList) → ∃ pieces slices,
      Rdn.pieces mark text.toList = .ok pieces ∧ slices? mark text = some slices ∧
        SplitsInto mark text.toList pieces ∧ List.Forall₂ (IsSlice text) slices pieces) := by
  obtain ⟨closed, current, hpassed⟩ := Walk.passed_run hmark text.toList
  have hflag := hpassed.escaped_iff hmark
  constructor
  · intro hodd
    constructor
    · rcases whole_or_open text.toList with ⟨-, heven⟩ | ⟨⟨front, htext, hfront⟩, -⟩
      · exact absurd heven (Nat.not_even_iff_odd.mpr hodd)
      · rw [htext, Rdn.pieces, hfront.split_open]
    · exact if_pos (hflag.mpr hodd)
  · intro heven
    have hescaped : ¬ (Walk.run mark text.toList).escaped = true :=
      fun h => Nat.not_odd_iff_even.mpr heven (hflag.mp h)
    have hcut := hpassed.cutAt (Bool.eq_false_iff.mpr hescaped)
    refine ⟨closed ++ [current], _, (Rdn.pieces_eq_ok hmark).mpr hcut, if_neg hescaped,
      hcut.splitsInto hmark, ?_⟩
    have hstand := hpassed.all_stand
    rw [endOf, String.ofList_toList] at hstand
    exact hstand.imp fun _ _ h => h.isSlice

/-- Characters of several octets around an escaped comma and behind an escaped backslash.  With one
more backslash at the end the text is refused. -/
theorem wide_characters_cut :
    let text := "é\\,ü,日\\\\,"
    let pieces := ["é\\,ü".toList, "日\\\\".toList, []]
    let slices : List (String.Pos.Raw × String.Pos.Raw) := [(⟨0⟩, ⟨6⟩), (⟨7⟩, ⟨12⟩), (⟨13⟩, ⟨13⟩)]
    ',' ≠ '\\' ∧ Rdn.pieces ',' text.toList = .ok pieces ∧ slices? ',' text = some slices ∧
      SplitsInto ',' text.toList pieces ∧ List.Forall₂ (IsSlice text) slices pieces ∧
      Rdn.pieces ',' "é,日\\\\\\".toList = .error .unterminatedEscape := by
  intro text pieces slices
  have hmark : ',' ≠ '\\' := by decide
  have hpieces : Rdn.pieces ',' text.toList = .ok pieces := by decide +kernel
  have hslices : slices? ',' text = some slices := by decide +kernel
  obtain ⟨found, bounds, hfound, hbounds, hsplits, hstand⟩ :=
    (split_at_slices hmark text).2 (by decide +kernel)
  obtain rfl := Except.ok.inj (hpieces.symm.trans hfound)
  obtain rfl := Option.some.inj (hslices.symm.trans hbounds)
  exact ⟨hmark, hpieces, hslices, hsplits, hstand,
    ((split_at_slices hmark "é,日\\\\\\").1 (by decide +kernel)).1⟩

end LdapClient.Dn
