/-
# LdapClient.Proofs.Dn.Split -- cutting at unescaped delimiters

`Whole marks text` says that every escape of a text is finished and that none of the marks stands in
it without an escape.  Whole texts pass the splitting at a mark in one piece (`Whole.split_append`),
so splitting undoes joining (`split_intercalate`); a text that is whole up to a last backslash is
refused (`Whole.split_open`).  Read backwards, the pieces that splitting finds are exactly those
whole ones that the text is joined from (`splitUnescaped_eq_some`).
-/
import LdapClient.Dn.Escape
import Mathlib.Data.List.Basic

namespace LdapClient.Dn

open Text

/-! ## Whole texts -/

/-- Every escape of the text is finished, and no mark stands in it without an escape. -/
inductive Whole (marks : List Char) : List Char → Prop
  | nil : Whole marks []
  | escape (c : Char) {rest : List Char} (h : Whole marks rest) : Whole marks ('\\' :: c :: rest)
  | char {c : Char} {rest : List Char} (hc : c ≠ '\\') (hmark : c ∉ marks) (h : Whole marks rest) :
      Whole marks (c :: rest)

namespace Whole

variable {marks : List Char} {text : List Char}

theorem append (h : Whole marks text) {more : List Char} (hmore : Whole marks more) :
    Whole marks (text ++ more) := by
  induction h with
  | nil => exact hmore
  | escape c _ ih => exact .escape c ih
  | char hc hmark _ ih => exact .char hc hmark ih

theorem of_escape {c : Char} (h : Whole marks ('\\' :: c :: text)) : Whole marks text := by
  cases h with
  | escape _ h => exact h
  | char hc => contradiction

theorem of_char {c : Char} (hc : c ≠ '\\') (h : Whole marks (c :: text)) :
    c ∉ marks ∧ Whole marks text := by
  cases h with
  | escape => contradiction
  | char _ hmark h => exact ⟨hmark, h⟩

/-- Behind a text whose escapes are finished, the rest is read from the start. -/
theorem append_iff (h : Whole [] text) {more : List Char} :
    Whole marks (text ++ more) ↔ Whole marks text ∧ Whole marks more := by
  refine ⟨fun hall => ?_, fun ⟨htext, hmore⟩ => htext.append hmore⟩
  induction h with
  | nil => exact ⟨.nil, hall⟩
  | escape c _ ih =>
    obtain ⟨htext, hmore⟩ := ih hall.of_escape
    exact ⟨.escape c htext, hmore⟩
  | char hc _ _ ih =>
    obtain ⟨hmark, hrest⟩ := hall.of_char hc
    obtain ⟨htext, hmore⟩ := ih hrest
    exact ⟨.char hc hmark htext, hmore⟩

/-- A whole text in front of the end, or of a mark without an escape, is as long as it can be. -/
theorem eq_of_append_eq {mark : Char} (hmark : mark ≠ '\\') (h : Whole [mark] text)
    {other rest more : List Char} (hother : Whole [mark] other)
    (hrest : rest.head? ∈ [none, some mark]) (hmore : more.head? ∈ [none, some mark])
    (heq : text ++ rest = other ++ more) : text = other := by
  have hstop {next : List Char} (hnext : next.head? ∈ [none, some mark]) {c : Char}
      (hc : c = '\\' ∨ c ∉ [mark]) (tail : List Char) : next ≠ c :: tail := by
    rintro rfl
    rcases hc with rfl | hc
    · simp [Ne.symm hmark] at hnext
    · simp_all
  induction h generalizing other with
  | nil =>
    cases hother with
    | nil => rfl
    | escape => exact absurd heq (hstop hrest (.inl rfl) _)
    | char hc hnot => exact absurd heq (hstop hrest (.inr hnot) _)
  | escape c _ ih =>
    cases hother with
    | nil => exact absurd heq.symm (hstop hmore (.inl rfl) _)
    | escape d hother =>
      simp only [List.cons_append, List.cons.injEq, true_and] at heq
      rw [heq.1, ih hother heq.2]
    | char hc => exact absurd (List.cons.inj heq).1.symm hc
  | char hc hnot _ ih =>
    cases hother with
    | nil => exact absurd heq.symm (hstop hmore (.inr hnot) _)
    | escape => exact absurd (List.cons.inj heq).1 hc
    | char _ _ hother =>
      rw [(List.cons.inj heq).1, ih hother (List.cons.inj heq).2]

theorem mono (h : Whole marks text) {fewer : List Char} (hsub : fewer ⊆ marks) :
    Whole fewer text := by
  induction h with
  | nil => exact .nil
  | escape c _ ih => exact .escape c ih
  | char hc hmark _ ih => exact .char hc (fun hmem => hmark (hsub hmem)) ih

theorem of_forall (h : ∀ c ∈ text, c ≠ '\\' ∧ c ∉ marks) : Whole marks text := by
  induction text with
  | nil => exact .nil
  | cons c rest ih =>
    have hc := h c List.mem_cons_self
    exact .char hc.1 hc.2 (ih fun d hd => h d (List.mem_cons_of_mem c hd))

theorem intercalate {mark : Char} (hmark : mark ≠ '\\') (hnot : mark ∉ marks)
    {pieces : List (List Char)} (h : ∀ piece ∈ pieces, Whole marks piece) :
    Whole marks ([mark].intercalate pieces) := by
  induction pieces with
  | nil => exact .nil
  | cons piece pieces ih =>
    have hpiece := h piece List.mem_cons_self
    have hpieces := ih fun p hp => h p (List.mem_cons_of_mem piece hp)
    cases pieces with
    | nil => rwa [List.intercalate_singleton]
    | cons next pieces =>
      rw [List.intercalate_cons_cons, List.append_assoc]
      exact hpiece.append (.char hmark hnot hpieces)

/-- What is joined ends with the last piece. -/
theorem intercalate_last {mark : Char} (hmark : mark ≠ '\\') {pieces : List (List Char)}
    {last : List Char} (hlast : pieces.getLast? = some last)
    (h : ∀ piece ∈ pieces, Whole [] piece) :
    ∃ before, Whole [] before ∧ [mark].intercalate pieces = before ++ last := by
  induction pieces with
  | nil => contradiction
  | cons piece pieces ih =>
    cases pieces with
    | nil =>
      cases hlast
      exact ⟨[], .nil, List.intercalate_singleton⟩
    | cons next pieces =>
      rw [List.getLast?_cons_cons] at hlast
      obtain ⟨before, hbefore, heq⟩ := ih hlast fun p hp => h p (List.mem_cons_of_mem piece hp)
      refine ⟨piece ++ mark :: before, ?_, ?_⟩
      · exact (h piece List.mem_cons_self).append (.char hmark List.not_mem_nil hbefore)
      · rw [List.intercalate_cons_cons, heq]
        simp

end Whole

/-! ## Splitting -/

theorem splitUnescaped_escape (mark c : Char) (rest : List Char) :
    splitUnescaped mark ('\\' :: c :: rest) =
      (splitUnescaped mark rest).map (glue ['\\', c]) := by
  rw [splitUnescaped, if_pos rfl]

theorem splitUnescaped_char {mark c : Char} (hc : c ≠ '\\') (hmark : c ≠ mark)
    (rest : List Char) :
    splitUnescaped mark (c :: rest) = (splitUnescaped mark rest).map (glue [c]) := by
  cases rest with
  | nil => simp [splitUnescaped, hc, hmark, glue]
  | cons d rest => rw [splitUnescaped, if_neg hc, if_neg hmark]

theorem splitUnescaped_mark {mark : Char} (hmark : mark ≠ '\\') (rest : List Char) :
    splitUnescaped mark (mark :: rest) = (splitUnescaped mark rest).map ([] :: ·) := by
  cases rest with
  | nil => simp [splitUnescaped, hmark]
  | cons d rest => rw [splitUnescaped, if_neg hmark, if_pos rfl]

section

variable {marks : List Char} {mark : Char}

/-- A whole text goes into the piece that begins behind it. -/
theorem Whole.split_append {text : List Char} (h : Whole marks text) (hmark : mark ∈ marks)
    {rest piece : List Char} {pieces : List (List Char)}
    (hrest : splitUnescaped mark rest = some (piece :: pieces)) :
    splitUnescaped mark (text ++ rest) = some ((text ++ piece) :: pieces) := by
  -- an escape is passed over as a pair, which is why the induction is on `Whole` and not on the text
  induction h with
  | nil => exact hrest
  | escape c _ ih =>
    rw [List.cons_append, List.cons_append, splitUnescaped_escape, ih]
    rfl
  | @char c _ hc hnot _ ih =>
    have hne : c ≠ mark := fun heq => hnot (heq ▸ hmark)
    rw [List.cons_append, splitUnescaped_char hc hne, ih]
    rfl

theorem Whole.split_self {text : List Char} (h : Whole marks text) (hmark : mark ∈ marks) :
    splitUnescaped mark text = some [text] := by
  have hend := h.split_append hmark (show splitUnescaped mark [] = some [[]] from rfl)
  rwa [List.append_nil] at hend

/-- Splitting undoes joining. -/
theorem split_intercalate (hmark : mark ∈ marks) (hne : mark ≠ '\\')
    {pieces : List (List Char)} (hpieces : pieces ≠ [])
    (h : ∀ piece ∈ pieces, Whole marks piece) :
    splitUnescaped mark ([mark].intercalate pieces) = some pieces := by
  induction pieces with
  | nil => contradiction
  | cons piece pieces ih =>
    have hpiece := h piece List.mem_cons_self
    cases pieces with
    | nil =>
      rw [List.intercalate_singleton]
      exact hpiece.split_self hmark
    | cons next pieces =>
      have hrest := ih (by simp) fun p hp => h p (List.mem_cons_of_mem piece hp)
      -- the mark behind the first piece ends it and is not kept
      have hcut : splitUnescaped mark (mark :: [mark].intercalate (next :: pieces)) =
          some ([] :: next :: pieces) := by
        rw [splitUnescaped_mark hne, hrest]
        rfl
      have hall := hpiece.split_append hmark hcut
      rw [List.append_nil] at hall
      rwa [List.intercalate_cons_cons, List.append_assoc]

/-- A backslash at the very end escapes nothing. -/
theorem Whole.split_open {text : List Char} (h : Whole marks text) (mark : Char) :
    splitUnescaped mark (text ++ ['\\']) = none := by
  induction h with
  | nil => rfl
  | escape c _ ih =>
    rw [List.cons_append, List.cons_append, splitUnescaped_escape, ih]
    rfl
  | @char c _ hc _ _ ih =>
    rw [List.cons_append]
    -- a mark starts a new piece, but the text ends in the middle of an escape all the same
    by_cases hmark : c = mark
    · subst hmark
      rw [splitUnescaped_mark hc, ih]
      rfl
    · rw [splitUnescaped_char hc hmark, ih]
      rfl

end

/-! ## What was cut -/

theorem intercalate_glue (mark : Char) (front : List Char) (pieces : List (List Char)) :
    [mark].intercalate (glue front pieces) = front ++ [mark].intercalate pieces := by
  cases pieces with
  | nil => rw [glue, List.intercalate_singleton, List.intercalate_nil, List.append_nil]
  | cons piece pieces =>
    cases pieces with
    | nil => rw [glue, List.intercalate_singleton, List.intercalate_singleton]
    | cons next pieces =>
      rw [glue, List.intercalate_cons_cons, List.intercalate_cons_cons]
      simp only [List.append_assoc]

/-- The pieces of a text, which are joined by the mark to give the text and in which the mark does
not stand without an escape. -/
structure CutAt (mark : Char) (text : List Char) (pieces : List (List Char)) : Prop where
  ne_nil : pieces ≠ []
  joined : [mark].intercalate pieces = text
  whole : ∀ piece ∈ pieces, Whole [mark] piece

namespace CutAt

variable {mark : Char} {text : List Char} {pieces : List (List Char)}

theorem nil (mark : Char) : CutAt mark [] [[]] where
  ne_nil := List.cons_ne_nil [] []
  joined := List.intercalate_singleton
  whole := List.forall_mem_singleton.mpr .nil

/-- A whole text in front belongs to the first piece. -/
theorem glue (h : CutAt mark text pieces) {front : List Char} (hfront : Whole [mark] front) :
    CutAt mark (front ++ text) (glue front pieces) where
  ne_nil := by cases pieces <;> exact List.cons_ne_nil _ _
  joined := by rw [intercalate_glue, h.joined]
  whole := by
    obtain ⟨piece, rest, rfl⟩ := List.exists_cons_of_ne_nil h.ne_nil
    obtain ⟨hpiece, hrest⟩ := List.forall_mem_cons.mp h.whole
    exact List.forall_mem_cons.mpr ⟨hfront.append hpiece, hrest⟩

/-- A mark in front ends an empty piece. -/
theorem cons (h : CutAt mark text pieces) : CutAt mark (mark :: text) ([] :: pieces) where
  ne_nil := List.cons_ne_nil [] pieces
  joined := by
    obtain ⟨piece, rest, rfl⟩ := List.exists_cons_of_ne_nil h.ne_nil
    rw [List.intercalate_cons_cons, h.joined]
    rfl
  whole := List.forall_mem_cons.mpr ⟨.nil, h.whole⟩

/-- A text without marks is one piece. -/
theorem single {piece : List Char} (h : Whole [mark] piece) : CutAt mark piece [piece] where
  ne_nil := List.cons_ne_nil piece []
  joined := List.intercalate_singleton
  whole := List.forall_mem_singleton.mpr h

/-- One more piece and a mark go in front. -/
theorem cons_piece (h : CutAt mark text pieces) {piece : List Char} (hpiece : Whole [mark] piece) :
    CutAt mark (piece ++ mark :: text) (piece :: pieces) := by
  have hglued := h.cons.glue hpiece
  rwa [LdapClient.Text.glue, List.append_nil] at hglued

/-- The pieces of two texts with a mark between them are those of the first and those of the
second. -/
theorem append (h : CutAt mark text pieces) {other : List Char} {others : List (List Char)}
    (hother : CutAt mark other others) :
    CutAt mark (text ++ mark :: other) (pieces ++ others) := by
  obtain ⟨hne, rfl, hwhole⟩ := h
  induction pieces with
  | nil => contradiction
  | cons piece pieces ih =>
    obtain ⟨hpiece, hpieces⟩ := List.forall_mem_cons.mp hwhole
    cases pieces with
    | nil =>
      rw [List.intercalate_singleton]
      exact hother.cons_piece hpiece
    | cons next pieces =>
      have hrest := (ih (List.cons_ne_nil next pieces) hpieces).cons_piece hpiece
      rw [List.intercalate_cons_cons]
      simpa using hrest

/-- A text ends with its last piece. -/
theorem exists_last (h : CutAt mark text pieces) (hmark : mark ≠ '\\') :
    ∃ last ∈ pieces, ∃ before, Whole [] before ∧ text = before ++ last := by
  have hlast := List.getLast?_eq_some_getLast h.ne_nil
  obtain ⟨before, hbefore, heq⟩ := Whole.intercalate_last hmark hlast
    fun piece hpiece => (h.whole piece hpiece).mono (List.nil_subset _)
  exact ⟨_, List.getLast_mem h.ne_nil, before, hbefore, h.joined.symm.trans heq⟩

end CutAt

/-- A text can be cut if its escapes are finished. -/
theorem Whole.exists_cutAt {text : List Char} (h : Whole [] text) (mark : Char) :
    ∃ pieces, CutAt mark text pieces := by
  induction h with
  | nil => exact ⟨[[]], .nil mark⟩
  | escape c _ ih =>
    obtain ⟨pieces, hpieces⟩ := ih
    exact ⟨_, hpieces.glue (.escape c .nil)⟩
  | @char c _ hc _ _ ih =>
    obtain ⟨pieces, hpieces⟩ := ih
    by_cases hmark : c = mark
    · subst hmark
      exact ⟨_, hpieces.cons⟩
    · exact ⟨_, hpieces.glue (.char hc (by simpa using hmark) .nil)⟩

/-- The pieces that splitting finds are the only ones. -/
theorem splitUnescaped_eq_some {mark : Char} (hmark : mark ≠ '\\') {text : List Char}
    {pieces : List (List Char)} :
    splitUnescaped mark text = some pieces ↔ CutAt mark text pieces := by
  constructor
  · intro h
    fun_induction splitUnescaped mark text generalizing pieces with
    | case1 =>
      cases h
      exact .nil mark
    | case2 => cases h
    | case3 =>
      cases h
      exact (CutAt.nil mark).cons
    | case4 c hc hne =>
      cases h
      exact (CutAt.nil mark).glue (.char hc (by simpa using hne) .nil)
    | case5 c rest ih =>
      obtain ⟨pieces, hpieces, rfl⟩ := Option.map_eq_some_iff.mp h
      exact (ih hpieces).glue (.escape c .nil)
    | case6 d rest _ ih =>
      obtain ⟨pieces, hpieces, rfl⟩ := Option.map_eq_some_iff.mp h
      exact (ih hpieces).cons
    | case7 c d rest hc hne ih =>
      obtain ⟨pieces, hpieces, rfl⟩ := Option.map_eq_some_iff.mp h
      exact (ih hpieces).glue (.char hc (by simpa using hne) .nil)
  · rintro ⟨hne, rfl, hwhole⟩
    exact split_intercalate (List.mem_singleton_self mark) hmark hne hwhole

theorem CutAt.unique {mark : Char} (hmark : mark ≠ '\\') {text : List Char}
    {pieces others : List (List Char)} (h : CutAt mark text pieces)
    (hothers : CutAt mark text others) : pieces = others := by
  have hsplit := (splitUnescaped_eq_some hmark).mpr h
  rw [(splitUnescaped_eq_some hmark).mpr hothers] at hsplit
  exact (Option.some.inj hsplit).symm

end LdapClient.Dn
