/-
# LdapClient.Proofs.Text.Trim -- what trimming leaves of a text

`Tight` says of a text that neither of its ends is blank.  These are the texts that `trim` leaves
as they are, and every trimmed text is one.  Where a text is put together from parts, its ends are
those of the first and the last part, so tightness is passed on by `Tight.enclose`.  A text is its
trimmed form between blanks (`exists_trim`), and there is no other such form
(`Tight.trim_enclosed`).  `Padded` relates any text to the same text between blanks, of which the
same is left (`Padded.trim_eq`).
-/
import LdapClient.Text.Blank
import Mathlib.Data.List.Basic
import Mathlib.Data.List.TakeWhile

namespace LdapClient.Text

/-- Neither end of the text is blank. -/
structure Tight (text : List Char) : Prop where
  front : ∀ c ∈ text.head?, isBlank c = false
  back : ∀ c ∈ text.getLast?, isBlank c = false

/-! ## One end -/

theorem trimStart_eq_self {text : List Char} (h : ∀ c ∈ text.head?, isBlank c = false) :
    trimStart text = text := by
  cases text with
  | nil => rfl
  | cons c rest => simp [trimStart, h c rfl]

theorem trimEnd_eq_self {text : List Char} (h : ∀ c ∈ text.getLast?, isBlank c = false) :
    trimEnd text = text := by
  have hstart : trimStart text.reverse = text.reverse :=
    trimStart_eq_self (by rwa [List.head?_reverse])
  show (trimStart text.reverse).reverse = text
  rw [hstart, List.reverse_reverse]

/-- Blanks behind a text that does not end with one are all that is dropped. -/
theorem trimEnd_append_blanks {text blanks : List Char}
    (htext : ∀ c ∈ text.getLast?, isBlank c = false) (h : ∀ c ∈ blanks, isBlank c = true) :
    trimEnd (text ++ blanks) = text := by
  have hend : trimEnd (text ++ blanks) = trimEnd text := by
    rw [trimEnd, List.reverse_append,
      List.dropWhile_append_of_pos fun c hc => h c (List.mem_reverse.mp hc)]
    rfl
  rw [hend, trimEnd_eq_self htext]

/-- What is not blank stays in front, whatever is dropped behind it. -/
theorem trimEnd_cons {c : Char} (h : isBlank c = false) (rest : List Char) :
    trimEnd (c :: rest) = c :: trimEnd rest := by
  unfold trimEnd
  -- read backwards, `c` comes last and stops the dropping even where nothing else does
  rw [List.reverse_cons, List.dropWhile_append]
  split
  · rename_i hnil
    rw [List.isEmpty_iff.mp hnil]
    simp [h]
  · simp

theorem trimStart_front (text : List Char) : ∀ c ∈ (trimStart text).head?, isBlank c = false := by
  intro c hc
  have hfront := List.head?_dropWhile_not isBlank text
  rw [show (List.dropWhile isBlank text).head? = some c from hc] at hfront
  exact hfront

theorem trimEnd_back (text : List Char) : ∀ c ∈ (trimEnd text).getLast?, isBlank c = false := by
  intro c hc
  apply trimStart_front text.reverse c
  rwa [trimEnd, List.getLast?_reverse] at hc

/-! ## Both ends -/

theorem Tight.trim_eq {text : List Char} (h : Tight text) : trim text = text := by
  rw [trim, trimStart_eq_self h.front, trimEnd_eq_self h.back]

theorem trim_tight (text : List Char) : Tight (trim text) where
  front := by
    have hfront := trimStart_front text
    rw [trim]
    cases h : trimStart text with
    | nil => simp [trimEnd]
    | cons c rest =>
      have hc : isBlank c = false := hfront c (by rw [h]; rfl)
      rw [trimEnd_cons hc]
      rintro _ ⟨rfl⟩
      exact hc
  back := trimEnd_back _

/-- The tight texts are those without blanks to drop. -/
theorem tight_iff_trim_eq {text : List Char} : Tight text ↔ trim text = text :=
  ⟨Tight.trim_eq, fun h => h ▸ trim_tight text⟩

theorem Tight.enclose {first last : List Char} (hfirst : Tight first) (hlast : Tight last)
    (hf : first ≠ []) (hl : last ≠ []) (middle : List Char) :
    Tight (first ++ middle ++ last) where
  front := by
    rw [List.append_assoc, List.head?_append_of_ne_nil _ hf]
    exact hfirst.front
  back := by
    rw [List.getLast?_append_of_ne_nil _ hl]
    exact hlast.back

theorem exists_trimEnd (text : List Char) :
    ∃ back, text = trimEnd text ++ back ∧ ∀ c ∈ back, isBlank c = true := by
  refine ⟨(text.reverse.takeWhile isBlank).reverse, ?_, fun c hc => ?_⟩
  · rw [trimEnd, ← List.reverse_append, List.takeWhile_append_dropWhile, List.reverse_reverse]
  · exact List.mem_takeWhile_imp (List.mem_reverse.mp hc)

/-- What is dropped stands at the ends and is blank. -/
theorem exists_trim (text : List Char) :
    ∃ front back, text = front ++ trim text ++ back ∧ (∀ c ∈ front, isBlank c = true) ∧
      ∀ c ∈ back, isBlank c = true := by
  obtain ⟨back, hback, hblank⟩ := exists_trimEnd (trimStart text)
  refine ⟨text.takeWhile isBlank, back, ?_, fun c hc => List.mem_takeWhile_imp hc, hblank⟩
  rw [List.append_assoc, trim, ← hback]
  exact List.takeWhile_append_dropWhile.symm

theorem trim_subset (text : List Char) : trim text ⊆ text := by
  obtain ⟨front, back, htext, -, -⟩ := exists_trim text
  intro c hc
  rw [htext]
  exact List.mem_append_left back (List.mem_append_right front hc)

/-- Blanks around a text without blanks at its ends are all that is dropped. -/
theorem Tight.trim_enclosed {text : List Char} (h : Tight text) (hne : text ≠ [])
    {front back : List Char} (hfront : ∀ c ∈ front, isBlank c = true)
    (hback : ∀ c ∈ back, isBlank c = true) : trim (front ++ text ++ back) = text := by
  have hstart : trimStart (front ++ text ++ back) = text ++ back := by
    rw [trimStart, List.append_assoc, List.dropWhile_append_of_pos hfront]
    exact trimStart_eq_self (by rw [List.head?_append_of_ne_nil _ hne]; exact h.front)
  rw [trim, hstart, trimEnd_append_blanks h.back hback]

/-- One blank after a text without blanks to drop is all that is dropped. -/
theorem Tight.trim_concat_blank {text : List Char} (h : Tight text) (hne : text ≠ []) {c : Char}
    (hc : isBlank c = true) : trim (text ++ [c]) = text :=
  h.trim_enclosed hne (List.forall_mem_nil _) (List.forall_mem_singleton.mpr hc)

/-- Something is left of a text that is not all blank. -/
theorem trim_ne_nil {text : List Char} (h : ∃ c ∈ text, isBlank c = false) : trim text ≠ [] := by
  intro hnil
  obtain ⟨c, hmem, hc⟩ := h
  have hstart : trimStart text = [] := by
    cases hs : trimStart text with
    | nil => rfl
    | cons d rest =>
      have hd : isBlank d = false := trimStart_front text d (by rw [hs]; rfl)
      rw [trim, hs, trimEnd_cons hd] at hnil
      contradiction
  have hall := List.dropWhile_eq_nil_iff.mp hstart c hmem
  rw [hc] at hall
  contradiction

/-! ## Blanks around a text -/

theorem trim_eq_nil {text : List Char} (h : ∀ c ∈ text, isBlank c = true) : trim text = [] := by
  have hstart : trimStart text = [] := List.dropWhile_eq_nil_iff.mpr h
  rw [trim, hstart]
  rfl

theorem trim_ne_nil_iff {text : List Char} : trim text ≠ [] ↔ ∃ c ∈ text, isBlank c = false := by
  refine ⟨fun h => ?_, trim_ne_nil⟩
  by_contra hnone
  refine h (trim_eq_nil fun c hc => ?_)
  by_contra hblank
  exact hnone ⟨c, hc, Bool.eq_false_iff.mpr hblank⟩

theorem not_mem_of_blank {mark : Char} (hmark : isBlank mark = false) {blanks : List Char}
    (h : ∀ c ∈ blanks, isBlank c = true) : mark ∉ blanks := by
  intro hmem
  rw [h mark hmem] at hmark
  contradiction

/-- The second text is the first one between blanks. -/
def Padded (text padded : List Char) : Prop :=
  ∃ front back, padded = front ++ text ++ back ∧ (∀ c ∈ front, isBlank c = true) ∧
    ∀ c ∈ back, isBlank c = true

namespace Padded

variable {text padded blanks : List Char}

theorem refl (text : List Char) : Padded text text :=
  ⟨[], [], by simp, List.forall_mem_nil _, List.forall_mem_nil _⟩

theorem before (text : List Char) (h : ∀ c ∈ blanks, isBlank c = true) :
    Padded text (blanks ++ text) :=
  ⟨blanks, [], by simp, h, List.forall_mem_nil _⟩

theorem behind (text : List Char) (h : ∀ c ∈ blanks, isBlank c = true) :
    Padded text (text ++ blanks) :=
  ⟨[], blanks, by simp, List.forall_mem_nil _, h⟩

theorem trans {more : List Char} (h : Padded text padded) (hmore : Padded padded more) :
    Padded text more := by
  obtain ⟨front, back, rfl, hfront, hback⟩ := h
  obtain ⟨front', back', rfl, hfront', hback'⟩ := hmore
  exact ⟨front' ++ front, back ++ back', by simp, List.forall_mem_append.mpr ⟨hfront', hfront⟩,
    List.forall_mem_append.mpr ⟨hback, hback'⟩⟩

/-- Blanks around a text make no difference to what is left of it. -/
theorem trim_eq (h : Padded text padded) : trim padded = trim text := by
  obtain ⟨front, back, rfl, hfront, hback⟩ := h
  obtain ⟨front', back', htext, hfront', hback'⟩ := exists_trim text
  have hbefore := List.forall_mem_append.mpr ⟨hfront, hfront'⟩
  have hbehind := List.forall_mem_append.mpr ⟨hback', hback⟩
  have hall : front ++ text ++ back = (front ++ front') ++ trim text ++ (back' ++ back) := by
    conv_lhs => rw [htext]
    simp only [List.append_assoc]
  rw [hall]
  by_cases hnil : trim text = []
  · rw [hnil, List.append_nil]
    exact trim_eq_nil (List.forall_mem_append.mpr ⟨hbefore, hbehind⟩)
  · exact (trim_tight text).trim_enclosed hnil hbefore hbehind

end Padded

theorem padded_trim (text : List Char) : Padded (trim text) text :=
  exists_trim text

/-! ## What trimming does not touch -/

theorem count_trimStart {m : Char} (hm : isBlank m = false) (text : List Char) :
    (trimStart text).count m = text.count m := by
  induction text with
  | nil => rfl
  | cons c rest ih =>
    cases hc : isBlank c with
    | false => rw [trimStart_eq_self (by rintro _ ⟨rfl⟩; exact hc)]
    | true =>
      have hne : c ≠ m := by
        rintro rfl
        rw [hm] at hc
        contradiction
      rw [trimStart, List.dropWhile_cons_of_pos hc, List.count_cons_of_ne hne]
      exact ih

/-- Only blanks are dropped. -/
theorem count_trim {m : Char} (hm : isBlank m = false) (text : List Char) :
    (trim text).count m = text.count m := by
  show ((trimStart (trimStart text).reverse).reverse).count m = text.count m
  rw [List.count_reverse, count_trimStart hm, List.count_reverse, count_trimStart hm]

end LdapClient.Text
