/-
# LdapClient.Text.Cut -- cutting a text at a character

`cutOnce` cuts at the first place where a character stands; `cutAll` cuts at every place.  Neither
part keeps the character that was cut at.
-/
namespace LdapClient.Text

/-- The text before and after the first `mark`, if there is one. -/
def cutOnce (mark : Char) : List Char → Option (List Char × List Char)
  | [] => none
  | c :: rest =>
    if c = mark then some ([], rest)
    else (cutOnce mark rest).map fun parts => (c :: parts.1, parts.2)

theorem cutOnce_append {mark : Char} {front : List Char} (h : mark ∉ front) (back : List Char) :
    cutOnce mark (front ++ mark :: back) = some (front, back) := by
  induction front with
  | nil => simp [cutOnce]
  | cons c front ih =>
    have hc : c ≠ mark := fun heq => h (heq ▸ List.mem_cons_self)
    have hcut := ih fun hmem => h (List.mem_cons_of_mem c hmem)
    rw [List.cons_append, cutOnce, if_neg hc, hcut]
    rfl

theorem cutOnce_eq_none {mark : Char} {text : List Char} (h : mark ∉ text) :
    cutOnce mark text = none := by
  induction text with
  | nil => rfl
  | cons c rest ih =>
    have hc : c ≠ mark := fun heq => h (heq ▸ List.mem_cons_self)
    rw [cutOnce, if_neg hc, ih fun hmem => h (List.mem_cons_of_mem c hmem)]
    rfl

/-- The first place is the one that is not behind another. -/
theorem cutOnce_eq_some {mark : Char} {text front back : List Char} :
    cutOnce mark text = some (front, back) ↔ text = front ++ mark :: back ∧ mark ∉ front := by
  refine ⟨fun h => ?_, fun ⟨htext, hfront⟩ => htext ▸ cutOnce_append hfront back⟩
  induction text generalizing front with
  | nil => cases h
  | cons c rest ih =>
    rw [cutOnce] at h
    split at h
    · next hc =>
      cases h
      exact ⟨congrArg (· :: back) hc, List.not_mem_nil⟩
    · next hc =>
      obtain ⟨⟨front, back⟩, hcut, heq⟩ := Option.map_eq_some_iff.mp h
      cases heq
      obtain ⟨rfl, hfront⟩ := ih hcut
      exact ⟨rfl, fun hmem => (List.mem_cons.mp hmem).elim (fun heq => hc heq.symm) hfront⟩

/-- Puts characters in front of the first piece. -/
def glue (front : List Char) : List (List Char) → List (List Char)
  | [] => [front]
  | piece :: pieces => (front ++ piece) :: pieces

/-- The pieces between the occurrences of `mark`; there is always at least one. -/
def cutAll (mark : Char) : List Char → List (List Char)
  | [] => [[]]
  | c :: rest => if c = mark then [] :: cutAll mark rest else glue [c] (cutAll mark rest)

/-- Strings with a separator between neighbours. -/
def join (separator : String) : List String → String
  | [] => ""
  | [one] => one
  | one :: more => one ++ separator ++ join separator more

end LdapClient.Text
