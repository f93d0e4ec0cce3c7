/-
# LdapClient.Proofs.Text.Cut -- cutting at a mark and joining with one

`cutAll` cuts as `List.splitOn` does, and `join` puts a separator between strings as
`List.intercalate` puts it between their characters.  So what was joined with a mark that stands in
none of the parts is cut into the same parts again.  The lines of a text are the case of line
breaks (`lines_join`).
-/
import LdapClient.Text.Cut

namespace LdapClient.Text

/-! ## Cutting -/

theorem cutAll_eq_splitOn (mark : Char) (text : List Char) :
    cutAll mark text = text.splitOn mark := by
  induction text with
  | nil => rw [cutAll, List.splitOn_nil]
  | cons c rest ih =>
    rw [cutAll, List.splitOn_cons_eq_if_modifyHead, ih]
    by_cases hc : c = mark
    · rw [if_pos hc, if_pos (beq_iff_eq.mpr hc)]
    · rw [if_neg hc, if_neg (mt beq_iff_eq.mp hc)]
      cases h : rest.splitOn mark with
      | nil => exact absurd h (List.splitOn_ne_nil mark rest)
      | cons piece pieces => rfl

theorem cutAll_ne_nil (mark : Char) (text : List Char) : cutAll mark text ≠ [] := by
  rw [cutAll_eq_splitOn]
  exact List.splitOn_ne_nil mark text

/-- Cutting brings no characters in. -/
theorem subset_of_mem_cutAll {mark : Char} {text piece : List Char}
    (h : piece ∈ cutAll mark text) : piece ⊆ text := by
  induction text generalizing piece with
  | nil =>
    obtain rfl := List.mem_singleton.mp h
    exact List.Subset.refl []
  | cons c rest ih =>
    obtain ⟨next, pieces, hcut⟩ := List.exists_cons_of_ne_nil (cutAll_ne_nil mark rest)
    rw [hcut] at ih
    rw [cutAll, hcut] at h
    split at h
    · rcases List.mem_cons.mp h with rfl | h
      · exact List.nil_subset _
      · exact List.subset_cons_of_subset c (ih h)
    · rcases List.mem_cons.mp h with rfl | h
      · exact List.cons_subset_cons c (ih List.mem_cons_self)
      · exact List.subset_cons_of_subset c (ih (List.mem_cons_of_mem next h))

/-! ## Joining -/

theorem toList_join (separator : String) (texts : List String) :
    (join separator texts).toList = separator.toList.intercalate (texts.map String.toList) := by
  induction texts with
  | nil => rfl
  | cons text texts ih =>
    cases texts with
    | nil => rw [List.map_singleton, List.intercalate_singleton, join]
    | cons next texts =>
      rw [List.map_cons] at ih
      rw [join, String.toList_append, String.toList_append, ih, List.map_cons, List.map_cons,
        List.intercalate_cons_cons]
      exact List.cons_ne_nil next texts

/-! ## Lines -/

/-- The lines of a text. -/
def lines (text : String) : List String :=
  (text.toList.splitOn '\n').map String.ofList

/-- Lines that were joined can be told apart again. -/
theorem lines_join {texts : List String} (hne : texts ≠ [])
    (h : ∀ text ∈ texts, '\n' ∉ text.toList) : lines (join "\n" texts) = texts := by
  have hsplit : (['\n'].intercalate (texts.map String.toList)).splitOn '\n' =
      texts.map String.toList := by
    apply List.splitOn_intercalate '\n' (List.forall_mem_map.mpr h)
    exact mt List.map_eq_nil_iff.mp hne
  rw [lines, toList_join, show "\n".toList = ['\n'] from rfl, hsplit, List.map_map]
  exact List.map_id'' (fun text => String.ofList_toList) texts

end LdapClient.Text
