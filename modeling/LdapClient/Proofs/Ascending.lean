/-
# LdapClient.Proofs.Ascending -- lists in ascending order of names

A list is ascending if each of its names stands before all names behind it.  Then each name stands
once, and a search through the list finds, of all that pass its test, the one with the least name
(`find?_eq_some_iff_least`).  Searches by name say all there is to say of such a list: ascending
lists in which the same is found are the same (`ext_find?`).
-/
import LdapClient.Proofs.Text.Order
import Mathlib.Data.List.Nodup

namespace LdapClient

open Text

variable {α β : Type} (name : α → String)

/-- Each name stands once, and its octets before those of the names behind it. -/
def Ascending (items : List α) : Prop :=
  items.Pairwise fun a b => octetsBefore (octets (name a)) (octets (name b)) = true

variable {name} {items : List α}

theorem ascending_iff :
    Ascending name items ↔ items.Pairwise fun a b => before (name a) (name b) = true := by
  simp only [Ascending, octetsBefore_octets]

theorem isSome_find?_iff {key : String} :
    (items.find? fun a => name a = key).isSome = true ↔ key ∈ items.map name := by
  simp [List.find?_isSome]

/-- What keeps its name is found as before. -/
theorem find?_map_name {f : α → β} {name' : β → String} (hf : ∀ a, name' (f a) = name a)
    (items : List α) (key : String) :
    (items.map f).find? (fun b => name' b = key) =
      (items.find? fun a => name a = key).map f := by
  have htest : ((fun b => decide (name' b = key)) ∘ f) = fun a => decide (name a = key) := by
    funext a
    rw [Function.comp_apply, hf]
  rw [List.find?_map, htest]

namespace Ascending

theorem nodup_names (h : Ascending name items) : (items.map name).Nodup := by
  rw [List.nodup_iff_pairwise_ne, List.pairwise_map]
  exact (ascending_iff.mp h).imp ne_of_before

/-- Of all that pass a test, the one with the least name is found. -/
theorem find?_eq_some_iff_least (h : Ascending name items) {test : α → Bool} {a : α} :
    items.find? test = some a ↔ a ∈ items ∧ test a = true ∧
      ∀ b ∈ items, test b = true → b = a ∨ before (name a) (name b) = true := by
  rw [ascending_iff] at h
  have hleast {a : α} (hfind : items.find? test = some a) :
      ∀ b ∈ items, test b = true → b = a ∨ before (name a) (name b) = true := by
    obtain ⟨-, front, back, rfl, hfront⟩ := List.find?_eq_some_iff_append.mp hfind
    intro b hb htest
    -- nothing in front passes, and what stands behind is greater
    rcases List.mem_append.mp hb with hb | hb
    · have hnot := hfront b hb
      rw [htest] at hnot
      contradiction
    · rcases List.mem_cons.mp hb with rfl | hb
      · exact .inl rfl
      · have hback := (List.pairwise_append.mp h).2.1
        exact .inr ((List.pairwise_cons.mp hback).1 b hb)
  constructor
  · intro hfind
    exact ⟨List.mem_of_find?_eq_some hfind, List.find?_some hfind, hleast hfind⟩
  · rintro ⟨hmem, htest, hother⟩
    have hsome : (items.find? test).isSome = true := List.find?_isSome.mpr ⟨a, hmem, htest⟩
    obtain ⟨b, hfind⟩ := Option.isSome_iff_exists.mp hsome
    rcases hleast hfind a hmem htest with rfl | hba
    · exact hfind
    · rcases hother b (List.mem_of_find?_eq_some hfind) (List.find?_some hfind) with rfl | hab
      · exact hfind
      · rw [before_asymm hab] at hba
        contradiction

theorem find?_eq_some_iff (h : Ascending name items) {key : String} {a : α} :
    items.find? (fun b => name b = key) = some a ↔ a ∈ items ∧ name a = key := by
  rw [h.find?_eq_some_iff_least, decide_eq_true_iff]
  refine and_congr_right fun hmem => and_iff_left_of_imp ?_
  -- a name stands once, so nothing is left to be compared
  rintro rfl b hb hname
  exact .inl (List.inj_on_of_nodup_map h.nodup_names hb hmem (of_decide_eq_true hname))

/-- Ascending lists in which the same is found are the same. -/
theorem ext_find? (h : Ascending name items) {others : List α} (hothers : Ascending name others)
    (hfind : ∀ key, items.find? (fun a => name a = key) = others.find? fun a => name a = key) :
    items = others := by
  have hmem (a : α) : a ∈ items ↔ a ∈ others := by
    have hitems : a ∈ items ↔ items.find? (fun b => name b = name a) = some a := by
      rw [h.find?_eq_some_iff]
      simp
    have hothers' : a ∈ others ↔ others.find? (fun b => name b = name a) = some a := by
      rw [hothers.find?_eq_some_iff]
      simp
    rw [hitems, hothers', hfind]
  have hnodup := h.nodup_names.of_map
  have hnodup' := hothers.nodup_names.of_map
  rw [ascending_iff] at h hothers
  refine ((List.perm_ext_iff_of_nodup hnodup hnodup').mpr hmem).eq_of_pairwise ?_ h hothers
  intro a b _ _ hab hba
  rw [before_asymm hab] at hba
  contradiction

theorem map (h : Ascending name items) {f : α → β} {name' : β → String}
    (hf : ∀ a, name' (f a) = name a) : Ascending name' (items.map f) := by
  rw [Ascending, List.pairwise_map]
  simp only [hf]
  exact h

end Ascending

end LdapClient
