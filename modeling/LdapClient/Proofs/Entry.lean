/-
# LdapClient.Proofs.Entry -- entries and the text in them

A session answers an entry in two parts, and `Entry.ofRaw` puts them together.  `Entry.texts` is all
that can be read of an entry as text, and `find?_texts_ofRaw` says where it comes from: from the text
attributes as they are, and from the others by decoding.

Whoever looks at the text part alone reads the same only if the other part adds nothing.
`texts_ofRaw_eq_iff` and `values_ofRaw_eq_iff` give the exact conditions, for the whole entry and for
one attribute.
-/
import LdapClient.Proofs.NameMap
import LdapClient.Proofs.Text.Octets
import LdapClient.Entry

namespace LdapClient

open Text

theorem Text.lossy_octets (text : String) : lossy (octets text) = text := by
  rw [lossy, octets, decode_encode, String.ofList_toList]

theorem Text.map_lossy_octets (texts : List String) : (texts.map octets).map lossy = texts := by
  rw [List.map_map]
  exact (List.map_congr_left fun text _ => lossy_octets text).trans (List.map_id _)

namespace Entry

/-! ## What is read as text -/

/-- The values of all attributes as text. -/
def texts (entry : Entry) : NameMap (List String) :=
  entry.named.mapValues (List.map lossy)

theorem toList_texts (entry : Entry) :
    entry.texts.toList = entry.attributes.map fun a => (a.name, a.values) := by
  simp only [texts, NameMap.mapValues, attributes, List.map_map]
  rfl

theorem values_folded (entry : Entry) (name : String) :
    entry.values .folded name = (entry.texts.findFolded? name).getD [] := by
  rw [values, octets, texts, NameMap.findFolded?_mapValues]
  cases entry.named.findFolded? name <;> rfl

/-- A text attribute reads as it was answered, with the decoded values of the same name behind. -/
theorem find?_texts_ofRaw (raw : RawEntry) (name : String) :
    (ofRaw raw).texts.find? name =
      match raw.binary.find? name with
      | none => raw.text.find? name
      | some octets => some ((raw.text.find? name).getD [] ++ octets.map lossy) := by
  rw [texts, NameMap.find?_mapValues, ofRaw, NameMap.find?_extend, NameMap.find?_mapValues]
  cases raw.binary.find? name <;> cases raw.text.find? name <;>
    simp [map_lossy_octets, -List.map_map]

theorem mem_names_texts_ofRaw {raw : RawEntry} {name : String} :
    name ∈ (ofRaw raw).texts.names ↔ name ∈ raw.text.names ++ raw.binary.names := by
  rw [List.mem_append, NameMap.mem_names_iff, NameMap.mem_names_iff, NameMap.mem_names_iff,
    find?_texts_ofRaw]
  cases raw.binary.find? name <;> simp

end Entry

/-! ## The text part alone -/

namespace RawEntry

/-- There is nothing in the attributes that are not text. -/
def IsText (raw : RawEntry) : Prop :=
  ∀ name octets, raw.binary.find? name = some octets → octets = [] ∧ name ∈ raw.text.names

/-- If the first attribute that agrees with a name up to case is one that is not text, then there is
nothing in it; or it is only that, and reads like the first that agrees among those that are text. -/
def IsTextAt (raw : RawEntry) (name : String) : Prop :=
  ∀ least octets, NameMap.IsLeastFolded (raw.text.names ++ raw.binary.names) name least →
    raw.binary.find? least = some octets →
    if least ∈ raw.text.names then octets = []
    else octets.map lossy = (raw.text.findFolded? name).getD []

end RawEntry

namespace Entry

variable {raw : RawEntry} {name : String}

theorem texts_ofRaw_eq_iff : raw.text = (ofRaw raw).texts ↔ raw.IsText := by
  constructor
  · intro h name octets hbinary
    have hfind := find?_texts_ofRaw raw name
    rw [← h, hbinary] at hfind
    cases htext : raw.text.find? name with
    | none =>
      rw [htext] at hfind
      cases hfind
    | some values =>
      rw [htext] at hfind
      have hempty : octets.map lossy = [] := List.self_eq_append_right.mp (Option.some.inj hfind)
      exact ⟨List.map_eq_nil_iff.mp hempty, NameMap.mem_names_iff.mpr ⟨values, htext⟩⟩
  · intro h
    refine NameMap.ext_find? fun name => ?_
    rw [find?_texts_ofRaw]
    cases hbinary : raw.binary.find? name with
    | none => rfl
    | some octets =>
      obtain ⟨rfl, hmem⟩ := h name octets hbinary
      obtain ⟨values, htext⟩ := NameMap.mem_names_iff.mp hmem
      simp [htext]

theorem isTextAt_iff {least : String}
    (h : NameMap.IsLeastFolded (raw.text.names ++ raw.binary.names) name least) :
    raw.IsTextAt name ↔ ∀ octets, raw.binary.find? least = some octets →
      if least ∈ raw.text.names then octets = []
      else octets.map lossy = (raw.text.findFolded? name).getD [] := by
  constructor
  · exact fun hat octets => hat least octets h
  · rintro hat other octets hother hbinary
    obtain rfl := h.unique hother
    exact hat octets hbinary

/-- The least of all names decides, if any agrees at all. -/
theorem values_ofRaw_eq_iff :
    (raw.text.findFolded? name).getD [] = (ofRaw raw).values .folded name ↔ raw.IsTextAt name := by
  have hnames : (ofRaw raw).texts.names ⊆ raw.text.names ++ raw.binary.names :=
    fun _ => mem_names_texts_ofRaw.mp
  have hnames' : raw.text.names ++ raw.binary.names ⊆ (ofRaw raw).texts.names :=
    fun _ => mem_names_texts_ofRaw.mpr
  have htextnames : raw.text.names ⊆ (ofRaw raw).texts.names :=
    fun _ hmem => hnames' (List.mem_append_left _ hmem)
  rw [values_folded]
  cases hfound : (ofRaw raw).texts.findFolded? name with
  | none =>
    -- no name agrees, in either part
    have hnot := NameMap.findFolded?_eq_none_iff.mp hfound
    have htext : raw.text.findFolded? name = none :=
      NameMap.findFolded?_eq_none_iff.mpr fun other hother => hnot other (htextnames hother)
    rw [htext]
    refine iff_of_true rfl fun least octets hleast => ?_
    have hdiffers := hnot least (hnames' hleast.mem)
    rw [hleast.same] at hdiffers
    contradiction
  | some values =>
    obtain ⟨least, hleast, hfind⟩ := NameMap.isLeastFolded_of_findFolded? hfound
    -- the least name of the entry is the least of the text part too, if that has it
    have hall := hleast.anti hnames' (hnames hleast.mem)
    have htext {own : List String} (hown : raw.text.find? least = some own) :
        raw.text.findFolded? name = some own :=
      NameMap.findFolded?_eq_some_iff.mpr
        ⟨least, hleast.anti htextnames (NameMap.mem_names_iff.mpr ⟨own, hown⟩), hown⟩
    rw [isTextAt_iff hall]
    rw [find?_texts_ofRaw] at hfind
    cases hbinary : raw.binary.find? least with
    | none =>
      rw [hbinary] at hfind
      rw [htext hfind]
      exact iff_of_true rfl nofun
    | some octets =>
      rw [hbinary] at hfind
      obtain rfl := Option.some.inj hfind
      cases hown : raw.text.find? least with
      | none =>
        have hnot : least ∉ raw.text.names := NameMap.find?_eq_none_iff.mp hown
        simp [hnot, eq_comm]
      | some own =>
        have hmem : least ∈ raw.text.names := NameMap.mem_names_iff.mpr ⟨own, hown⟩
        simp [hmem, htext hown]

end Entry

end LdapClient
