/-
# LdapClient.Proofs.Dn.Writing -- reading names that are written with escapes

A `Naming` is a type with a value as they are meant; `Naming.text`, `rdnText` and `nameText` write
them down with the escapes that a name needs.  Such a text is whole at every level, so it is cut where it
was joined and nowhere else.

What can go wrong is the end.  A value that ends in a space is written with a backslash before that
space, and the space is dropped with the blanks around a relative name, which leaves a backslash
that escapes nothing.  So a relative name is read exactly as written or not at all, and which of the
two is decided by the last character of its last value (`endsInSpace`).  The main statement is
`written_name_read`.
-/
import LdapClient.Connection.Operation
import LdapClient.Proofs.Dn.Reading

namespace LdapClient.Dn

open Text

/-! ## Writing -/

/-- A character that is written behind a backslash: one that means something in a name, a leading
space or number sign, and a trailing space. -/
def mustEscape (isFirst isLast : Bool) (c : Char) : Bool :=
  [',', '+', '"', '\\', '<', '>', ';'].contains c || (isFirst && (c = ' ' || c = '#')) ||
    (isLast && c = ' ')

/-- One character of a value. -/
def writeChar (isFirst isLast : Bool) (c : Char) : List Char :=
  if mustEscape isFirst isLast c then ['\\', c] else [c]

/-- The characters of a value up to its end. -/
def writeFrom (isFirst : Bool) : List Char → List Char
  | [] => []
  | c :: rest => writeChar isFirst rest.isEmpty c ++ writeFrom false rest

/-- A type and a value that an entry is named by: something can be seen of the value, and all its
white space is ordinary space. -/
structure Naming where
  type : List Char
  value : List Char
  isPlain : IsPlainType type
  visible : ∃ c ∈ value, isBlank c = false
  spaces : ∀ c ∈ value, isBlank c = true → c = ' '

/-- A naming as it is written. -/
def Naming.text (naming : Naming) : List Char :=
  naming.type ++ '=' :: writeFrom true naming.value

/-- A relative name as it is written. -/
def rdnText (rdn : List Naming) : List Char :=
  ['+'].intercalate (rdn.map Naming.text)

/-- A name as it is written. -/
def nameText (name : List (List Naming)) : List Char :=
  [','].intercalate (name.map rdnText)

/-- The last value of a relative name ends in a space. -/
def endsInSpace (rdn : List Naming) : Bool :=
  decide ((rdn.getLast?.bind fun naming => naming.value.getLast?) = some ' ')

/-! ## Texts that are cut short -/

/-- The text ends in an escaped space, and so in a backslash when it is trimmed. -/
def CutShort (text : List Char) : Prop :=
  ∃ body, text = body ++ ['\\', ' '] ∧ Whole [] body ∧ trim text = body ++ ['\\']

theorem Begins.cutShort {body : List Char} (h : Begins (body ++ ['\\', ' ']))
    (hbody : Whole [] body) : CutShort (body ++ ['\\', ' ']) := by
  refine ⟨body, rfl, hbody, ?_⟩
  have htight : Tight (body ++ ['\\']) := by
    refine Begins.tight ?_ (by simp [isBlank])
    obtain ⟨c, rest, heq, hc⟩ := h
    cases body with
    | nil => exact ⟨'\\', [], rfl, by decide⟩
    | cons d body => exact ⟨d, body ++ ['\\'], rfl, (List.cons.inj heq).1 ▸ hc⟩
  have htrim := htight.trim_concat_blank (by simp) (c := ' ') (by decide)
  rwa [List.append_assoc] at htrim

/-- The unfinished escape is found when the text is read as a relative name. -/
theorem CutShort.rdn_parse {text : List Char} (h : CutShort text) :
    Rdn.parse (trim text) = .error .unterminatedEscape := by
  obtain ⟨body, -, hbody, htrim⟩ := h
  rw [htrim, Rdn.parse_open hbody]

/-- It is also found when the text is read as a name. -/
theorem CutShort.parseChars {text : List Char} (h : CutShort text) :
    parseChars text = .error .unterminatedEscape := by
  obtain ⟨body, -, hbody, htrim⟩ := h
  rw [Dn.parseChars, htrim, if_neg (by simp), Rdn.pieces, hbody.split_open]

/-- A joined text is cut short if its last piece is. -/
theorem Pieces.cutShort_joined {mark : Char} {pieces : List (List Char)} {last : List Char}
    (h : Pieces pieces last) (hmark : mark ≠ '\\') (hcut : CutShort last) :
    CutShort ([mark].intercalate pieces) := by
  have hbegins : Begins ([mark].intercalate pieces) := h.begins_joined
  obtain ⟨before, hbefore, heq⟩ := h.joined_eq hmark
  obtain ⟨body, rfl, hbody, -⟩ := hcut
  rw [heq, ← List.append_assoc] at hbegins ⊢
  exact hbegins.cutShort (hbefore.append hbody)

/-! ## Written values -/

theorem writeChar_whole (isFirst isLast : Bool) (c : Char) :
    Whole [',', '+'] (writeChar isFirst isLast c) := by
  unfold writeChar
  by_cases h : mustEscape isFirst isLast c = true
  · rw [if_pos h]
    exact .escape c .nil
  · have hplain : c ∉ [',', '+', '"', '\\', '<', '>', ';'] := by
      intro hmem
      apply h
      simp only [mustEscape, List.contains_iff_mem.mpr hmem, Bool.true_or]
    rw [if_neg h]
    apply Whole.char
    · rintro rfl
      exact hplain (by simp)
    · intro hmem
      exact hplain ((by simp : [',', '+'] ⊆ [',', '+', '"', '\\', '<', '>', ';']) hmem)
    · exact .nil

theorem writeFrom_whole (isFirst : Bool) (value : List Char) :
    Whole [',', '+'] (writeFrom isFirst value) := by
  induction value generalizing isFirst with
  | nil => exact .nil
  | cons c rest ih => exact (writeChar_whole isFirst _ c).append (ih false)

theorem mem_writeFrom {isFirst : Bool} {value : List Char} {c : Char} (h : c ∈ value) :
    c ∈ writeFrom isFirst value := by
  induction value generalizing isFirst with
  | nil => contradiction
  | cons d rest ih =>
    rw [writeFrom, List.mem_append]
    rcases List.mem_cons.mp h with rfl | hrest
    · left
      unfold writeChar
      split <;> simp
    · exact Or.inr (ih hrest)

/-- Escapes stand before what they escape, so they do not change the last character. -/
theorem writeFrom_last (isFirst : Bool) (value : List Char) :
    (writeFrom isFirst value).getLast? = value.getLast? := by
  induction value generalizing isFirst with
  | nil => rfl
  | cons c rest ih =>
    have hchar : (writeChar isFirst rest.isEmpty c).getLast? = some c := by
      unfold writeChar
      split <;> rfl
    rw [writeFrom, List.getLast?_append, ih, hchar, List.getLast?_cons]
    cases rest.getLast? <;> rfl

/-- A trailing space is written behind a backslash. -/
theorem writeFrom_space (isFirst : Bool) {value : List Char} (h : value.getLast? = some ' ') :
    ∃ body, writeFrom isFirst value = body ++ ['\\', ' '] ∧ Whole [',', '+'] body := by
  induction value generalizing isFirst with
  | nil => contradiction
  | cons c rest ih =>
    cases rest with
    | nil =>
      cases h
      exact ⟨[], by cases isFirst <;> rfl, .nil⟩
    | cons d rest =>
      rw [List.getLast?_cons_cons] at h
      obtain ⟨body, heq, hbody⟩ := ih false h
      refine ⟨writeChar isFirst false c ++ body, ?_, (writeChar_whole isFirst false c).append hbody⟩
      rw [writeFrom, heq, List.append_assoc]
      rfl

/-! ## Written namings -/

namespace Naming

variable (naming : Naming)

theorem text_whole : Whole [',', '+'] naming.text :=
  naming.isPlain.whole.append (.char (by decide) (by decide) (writeFrom_whole true naming.value))

theorem text_begins : Begins naming.text :=
  naming.isPlain.begins.append _

theorem text_last : naming.text.getLast? = naming.value.getLast? := by
  obtain ⟨c, hc, -⟩ := naming.visible
  have hne : writeFrom true naming.value ≠ [] := List.ne_nil_of_mem (mem_writeFrom hc)
  rw [text, List.getLast?_append_of_ne_nil _ (List.cons_ne_nil _ _),
    ← writeFrom_last true naming.value]
  cases h : writeFrom true naming.value with
  | nil => contradiction
  | cons d rest => rw [List.getLast?_cons_cons]

theorem text_tight (h : naming.value.getLast? ≠ some ' ') : Tight naming.text := by
  refine naming.text_begins.tight fun c hc => ?_
  rw [text_last] at hc
  cases hblank : isBlank c with
  | false => rfl
  | true =>
    have hspace := naming.spaces c (List.mem_of_getLast? hc) hblank
    exact absurd (hspace ▸ hc) h

theorem text_cutShort (h : naming.value.getLast? = some ' ') : CutShort naming.text := by
  obtain ⟨body, heq, hbody⟩ := writeFrom_space true h
  have htext : naming.text = (naming.type ++ '=' :: body) ++ ['\\', ' '] := by
    rw [text, heq]
    simp
  have hbegins := naming.text_begins
  rw [htext] at hbegins ⊢
  refine hbegins.cutShort ?_
  have hwhole := naming.isPlain.whole.append (.char (c := '=') (by decide) (by decide) hbody)
  exact hwhole.mono (List.nil_subset _)

/-- What is left of the value after trimming is not nothing, with or without its last space. -/
theorem parse_text : ∃ assertion, Assertion.parse naming.text = .ok assertion := by
  obtain ⟨c, hmem, hc⟩ := naming.visible
  exact ⟨_, naming.isPlain.parse_assertion (trim_ne_nil ⟨c, mem_writeFrom hmem, hc⟩)⟩

end Naming

/-! ## Written relative names -/

section Rdn

variable {rdn : List Naming} (hne : rdn ≠ [])

theorem rdnText_whole (rdn : List Naming) : Whole [','] (rdnText rdn) :=
  Whole.intercalate (by decide) (by decide) <|
    List.forall_mem_map.mpr fun naming _ => naming.text_whole.mono (by simp)

include hne

theorem rdnText_pieces : Pieces (rdn.map Naming.text) (rdn.getLast hne).text :=
  pieces_map hne (fun naming _ => naming.text_begins)
    fun naming _ => naming.text_whole.mono (List.nil_subset _)

theorem endsInSpace_iff :
    endsInSpace rdn = true ↔ (rdn.getLast hne).value.getLast? = some ' ' := by
  rw [endsInSpace, List.getLast?_eq_some_getLast hne, decide_eq_true_eq]
  exact Iff.rfl

/-- A relative name ends the way its last naming does. -/
theorem rdnText_tight (h : endsInSpace rdn = false) : Tight (rdnText rdn) := by
  have hlast : (rdn.getLast hne).value.getLast? ≠ some ' ' := by
    intro hspace
    rw [(endsInSpace_iff hne).mpr hspace] at h
    contradiction
  exact (rdnText_pieces hne).tight_joined (by decide) ((rdn.getLast hne).text_tight hlast)

theorem rdnText_cutShort (h : endsInSpace rdn = true) : CutShort (rdnText rdn) := by
  have hlast := (endsInSpace_iff hne).mp h
  exact (rdnText_pieces hne).cutShort_joined (by decide) ((rdn.getLast hne).text_cutShort hlast)

theorem rdnText_parse (h : endsInSpace rdn = false) :
    ∃ read, Rdn.parse (trim (rdnText rdn)) = .ok read ∧ read.text = rdnText rdn := by
  have hparts := (rdnText_pieces hne).ne_nil
  have hwhole : ∀ part ∈ rdn.map Naming.text, Whole ['+'] part :=
    List.forall_mem_map.mpr fun naming _ => naming.text_whole.mono (by simp)
  -- a value that is not the last one may still lose its space, but is not refused for it
  obtain ⟨assertions, hread⟩ := Rdn.assertionsOf_ok <|
    List.forall_mem_map.mpr fun naming (_ : naming ∈ rdn) => naming.parse_text
  refine ⟨⟨rdnText rdn, assertions⟩, ?_, rfl⟩
  rw [(rdnText_tight hne h).trim_eq, rdnText, Rdn.parse_intercalate hparts hwhole, hread]
  rfl

end Rdn

/-! ## Written names -/

section Name

variable {name : List (List Naming)} (hname : name ≠ []) (hrdns : ∀ rdn ∈ name, rdn ≠ [])

include hname hrdns

theorem nameText_pieces : Pieces (name.map rdnText) (rdnText (name.getLast hname)) :=
  pieces_map hname (fun rdn hmem => (rdnText_pieces (hrdns rdn hmem)).begins_joined)
    fun rdn _ => (rdnText_whole rdn).mono (List.nil_subset _)

/-- A name that is not cut short is cut at the commas between its relative names. -/
theorem nameText_parse (h : endsInSpace (name.getLast hname) = false) :
    parseChars (nameText name) = (Rdn.parseAll (name.map rdnText)).map Dn.mk := by
  have hpieces := nameText_pieces hname hrdns
  have hwhole : ∀ text ∈ name.map rdnText, Whole [','] text :=
    List.forall_mem_map.mpr fun rdn _ => rdnText_whole rdn
  have hlast := rdnText_tight (hrdns _ (List.getLast_mem hname)) h
  exact parseChars_intercalate hpieces.ne_nil hwhole (hpieces.tight_joined (by decide) hlast)
    hpieces.begins_joined.ne_nil

theorem nameText_parse_ok (h : ∀ rdn ∈ name, endsInSpace rdn = false) :
    ∃ dn, parseChars (nameText name) = .ok dn ∧ dn.rdns.map Rdn.text = name.map rdnText := by
  obtain ⟨rdns, hall, htexts⟩ := Rdn.parseAll_ok <|
    List.forall_mem_map.mpr fun rdn hmem => rdnText_parse (hrdns rdn hmem) (h rdn hmem)
  refine ⟨⟨rdns⟩, ?_, htexts⟩
  rw [nameText_parse hname hrdns (h _ (List.getLast_mem hname)), hall]
  rfl

/-- The space is lost at the end of the name, or else at the end of an earlier relative name. -/
theorem nameText_parse_error (h : ∃ rdn ∈ name, endsInSpace rdn = true) :
    parseChars (nameText name) = .error .unterminatedEscape := by
  by_cases hlast : endsInSpace (name.getLast hname) = true
  · have hcut := rdnText_cutShort (hrdns _ (List.getLast_mem hname)) hlast
    exact ((nameText_pieces hname hrdns).cutShort_joined (by decide) hcut).parseChars
  · have herror : Rdn.parseAll (name.map rdnText) = .error .unterminatedEscape := by
      apply Rdn.parseAll_error
      · intro text htext
        obtain ⟨rdn, hmem, rfl⟩ := List.mem_map.mp htext
        by_cases hspace : endsInSpace rdn = true
        · exact Or.inr (rdnText_cutShort (hrdns rdn hmem) hspace).rdn_parse
        · obtain ⟨read, hread, -⟩ := rdnText_parse (hrdns rdn hmem) (by simpa using hspace)
          exact Or.inl ⟨read, hread⟩
      · obtain ⟨rdn, hmem, hspace⟩ := h
        have hcut := rdnText_cutShort (hrdns rdn hmem) hspace
        exact ⟨rdnText rdn, List.mem_map_of_mem hmem, hcut.rdn_parse⟩
    rw [nameText_parse hname hrdns (by simpa using hlast), herror]
    rfl

/-- A name that is written with the escapes that it needs is read exactly as it is written, and a
move of its entry goes on with the leading relative name, if no relative name ends in a space.
Otherwise the escape of that space is said not to be finished. -/
theorem written_name_read :
    ((∀ rdn ∈ name, endsInSpace rdn = false) →
      (∃ dn, Dn.parse (String.ofList (nameText name)) = .ok dn ∧
        dn.texts = name.map (fun rdn => String.ofList (rdnText rdn)) ∧
        dn.firstRdn = String.ofList (rdnText (name.head hname))) ∧
      ∀ (c : Connection) (container : String),
        c.move (String.ofList (nameText name)) container =
          c.withSession "move_object" fun session =>
            Connection.relocate session (String.ofList (nameText name))
              (String.ofList (rdnText (name.head hname))) container) ∧
    ((∃ rdn ∈ name, endsInSpace rdn = true) →
      Dn.parse (String.ofList (nameText name)) = .error .unterminatedEscape ∧
      ∀ (c : Connection) (container : String),
        c.move (String.ofList (nameText name)) container =
          .done (.error Fault.unterminatedEscape.toFailure)) := by
  constructor
  · intro h
    obtain ⟨dn, hparse, hrdn⟩ := nameText_parse_ok hname hrdns h
    have hread : Dn.parse (String.ofList (nameText name)) = .ok dn := by
      rw [Dn.parse, String.toList_ofList, hparse]
    have htexts : dn.texts = name.map fun rdn => String.ofList (rdnText rdn) := by
      have hstrings := congrArg (List.map String.ofList) hrdn
      rwa [List.map_map, List.map_map] at hstrings
    have hfirst : dn.firstRdn = String.ofList (rdnText (name.head hname)) := by
      rw [firstRdn, htexts]
      cases name with
      | nil => contradiction
      | cons rdn rdns => rfl
    refine ⟨⟨dn, hread, htexts, hfirst⟩, fun c container => ?_⟩
    rw [Connection.move, hread, ← hfirst]
  · intro h
    have hread : Dn.parse (String.ofList (nameText name)) = .error .unterminatedEscape := by
      rw [Dn.parse, String.toList_ofList, nameText_parse_error hname hrdns h]
    refine ⟨hread, fun c container => ?_⟩
    rw [Connection.move, hread]
    rfl

end Name

/-- `cn` with the value `a` and a space, joined with `sn` and the value `#b, c`, under `dc=org`. -/
def spacedName : List (List Naming) :=
  [[⟨"cn".toList, "a ".toList, ⟨by decide, by simp [isBlank]⟩,
      ⟨'a', by decide, by decide⟩, by simp [isBlank]⟩,
    ⟨"sn".toList, "#b, c".toList, ⟨by decide, by simp [isBlank]⟩,
      ⟨'#', by decide, by decide⟩, by simp [isBlank]⟩],
   [⟨"dc".toList, "org".toList, ⟨by decide, by simp [isBlank]⟩,
      ⟨'o', by decide, by decide⟩, by simp [isBlank]⟩]]

theorem spacedName_read :
    spacedName ≠ [] ∧ (∀ rdn ∈ spacedName, rdn ≠ []) ∧
      (∀ rdn ∈ spacedName, endsInSpace rdn = false) ∧
      ∃ dn, Dn.parse "cn=a\\ +sn=\\#b\\, c,dc=org" = .ok dn ∧
        dn.texts = ["cn=a\\ +sn=\\#b\\, c", "dc=org"] ∧
        dn.firstRdn = "cn=a\\ +sn=\\#b\\, c" := by
  have hname : spacedName ≠ [] := List.cons_ne_nil _ _
  have hrdns : ∀ rdn ∈ spacedName, rdn ≠ [] := by simp [spacedName]
  have hspaces : ∀ rdn ∈ spacedName, endsInSpace rdn = false := by decide
  have htext : String.ofList (nameText spacedName) = "cn=a\\ +sn=\\#b\\, c,dc=org" := by rfl
  obtain ⟨⟨dn, hread, htexts, hfirst⟩, -⟩ := (written_name_read hname hrdns).1 hspaces
  rw [htext] at hread
  exact ⟨hname, hrdns, hspaces, dn, hread, htexts, hfirst⟩

/-- `cn` with the value `a` and a space, under `dc=org`. -/
def paddedName : List (List Naming) :=
  [[⟨"cn".toList, "a ".toList, ⟨by decide, by simp [isBlank]⟩,
      ⟨'a', by decide, by decide⟩, by simp [isBlank]⟩],
   [⟨"dc".toList, "org".toList, ⟨by decide, by simp [isBlank]⟩,
      ⟨'o', by decide, by decide⟩, by simp [isBlank]⟩]]

/-- A value that ends in a space cannot be the last of its relative name, however well its space is
escaped. -/
theorem escaped_trailing_space_refused :
    paddedName ≠ [] ∧ (∀ rdn ∈ paddedName, rdn ≠ []) ∧
      String.ofList (nameText paddedName) = "cn=a\\ ,dc=org" ∧
      Dn.parse "cn=a\\ ,dc=org" = .error .unterminatedEscape := by
  have hname : paddedName ≠ [] := List.cons_ne_nil _ _
  have hrdns : ∀ rdn ∈ paddedName, rdn ≠ [] := by simp [paddedName]
  have htext : String.ofList (nameText paddedName) = "cn=a\\ ,dc=org" := by rfl
  refine ⟨hname, hrdns, htext, ?_⟩
  rw [← htext, Dn.parse, String.toList_ofList]
  exact nameText_parse_error hname hrdns ⟨_, .head _, by decide⟩

end LdapClient.Dn
