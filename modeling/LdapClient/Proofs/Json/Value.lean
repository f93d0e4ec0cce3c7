/-
# LdapClient.Proofs.Json.Value -- the values that tokens spell

A `Value` is what a document holds: a word, a number, a text, a list of values or an object of
members, each with the tokens that spell it.  A document `Writes` a value if its tokens are those of
the value.  Members stay in their order and may be named twice, since it is for a reader to say that
the one does not matter and the other does.

Passing over a value ends right behind it (`skip_value`), and a reader that wants some kind of
value decides by the value alone, whatever comes behind it (`KeepsToValue`).
-/
import LdapClient.Json.Reader

namespace LdapClient.Json

/-! ## Values and their tokens -/

mutual

/-- What a document holds.  Names and texts are kept as pieces, numbers as they are written. -/
inductive Value where
  | word (word : Word)
  | number (written : NumberText)
  | text (pieces : List Piece)
  | list (items : List Value)
  | object (members : List Member)

/-- A member of an object. -/
inductive Member where
  | mk (name : List Piece) (value : Value)

end

namespace Member

/-- The name as it is written. -/
def name : Member → List Piece
  | .mk name _ => name

def value : Member → Value
  | .mk _ value => value

/-- The string that the name stands for; `none` if it holds half a surrogate pair. -/
def called? (member : Member) : Option String :=
  (decodeString member.name none).toOption

end Member

mutual

/-- The tokens that spell a value. -/
def Value.tokens : Value → List Token
  | .word word => [.word word]
  | .number written => [.number written]
  | .text pieces => [.text pieces none]
  | .list items => .openList :: itemTokens items
  | .object members => .openObject :: memberTokens members

/-- The tokens that spell a member. -/
def Member.tokens : Member → List Token
  | .mk name value => .text name none :: .colon :: value.tokens

/-- The tokens behind the bracket that opens a list, up to the end of the list. -/
def itemTokens : List Value → List Token
  | [] => [.closeList]
  | item :: items => item.tokens ++ moreItems items

/-- The tokens behind an item, up to the end of the list. -/
def moreItems : List Value → List Token
  | [] => [.closeList]
  | item :: items => .comma :: (item.tokens ++ moreItems items)

/-- The tokens behind the brace that opens an object, up to the end of the object. -/
def memberTokens : List Member → List Token
  | [] => [.closeObject]
  | member :: members => member.tokens ++ moreMembers members

/-- The tokens behind a member, up to the end of the object. -/
def moreMembers : List Member → List Token
  | [] => [.closeObject]
  | member :: members => .comma :: (member.tokens ++ moreMembers members)

end

/-- The document consists of this value. -/
def Writes (text : String) (value : Value) : Prop :=
  Json.tokens text.toList = value.tokens

theorem Member.tokens_eq (member : Member) :
    member.tokens = .text member.name none :: .colon :: member.value.tokens := by
  cases member
  rfl

/-! ## Passing over a value -/

/-- Passing over what is left once a value within these frames is complete. -/
def resume (frames : List Frame) (rest : List Token) : Except Fault (List Token) :=
  match completed frames with
  | none => .ok rest
  | some (frames, place) => skipFrom frames place rest

section Skip

variable {frames inner outer : List Frame} {place next : Place} {token : Token}
  {rest : List Token}

theorem skipFrom_step (h : step frames place token = .ok (some (inner, next))) :
    skipFrom frames place (token :: rest) = skipFrom inner next rest := by
  rw [skipFrom, h]

theorem skipFrom_complete (h : step frames place token = .ok (completed outer)) :
    skipFrom frames place (token :: rest) = resume outer rest := by
  rw [skipFrom, h, resume]
  cases completed outer with
  | none => rfl
  | some next => rfl

/-- No value begins with the bracket that closes a list. -/
theorem skipFrom_opened (item : Value) :
    skipFrom (.list :: frames) .opened (item.tokens ++ rest) =
      skipFrom (.list :: frames) .value (item.tokens ++ rest) := by
  cases item <;> rfl

end Skip

-- one induction on values, members and the lists of both, as the tokens are defined

mutual

theorem skipFrom_value (value : Value) (frames : List Frame) (rest : List Token) :
    skipFrom frames .value (value.tokens ++ rest) = resume frames rest := by
  cases value with
  | word word => exact skipFrom_complete rfl
  | number written => exact skipFrom_complete rfl
  | text pieces => exact skipFrom_complete rfl
  | list items =>
    calc skipFrom frames .value (.openList :: (itemTokens items ++ rest))
      _ = skipFrom (.list :: frames) .opened (itemTokens items ++ rest) := skipFrom_step rfl
      _ = resume frames rest := skipFrom_itemTokens items frames rest
  | object members =>
    calc skipFrom frames .value (.openObject :: (memberTokens members ++ rest))
      _ = skipFrom (.object :: frames) .opened (memberTokens members ++ rest) := skipFrom_step rfl
      _ = resume frames rest := skipFrom_memberTokens members frames rest

theorem skipFrom_member (member : Member) (frames : List Frame) {place : Place}
    (rest : List Token) (hplace : place = .opened ∨ place = .key) :
    skipFrom (.object :: frames) place (member.tokens ++ rest) =
      skipFrom (.object :: frames) .after rest := by
  obtain ⟨name, value⟩ := member
  have hname : step (.object :: frames) place (.text name none) =
      .ok (some (.object :: frames, .colon)) := by
    rcases hplace with rfl | rfl <;> rfl
  calc skipFrom (.object :: frames) place (.text name none :: .colon :: (value.tokens ++ rest))
    _ = skipFrom (.object :: frames) .colon (.colon :: (value.tokens ++ rest)) :=
        skipFrom_step hname
    _ = skipFrom (.object :: frames) .value (value.tokens ++ rest) := skipFrom_step rfl
    _ = skipFrom (.object :: frames) .after rest := skipFrom_value value _ _

theorem skipFrom_itemTokens (items : List Value) (frames : List Frame) (rest : List Token) :
    skipFrom (.list :: frames) .opened (itemTokens items ++ rest) = resume frames rest := by
  cases items with
  | nil => exact skipFrom_complete rfl
  | cons item items =>
    rw [itemTokens, List.append_assoc, skipFrom_opened, skipFrom_value item]
    exact skipFrom_moreItems items frames rest

theorem skipFrom_moreItems (items : List Value) (frames : List Frame) (rest : List Token) :
    skipFrom (.list :: frames) .after (moreItems items ++ rest) = resume frames rest := by
  cases items with
  | nil => exact skipFrom_complete rfl
  | cons item items =>
    have hcomma : skipFrom (.list :: frames) .after (moreItems (item :: items) ++ rest) =
        skipFrom (.list :: frames) .value (item.tokens ++ moreItems items ++ rest) :=
      skipFrom_step rfl
    rw [hcomma, List.append_assoc, skipFrom_value item]
    exact skipFrom_moreItems items frames rest

theorem skipFrom_memberTokens (members : List Member) (frames : List Frame)
    (rest : List Token) :
    skipFrom (.object :: frames) .opened (memberTokens members ++ rest) = resume frames rest := by
  cases members with
  | nil => exact skipFrom_complete rfl
  | cons member members =>
    rw [memberTokens, List.append_assoc, skipFrom_member member frames _ (.inl rfl)]
    exact skipFrom_moreMembers members frames rest

theorem skipFrom_moreMembers (members : List Member) (frames : List Frame) (rest : List Token) :
    skipFrom (.object :: frames) .after (moreMembers members ++ rest) = resume frames rest := by
  cases members with
  | nil => exact skipFrom_complete rfl
  | cons member members =>
    have hcomma : skipFrom (.object :: frames) .after (moreMembers (member :: members) ++ rest) =
        skipFrom (.object :: frames) .key (member.tokens ++ moreMembers members ++ rest) :=
      skipFrom_step rfl
    rw [hcomma, List.append_assoc, skipFrom_member member frames _ (.inr rfl)]
    exact skipFrom_moreMembers members frames rest

end

theorem skip_value (value : Value) (rest : List Token) : skip (value.tokens ++ rest) = .ok rest :=
  skipFrom_value value [] rest

/-! ## Readers -/

/-- The reader decides by the value in front, takes all of it, and leaves what is behind it. -/
def KeepsToValue {α : Type} (reader : List Token → Read α) : Prop :=
  ∀ (value : Value) (rest : List Token),
    reader (value.tokens ++ rest) = (reader value.tokens).map fun read => (read.1, rest)

section Readers

variable {α : Type} {reader : List Token → Read α}

theorem keepsToValue_readText (wanted : Wanted) : KeepsToValue (readText wanted) := by
  intro value rest
  cases value with
  | word => rfl
  | number => rfl
  | text pieces =>
    show (decodeString pieces none).map _ = ((decodeString pieces none).map _).map _
    cases decodeString pieces none <;> rfl
  | list => rfl
  | object => rfl

theorem keepsToValue_readBool : KeepsToValue readBool := by
  intro value rest
  cases value with
  | word word => cases word <;> rfl
  | number => rfl
  | text => rfl
  | list => rfl
  | object => rfl

theorem keepsToValue_readInt (wanted : Wanted) (low high : Int) :
    KeepsToValue (readInt wanted low high) := by
  intro value rest
  cases value with
  | word => rfl
  | number written =>
    simp only [Value.tokens, List.cons_append, readInt]
    cases written.value with
    | none => rfl
    | some number =>
      cases number with
      | integer n => by_cases h : low ≤ n ∧ n ≤ high <;> simp [h, Except.map]
      | float => rfl
  | text => rfl
  | list => rfl
  | object => rfl

/-- Reading another kind of result from what was read keeps to the value as well. -/
theorem KeepsToValue.map {β : Type} (hreader : KeepsToValue reader) (f : α → β) :
    KeepsToValue fun tokens => (reader tokens).map fun read => (f read.1, read.2) := by
  intro value rest
  simp only [hreader value rest]
  cases reader value.tokens <;> rfl

theorem keepsToValue_readPath? : KeepsToValue readPath? := by
  intro value rest
  have hpath := (keepsToValue_readText .path).map some
  cases value with
  | word word =>
    cases word with
    | null => rfl
    | true => exact hpath (.word .true) rest
    | false => exact hpath (.word .false) rest
  | number written => exact hpath (.number written) rest
  | text pieces => exact hpath (.text pieces) rest
  | list items => exact hpath (.list items) rest
  | object members => exact hpath (.object members) rest

/-- The texts behind the first one are read up to the end of the list. -/
theorem readMoreTexts_moreItems (items : List Value) (rest : List Token) :
    readMoreTexts (moreItems items ++ rest) =
      (readMoreTexts (moreItems items)).map fun read => (read.1, rest) := by
  induction items with
  | nil => rfl
  | cons item items ih =>
    cases item with
    | text pieces =>
      simp only [moreItems, Value.tokens, List.cons_append, List.nil_append, readMoreTexts, ih]
      cases decodeString pieces none with
      | error fault => rfl
      | ok value => cases readMoreTexts (moreItems items) <;> rfl
    | word => rfl
    | number => rfl
    | list => rfl
    | object => rfl

theorem keepsToValue_readTexts : KeepsToValue readTexts := by
  intro value rest
  cases value with
  | list items =>
    cases items with
    | nil => rfl
    | cons item items =>
      cases item with
      | text pieces =>
        simp only [Value.tokens, itemTokens, List.cons_append, List.nil_append, readTexts, readText]
        cases decodeString pieces none with
        | error fault => rfl
        | ok value =>
          show (readMoreTexts (moreItems items ++ rest)).map _ =
            ((readMoreTexts (moreItems items)).map _).map _
          rw [readMoreTexts_moreItems]
          cases readMoreTexts (moreItems items) <;> rfl
      | word => rfl
      | number => rfl
      | list => rfl
      | object => rfl
  | word => rfl
  | number => rfl
  | text => rfl
  | object => rfl

end Readers

/-! ## Whole documents -/

/-- A document that consists of a value is read as the value is, if nothing is left of it. -/
theorem readWhole_eq_ok_iff {α : Type} {reader : List Token → Read α} {text : String}
    {value : Value} {condition : Prop} {a : α} (hwrites : Writes text value)
    (h : ∀ read, reader value.tokens = .ok read ↔ condition ∧ read = (a, [])) (x : α) :
    readWhole reader text = .ok x ↔ condition ∧ x = a := by
  rw [readWhole, hwrites]
  cases hread : reader value.tokens with
  | error fault =>
    have hnot : ¬ condition := by
      intro hcondition
      have hok := (h (a, [])).mpr ⟨hcondition, rfl⟩
      rw [hread] at hok
      cases hok
    simp [hnot]
  | ok read =>
    obtain ⟨hcondition, rfl⟩ := (h read).mp hread
    simp [hcondition, eq_comm]

end LdapClient.Json
