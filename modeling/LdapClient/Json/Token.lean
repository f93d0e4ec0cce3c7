/-
# LdapClient.Json.Token -- the words of a JSON document

`tokens` cuts a document into brackets, marks, texts, numbers and the three words.  A piece that
begins like one of these but cannot be finished is a token too, the last one: whether it matters is
for the reader to say, who may have refused the document before.

A text is kept as pieces, because whether two `\u` escapes make one character is decided only when
the text is wanted.
-/
import LdapClient.Json.Number
import LdapClient.Text.Hex

namespace LdapClient.Json

open Text

/-! ## Tokens -/

/-- One piece of a text: a character, or the number of a `\u` escape. -/
inductive Piece where
  | char (c : Char)
  | unit (n : Nat)
deriving DecidableEq

/-- Why a text cannot be finished. -/
inductive TextFault where
  | unterminated
  | controlCharacter
  | unknownEscape
  | malformedHex
deriving DecidableEq

/-- The three words. -/
inductive Word where
  | null
  | true
  | false
deriving DecidableEq

/-- A word of a document. -/
inductive Token where
  | openObject
  | closeObject
  | openList
  | closeList
  | colon
  | comma
  | word (word : Word)
  | number (text : NumberText)
  | text (pieces : List Piece) (fault : Option TextFault)
  /-- A word that breaks off, at the end of the document or not. -/
  | brokenWord (atEnd : Bool)
  /-- A number that breaks off, at the end of the document or not. -/
  | brokenNumber (atEnd : Bool)
  /-- A character that begins nothing. -/
  | stray (c : Char)
deriving DecidableEq

/-! ## Texts -/

/-- A text that was cut off the document. -/
structure TextCut where
  pieces : List Piece
  fault : Option TextFault
  rest : List Char

/-- Puts a piece in front. -/
def TextCut.cons (piece : Piece) (cut : TextCut) : TextCut :=
  { cut with pieces := piece :: cut.pieces }

/-- A text that cannot be finished. -/
def TextCut.broken (fault : TextFault) : TextCut :=
  ⟨[], some fault, []⟩

/-- The character of an escape with one letter. -/
def escaped? (c : Char) : Option Char :=
  if c = '"' || c = '\\' || c = '/' then some c
  else if c = 'b' then some '\x08'
  else if c = 'f' then some '\x0c'
  else if c = 'n' then some '\n'
  else if c = 'r' then some '\r'
  else if c = 't' then some '\t'
  else none

/-- The number of four hexadecimal digits. -/
def hexUnit? (a b c d : Char) : Option Nat :=
  match hexValue a, hexValue b, hexValue c, hexValue d with
  | some a, some b, some c, some d => some (((a * 16 + b) * 16 + c) * 16 + d)
  | _, _, _, _ => none

/-- Fewer than four characters after `\u`: an escape of the wrong form if they are at least four
octets, the end of the document otherwise. -/
def shortHex (rest : List Char) : TextFault :=
  if Nat.ble 4 (rest.foldl (fun n c => n + c.utf8Size) 0) then .malformedHex else .unterminated

/-- Cuts a text off, after its opening quote. -/
def cutText : List Char → TextCut
  | [] => .broken .unterminated
  | c :: rest =>
    if c = '"' then ⟨[], none, rest⟩
    else if c = '\\' then
      match rest with
      | [] => .broken .unterminated
      | e :: rest₁ =>
        if e = 'u' then
          match rest₁ with
          | h₁ :: h₂ :: h₃ :: h₄ :: rest₂ =>
            match hexUnit? h₁ h₂ h₃ h₄ with
            | some n => (cutText rest₂).cons (.unit n)
            | none => .broken .malformedHex
          | short => .broken (shortHex short)
        else
          match escaped? e with
          | some character => (cutText rest₁).cons (.char character)
          | none => .broken .unknownEscape
    else if Nat.blt c.toNat 0x20 then .broken .controlCharacter
    else (cutText rest).cons (.char c)

theorem length_rest_cutText (s : List Char) : (cutText s).rest.length ≤ s.length := by
  fun_induction cutText s <;> simp_all [TextCut.broken, TextCut.cons] <;> omega

/-! ## Numbers and words -/

/-- The digits in front, as numbers, and what follows them. -/
def cutDigits (s : List Char) : List Nat × List Char :=
  ((s.takeWhile Decimal.isDigit).map fun c => c.toNat - 48, s.dropWhile Decimal.isDigit)

theorem length_cutDigits (s : List Char) : (cutDigits s).2.length ≤ s.length :=
  (List.dropWhile_sublist _).length_le

/-- Cuts off a sign, `true` for a minus. -/
def cutSign : List Char → Bool × List Char
  | [] => (false, [])
  | c :: rest =>
    if c = '-' then (true, rest) else if c = '+' then (false, rest) else (false, c :: rest)

theorem length_cutSign (s : List Char) : (cutSign s).2.length ≤ s.length := by
  fun_cases cutSign s <;> simp

/-- Cuts off an exponent, if there is one; `none` if it has no digits. -/
def cutExponent : List Char → Option (Option (Bool × List Nat)) × List Char
  | [] => (some none, [])
  | c :: rest =>
    if c = 'e' || c = 'E' then
      let digits := cutDigits (cutSign rest).2
      if digits.1.isEmpty then (none, (cutSign rest).2)
      else (some (some ((cutSign rest).1, digits.1)), digits.2)
    else (some none, c :: rest)

theorem length_cutExponent (s : List Char) : (cutExponent s).2.length ≤ s.length := by
  fun_cases cutExponent s with
  | case1 => exact Nat.le_refl _
  | case2 c rest _ _ _ =>
    have := length_cutSign rest
    simp only [List.length_cons]
    omega
  | case3 c rest _ digits _ =>
    have h₁ := length_cutSign rest
    have h₂ := length_cutDigits (cutSign rest).2
    simp only [List.length_cons, digits]
    omega
  | case4 => exact Nat.le_refl _

/-- Finishes a number with the exponent that follows. -/
def cutEnd (negative : Bool) (whole : List Nat) (fraction : Option (List Nat)) (s : List Char) :
    Token × List Char :=
  match (cutExponent s).1 with
  | some exponent => (.number ⟨negative, whole, fraction, exponent⟩, (cutExponent s).2)
  | none => (.brokenNumber (cutExponent s).2.isEmpty, [])

theorem length_cutEnd (negative : Bool) (whole : List Nat) (fraction : Option (List Nat))
    (s : List Char) : (cutEnd negative whole fraction s).2.length ≤ s.length := by
  unfold cutEnd
  split
  · exact length_cutExponent s
  · exact Nat.zero_le _

/-- Cuts off a fraction and an exponent after the digits in front. -/
def cutTail (negative : Bool) (whole : List Nat) : List Char → Token × List Char
  | [] => cutEnd negative whole none []
  | c :: rest =>
    if c = '.' then
      if (cutDigits rest).1.isEmpty then (.brokenNumber rest.isEmpty, [])
      else cutEnd negative whole (some (cutDigits rest).1) (cutDigits rest).2
    else cutEnd negative whole none (c :: rest)

theorem length_cutTail (negative : Bool) (whole : List Nat) (s : List Char) :
    (cutTail negative whole s).2.length ≤ s.length := by
  fun_cases cutTail negative whole s with
  | case1 => exact length_cutEnd ..
  | case2 => exact Nat.zero_le _
  | case3 rest _ =>
    have h₁ := length_cutEnd negative whole (some (cutDigits rest).1) (cutDigits rest).2
    have h₂ := length_cutDigits rest
    simp only [List.length_cons]
    omega
  | case4 => exact length_cutEnd ..

/-- Cuts a number off, after its sign.  A zero in front must be the only digit there. -/
def cutNumber (negative : Bool) (s : List Char) : Token × List Char :=
  match (cutDigits s).1 with
  | [] => (.brokenNumber s.isEmpty, [])
  | 0 :: _ :: _ => (.brokenNumber false, [])
  | whole => cutTail negative whole (cutDigits s).2

theorem length_cutNumber (negative : Bool) (s : List Char) :
    (cutNumber negative s).2.length ≤ s.length := by
  unfold cutNumber
  split
  · simp
  · simp
  · exact Nat.le_trans (length_cutTail _ _ _) (length_cutDigits s)

/-- Cuts off the letters that finish a word. -/
def cutWord (word : Word) : List Char → List Char → Token × List Char
  | [], s => (.word word, s)
  | _ :: _, [] => (.brokenWord true, [])
  | letter :: letters, c :: s =>
    if c = letter then cutWord word letters s else (.brokenWord false, [])

theorem length_cutWord (word : Word) (letters s : List Char) :
    (cutWord word letters s).2.length ≤ s.length := by
  fun_induction cutWord word letters s <;> simp_all
  omega

/-! ## The whole document -/

/-- White space between tokens. -/
def isSpace (c : Char) : Bool :=
  c = ' ' || c = '\n' || c = '\t' || c = '\r'

/-- The token of a character that is one on its own. -/
def markOf? (c : Char) : Option Token :=
  if c = '\x7b' then some .openObject
  else if c = '\x7d' then some .closeObject
  else if c = '[' then some .openList
  else if c = ']' then some .closeList
  else if c = ':' then some .colon
  else if c = ',' then some .comma
  else none

/-- The token that begins with a character that is no white space, and what follows it. -/
def nextToken (c : Char) (rest : List Char) : Token × List Char :=
  match markOf? c with
  | some token => (token, rest)
  | none =>
    if c = '"' then (.text (cutText rest).pieces (cutText rest).fault, (cutText rest).rest)
    else if c = '-' then cutNumber true rest
    else if Decimal.isDigit c then cutNumber false (c :: rest)
    else if c = 'n' then cutWord .null ['u', 'l', 'l'] rest
    else if c = 't' then cutWord .true ['r', 'u', 'e'] rest
    else if c = 'f' then cutWord .false ['a', 'l', 's', 'e'] rest
    else (.stray c, rest)

theorem length_cutNumber_digit {c : Char} {rest : List Char} (h : Decimal.isDigit c = true) :
    (cutNumber false (c :: rest)).2.length ≤ rest.length := by
  have hdigits : (cutDigits (c :: rest)).2 = rest.dropWhile Decimal.isDigit := by
    simp [cutDigits, h]
  unfold cutNumber
  split
  · simp
  · simp
  · refine Nat.le_trans (length_cutTail _ _ _) ?_
    rw [hdigits]
    exact (List.dropWhile_sublist _).length_le

theorem length_nextToken (c : Char) (rest : List Char) :
    (nextToken c rest).2.length ≤ rest.length := by
  unfold nextToken
  split
  · exact Nat.le_refl _
  · split
    · exact length_rest_cutText rest
    · split
      · exact length_cutNumber _ _
      · split
        · next h => exact length_cutNumber_digit h
        · split
          · exact length_cutWord _ _ _
          · split
            · exact length_cutWord _ _ _
            · split
              · exact length_cutWord _ _ _
              · exact Nat.le_refl _

/-- The tokens of a document. -/
def tokens : List Char → List Token
  | [] => []
  | c :: rest =>
    if isSpace c then tokens rest
    else
      have := length_nextToken c rest
      (nextToken c rest).1 :: tokens (nextToken c rest).2
termination_by s => s.length
decreasing_by
  all_goals simp only [List.length_cons]; omega

end LdapClient.Json
