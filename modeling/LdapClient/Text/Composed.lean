/-
# LdapClient.Text.Composed -- texts with letters and marks put together

A letter with a mark can be written as one character or as two.  `composed` turns a text into the
form with as few characters as possible: each character is taken apart, the marks are arranged, and
each letter is put together with the marks that nothing bars from it.  Syllables of the Korean
alphabet are put together from their letters in the same way.

The text is one of small letters: only the compositions of such are known here.
-/
import LdapClient.Text.Mark

namespace LdapClient.Text

/-! ## Letters with marks -/

/-- Letters before one mark: each of `bases`, followed by the mark, is the character at the same
place of `wholes`. -/
structure MarkedLetters where
  mark : Nat
  bases : String
  wholes : String

/-- All letters with marks.  A base that is itself put together is taken apart by a row further
down. -/
def markedLetters : Array MarkedLetters :=
  #[
    ⟨0x300, "üēōâăêôơưἀἁἐἑἠἡἰἱὀὁὐὑὠὡϊϋ", "ǜḕṑầằềồờừἂἃἒἓἢἣἲἳὂὃὒὓὢὣῒῢ"⟩,
    ⟨0x301, "üåϊϋçēïõōũâăêôơưἀἁἐἑἠἡἰἱὀὁὐὑὠὡ", "ǘǻΐΰḉḗḯṍṓṹấắếốớứἄἅἔἕἤἥἴἵὄὅὔὕὤὥ"⟩,
    ⟨0x302, "ạẹọ", "ậệộ"⟩, ⟨0x303, "âăêôơư", "ẫẵễỗỡữ"⟩, ⟨0x304, "üäȧǫöõȯḷṛ", "ǖǟǡǭȫȭȱḹṝ"⟩,
    ⟨0x306, "ȩạ", "ḝặ"⟩, ⟨0x307, "śšṣ", "ṥṧṩ"⟩, ⟨0x308, "õū", "ṏṻ"⟩, ⟨0x309, "âăêôơư", "ẩẳểổởử"⟩,
    ⟨0x30C, "ü", "ǚ"⟩, ⟨0x323, "ơư", "ợự"⟩, ⟨0x342, "ἀἁἠἡἰἱὐὑὠὡϊϋ", "ἆἇἦἧἶἷὖὗὦὧῗῧ"⟩,
    ⟨0xCD5, "\u0cca", "\u0ccb"⟩, ⟨0xDCA, "\u0ddc", "\u0ddd"⟩, ⟨0x1611F, "𖄡𖄢", "𖄦𖄧"⟩,
    ⟨0x16120, "𖄡", "𖄨"⟩, ⟨0x16D67, "𖵩", "𖵪"⟩, ⟨0x300, "aeiounеиwyαεηιουω", "àèìòùǹѐѝẁỳὰὲὴὶὸὺὼ"⟩,
    ⟨0x301, "aeiouyclnrszgæøαεηιουωгкkmpw", "áéíóúýćĺńŕśźǵǽǿάέήίόύώѓќḱḿṕẃ"⟩,
    ⟨0x302, "aeioucghjswyz", "âêîôûĉĝĥĵŝŵŷẑ"⟩, ⟨0x303, "anoiuvey", "ãñõĩũṽẽỹ"⟩,
    ⟨0x304, "aeiouæyиуgαιυ", "āēīōūǣȳӣӯḡᾱῑῡ"⟩, ⟨0x306, "aegiouиужаеαιυ", "ăĕğĭŏŭйўӂӑӗᾰῐῠ"⟩,
    ⟨0x307, "cegzaobdfhmnprstwxy𐗒𐗚", "ċėġżȧȯḃḋḟḣṁṅṗṙṡṫẇẋẏ𐗉𐗤"⟩,
    ⟨0x308, "aeiouyιυеіаәжзиоөэучыhwxt", "äëïöüÿϊϋёїӓӛӝӟӥӧӫӭӱӵӹḧẅẍẗ"⟩, ⟨0x309, "aeiouy", "ảẻỉỏủỷ"⟩,
    ⟨0x30A, "auwy", "åůẘẙ"⟩, ⟨0x30B, "ouу", "őűӳ"⟩,
    ⟨0x30C, "cdelnrstzaiougkʒjh", "čďěľňřšťžǎǐǒǔǧǩǯǰȟ"⟩, ⟨0x30F, "aeioruѵ", "ȁȅȉȍȑȕѷ"⟩,
    ⟨0x311, "aeioru", "ȃȇȋȏȓȗ"⟩, ⟨0x313, "αεηιουωρ", "ἀἐἠἰὀὐὠῤ"⟩, ⟨0x314, "αεηιουωρ", "ἁἑἡἱὁὑὡῥ"⟩,
    ⟨0x31B, "ou", "ơư"⟩, ⟨0x323, "bdhklmnrstvwzaeiouy", "ḅḍḥḳḷṃṇṛṣṭṿẉẓạẹịọụỵ"⟩, ⟨0x324, "u", "ṳ"⟩,
    ⟨0x325, "a", "ḁ"⟩, ⟨0x326, "st", "șț"⟩, ⟨0x327, "cgklnrstedh", "çģķļņŗşţȩḑḩ"⟩,
    ⟨0x328, "aeiuo", "ąęįųǫ"⟩, ⟨0x32D, "delntu", "ḓḙḽṋṱṷ"⟩, ⟨0x32E, "h", "ḫ"⟩,
    ⟨0x330, "eiu", "ḛḭṵ"⟩, ⟨0x331, "bdklnrtzh", "ḇḏḵḻṉṟṯẕẖ"⟩,
    ⟨0x338, "←→↔⇐⇔⇒∃∈∋∣∥∼≃≅≈=≡≍<>≤≥≲≳≶≷≺≻⊂⊃⊆⊇⊢⊨⊩⊫≼≽⊑⊒", "↚↛↮⇍⇎⇏∄∉∌∤∦≁≄≇≉≠≢≭≮≯≰≱≴≵≸≹⊀⊁⊄⊅⊈⊉⊬⊭⊮⊯⋠⋡⋢⋣"⟩,
    ⟨0x338, "⊲⊳⊴⊵", "⋪⋫⋬⋭"⟩, ⟨0x342, "αηιυω", "ᾶῆῖῦῶ"⟩, ⟨0x653, "\u0627", "\u0622"⟩,
    ⟨0x654, "\u0627\u0648\u064a\u06d5\u06c1\u06d2", "\u0623\u0624\u0626\u06c0\u06c2\u06d3"⟩,
    ⟨0x655, "\u0627", "\u0625"⟩, ⟨0x93C, "नरळ", "ऩऱऴ"⟩, ⟨0x9BE, "\u09c7", "\u09cb"⟩,
    ⟨0x9D7, "\u09c7", "\u09cc"⟩, ⟨0xB3E, "\u0b47", "\u0b4b"⟩, ⟨0xB56, "\u0b47", "\u0b48"⟩,
    ⟨0xB57, "\u0b47", "\u0b4c"⟩, ⟨0xBBE, "\u0bc6\u0bc7", "\u0bca\u0bcb"⟩,
    ⟨0xBD7, "ஒ\u0bc6", "ஔ\u0bcc"⟩, ⟨0xC56, "\u0c46", "\u0c48"⟩, ⟨0xCC2, "\u0cc6", "\u0cca"⟩,
    ⟨0xCD5, "\u0cbf\u0cc6", "\u0cc0\u0cc7"⟩, ⟨0xCD6, "\u0cc6", "\u0cc8"⟩,
    ⟨0xD3E, "\u0d46\u0d47", "\u0d4a\u0d4b"⟩, ⟨0xD57, "\u0d46", "\u0d4c"⟩,
    ⟨0xDCA, "\u0dd9", "\u0dda"⟩, ⟨0xDCF, "\u0dd9", "\u0ddc"⟩, ⟨0xDDF, "\u0dd9", "\u0dde"⟩,
    ⟨0x102E, "ဥ", "ဦ"⟩,
    ⟨0x1B35, "ᬅᬇᬉᬋᬍᬑ\u1b3a\u1b3c\u1b3e\u1b3f\u1b42", "ᬆᬈᬊᬌᬎᬒ\u1b3b\u1b3d\u1b40\u1b41\u1b43"⟩,
    ⟨0x3099, "かきくけこさしすせそたちつてとはひふへ", "がぎぐげござじずぜぞだぢづでどばびぶべ"⟩,
    ⟨0x3099, "ほうゝカキクケコサシスセソタチツテトハ", "ぼゔゞガギグゲゴザジズゼゾダヂヅデドバ"⟩,
    ⟨0x3099, "ヒフヘホウワヰヱヲヽ", "ビブベボヴヷヸヹヺヾ"⟩,
    ⟨0x309A, "はひふへほハヒフヘホ", "ぱぴぷぺぽパピプペポ"⟩, ⟨0x110BA, "𑂙𑂛𑂥", "𑂚𑂜𑂫"⟩,
    ⟨0x11127, "𑄱𑄲", "𑄮𑄯"⟩, ⟨0x1133E, "𑍇", "𑍋"⟩, ⟨0x11357, "𑍇", "𑍌"⟩, ⟨0x113B8, "𑏂", "𑏇"⟩,
    ⟨0x113BB, "𑎄", "𑎅"⟩, ⟨0x113C2, "𑎎", "𑎎𑏅"⟩, ⟨0x113C9, "𑎂𑎐𑏂", "𑎃𑎑𑏈"⟩,
    ⟨0x114B0, "𑒹", "𑒼"⟩, ⟨0x114BA, "𑒹", "𑒻"⟩, ⟨0x114BD, "𑒹", "𑒾"⟩, ⟨0x115AF, "𑖸𑖹", "𑖺𑖻"⟩,
    ⟨0x11930, "𑤵", "𑤸"⟩, ⟨0x1611E, "𖄞", "𖄡"⟩, ⟨0x1611F, "𖄢", "𖄣𖄤"⟩, ⟨0x16120, "𖄞", "𖄥"⟩,
    ⟨0x16129, "𖄞", "𖄢"⟩, ⟨0x16D67, "𖵧𖵣", "𖵨𖵩"⟩
  ]

/-- A character that stands for two others. -/
structure Composition where
  base : Char
  mark : Char
  whole : Char

/-- The compositions of a row. -/
def MarkedLetters.compositions (row : MarkedLetters) : List Composition :=
  (row.bases.toList.zip row.wholes.toList).map fun pair => ⟨pair.1, Char.ofNat row.mark, pair.2⟩

/-- All compositions but those of syllables. -/
def compositions : List Composition :=
  markedLetters.toList.flatMap MarkedLetters.compositions

/-! ## Korean syllables -/

/-- The syllable made of a consonant and a vowel, or of such a syllable and a final consonant. -/
def joinSyllable? (a b : Char) : Option Char :=
  let within (n first last : Nat) : Bool := Nat.ble first n && Nat.ble n last
  if within a.toNat 0x1100 0x1112 && within b.toNat 0x1161 0x1175 then
    some (Char.ofNat (0xAC00 + ((a.toNat - 0x1100) * 21 + (b.toNat - 0x1161)) * 28))
  else if within a.toNat 0xAC00 0xD7A3 && Nat.beq ((a.toNat - 0xAC00) % 28) 0 &&
      within b.toNat 0x11A8 0x11C2 then
    some (Char.ofNat (a.toNat + (b.toNat - 0x11A7)))
  else none

/-- The letters of a syllable. -/
def splitSyllable? (c : Char) : Option (List Char) :=
  if Nat.ble 0xAC00 c.toNat && Nat.ble c.toNat 0xD7A3 then
    let n := c.toNat - 0xAC00
    let final := if Nat.beq (n % 28) 0 then [] else [Char.ofNat (0x11A7 + n % 28)]
    some (Char.ofNat (0x1100 + n / 588) :: Char.ofNat (0x1161 + n % 588 / 28) :: final)
  else none

/-! ## Taking apart -/

/-- Takes a character apart by a list of compositions, each used at most once. -/
def splitBy : List Composition → Char → List Char
  | [], c => [c]
  | one :: more, c =>
    if one.whole = c then splitBy more one.base ++ [one.mark] else splitBy more c

/-- A character taken apart as far as it goes. -/
def takeApart (c : Char) : List Char :=
  match splitSyllable? c with
  | some letters => letters
  | none => splitBy compositions c

/-! ## Putting together -/

/-- The character that stands for two others. -/
def whole? (a b : Char) : Option Char :=
  match joinSyllable? a b with
  | some syllable => some syllable
  | none => (compositions.find? fun one => one.base = a && one.mark = b).map Composition.whole

/-- A mark is barred from its letter by a mark in between of the same or a higher class. -/
def isBarred (between : List Char) (c : Char) : Bool :=
  match between.head? with
  | some nearest => Nat.ble (combiningClass c) (combiningClass nearest)
  | none => false

/-- Puts an arranged text together.  `letter` is the last character of class zero and `between` the
marks behind it that stay, read backwards. -/
def composeFrom (letter : Char) (between : List Char) : List Char → List Char
  | [] => letter :: between.reverse
  | c :: rest =>
    match if isBarred between c then none else whole? letter c with
    | some whole => composeFrom whole between rest
    | none =>
      if Nat.beq (combiningClass c) 0 then
        letter :: (between.reverse ++ composeFrom c [] rest)
      else composeFrom letter (c :: between) rest

/-- Puts an arranged text together. -/
def compose : List Char → List Char
  | [] => []
  | c :: rest => composeFrom c [] rest

/-- The composed form of a text of small letters. -/
def composed (text : List Char) : List Char :=
  compose (arrangeMarks (text.flatMap takeApart))

end LdapClient.Text
