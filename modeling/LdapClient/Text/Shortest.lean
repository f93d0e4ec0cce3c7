/-
# LdapClient.Text.Shortest -- the shortest decimal text of a floating-point number

Among the decimal numbers that read back as a given double, the shortest is the one with the fewest
digits, and of two such the nearer one; an exact tie goes to the even last digit.  The search is
exact: a double is `m * 2^q`, the numbers that round to it form an interval around it, and for each
number of digits the two neighbours of the double on that decimal grid are tried.

The text is positional from `1e-5` up to below `1e16`, with at least one digit after the point, and
scientific with a signed exponent elsewhere.
-/
import LdapClient.Text.Decimal

namespace LdapClient.Text.Shortest

/-! ## The interval of a double -/

/-- A positive double `m * 2^q` with the distances, in quarters of `2^q`, to the ends of the
interval of numbers that round to it. -/
structure Binary where
  m : Nat
  q : Int
  below : Nat
  closed : Bool

/-- The double with these bits, without its sign. -/
def Binary.ofBits (bits : Nat) : Binary :=
  let fraction : Nat := bits % Nat.pow 2 52
  let exponent : Nat := bits / Nat.pow 2 52 % Nat.pow 2 11
  if exponent = 0 then ⟨fraction, -1074, 2, fraction % 2 = 0⟩
  else
    ⟨Nat.pow 2 52 + fraction, (exponent : Int) - 1075,
      if fraction = 0 && Nat.blt 1 exponent then 1 else 2, fraction % 2 = 0⟩

/-- A non-negative rational number. -/
structure Ratio where
  num : Nat
  den : Nat

/-- `n * 2^q`. -/
def Ratio.scale (n : Nat) (q : Int) : Ratio :=
  match q with
  | .ofNat k => ⟨n * Nat.pow 2 k, 1⟩
  | .negSucc k => ⟨n, Nat.pow 2 (k + 1)⟩

/-- A power of ten. -/
def Ratio.tenTo (e : Int) : Ratio :=
  match e with
  | .ofNat k => ⟨Nat.pow 10 k, 1⟩
  | .negSucc k => ⟨1, Nat.pow 10 (k + 1)⟩

/-- The product of two ratios. -/
def Ratio.mul (a b : Ratio) : Ratio :=
  ⟨a.num * b.num, a.den * b.den⟩

/-- Comparison of two ratios. -/
def Ratio.le (a b : Ratio) : Bool :=
  Nat.ble (a.num * b.den) (b.num * a.den)

/-! ## The search -/

/-- The exponent of the leading decimal digit of a ratio, found downwards from `high`. -/
def leadingExponent (r : Ratio) : Nat → Int → Int
  | 0, high => high
  | fuel + 1, high =>
    if (Ratio.tenTo high).le r then high else leadingExponent r fuel (high - 1)

/-- A decimal candidate: its digits as a number, on the grid of `10^unit`. -/
structure Candidate where
  digits : Nat
  unit : Int

/-- The candidate rounds to the double. -/
def Candidate.hits (b : Binary) (c : Candidate) : Bool :=
  let value := (Ratio.scale c.digits 0).mul (Ratio.tenTo c.unit)
  let low := Ratio.scale (4 * b.m - b.below) (b.q - 2)
  let high := Ratio.scale (4 * b.m + 2) (b.q - 2)
  if b.closed then low.le value && value.le high
  else !(value.le low) && !(high.le value)

/-- The better of the two neighbours of the double on the grid of `10^unit`, if one rounds to it. -/
def onGrid (b : Binary) (unit : Int) : Option Candidate :=
  let value := Ratio.scale b.m b.q
  let grid := Ratio.tenTo unit
  let floor := (value.num * grid.den) / (value.den * grid.num)
  let low : Candidate := ⟨floor, unit⟩
  let high : Candidate := ⟨floor + 1, unit⟩
  let middle := (Ratio.scale (2 * floor + 1) (-1)).mul grid
  match low.hits b && Nat.blt 0 floor, high.hits b with
  | true, false => some low
  | false, true => some high
  | false, false => none
  | true, true =>
    if !(middle.le value) then some low
    else if !(value.le middle) then some high
    else if floor % 2 = 0 then some low
    else some high

/-- The candidate with the fewest digits, trying `count` more digit counts from grid `unit` down. -/
def search (b : Binary) : Nat → Int → Candidate
  | 0, unit => ⟨0, unit⟩
  | count + 1, unit =>
    match onGrid b unit with
    | some c => c
    | none => search b count (unit - 1)

/-! ## The text -/

/-- Digits at their place: the first one counts `10^lead`. -/
def positional (digits : List Char) (lead : Int) : List Char :=
  match lead with
  | .negSucc k => ['0', '.'] ++ List.replicate k '0' ++ digits
  | .ofNat k =>
    if Nat.ble digits.length (k + 1) then
      digits ++ List.replicate (k + 1 - digits.length) '0' ++ ['.', '0']
    else digits.take (k + 1) ++ ['.'] ++ digits.drop (k + 1)

/-- One digit, the others behind a point, and a signed exponent. -/
def scientific (digits : List Char) (lead : Int) : List Char :=
  digits.take 1 ++ (if digits.length = 1 then [] else ['.'] ++ digits.drop 1) ++
    (match lead with
      | .ofNat k => ['e', '+'] ++ Nat.toDigits 10 k
      | .negSucc k => ['e', '-'] ++ Nat.toDigits 10 (k + 1))

/-- The text of digits of which the first counts `10^lead`. -/
def layout (digits : List Char) (lead : Int) : List Char :=
  if decide (-5 ≤ lead) && decide (lead ≤ 15) then positional digits lead
  else scientific digits lead

/-- Drops zeros at the end, but not the only digit. -/
def dropZeros (digits : List Char) : List Char :=
  match (digits.reverse.dropWhile fun c => c = '0').reverse with
  | [] => ['0']
  | kept => kept

/-- The text of a double given by its bits. -/
def ofBits (bits : Nat) : String :=
  let sign := if Nat.ble (Nat.pow 2 63) bits then ['-'] else []
  let b := Binary.ofBits (bits % Nat.pow 2 63)
  if b.m = 0 then String.ofList (sign ++ ['0', '.', '0'])
  else
    let lead := leadingExponent (Ratio.scale b.m b.q) 700 309
    let c := search b 18 lead
    let digits := Nat.toDigits 10 c.digits
    let first := c.unit + ((digits.length : Int) - 1)
    String.ofList (sign ++ layout (dropZeros digits) first)

/-- The text of a double. -/
def ofFloat (x : Float) : String :=
  ofBits x.toBits.toNat

end LdapClient.Text.Shortest
