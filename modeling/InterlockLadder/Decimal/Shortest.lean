/-! The shortest decimal that reads back as a given binary fraction, and its text.

A double is a number `m · 2 ^ q`. The reals that round to it form an interval around it, whose ends
belong to it when `m` is even. For one digit, two digits and so on, the two neighbours of the value
on that decimal grid are tested in exact arithmetic; the first grid with a hit is taken, and of two
hits the nearer, of two equally near the even one. Seventeen digits always suffice. -/

namespace InterlockLadder.Decimal

/-- The positive decimal `digits · 10 ^ exponent`. -/
structure Scientific where
  digits : Nat
  exponent : Int
deriving DecidableEq

/-- The number of decimal digits; zero has one. -/
def digitCount (n : Nat) : Nat :=
  (Nat.toDigits 10 n).length

/-- The exponent of the leading digit of the positive quotient `num / den`. -/
def leadingExponent (num den : Nat) : Int :=
  if den ≤ num then digitCount (num / den) - 1
  else -(digitCount ((den + num - 1) / num - 1) : Int)

/-- A positive double `m · 2 ^ q` and the spacing below it: `binadeStart` holds when the doubles
just below it lie twice as dense as those above. -/
structure Binary where
  m : Nat
  q : Int
  binadeStart : Bool

namespace Binary

/-- The double with the given bits, without its sign; `none` if it is zero or not finite. -/
def ofBits? (bits : UInt64) : Option Binary :=
  let field := (bits >>> 52).toNat % 2048
  let fraction := bits.toNat % 0x10000000000000
  if field = 2047 then none
  else if field = 0 then
    if fraction = 0 then none else some ⟨fraction, -1074, false⟩
  else some ⟨0x10000000000000 + fraction, field - 1075, fraction = 0 && 1 < field⟩

/-- The best point of the decimal grid with step `10 ^ k` in the interval of the reals that round
to the double, if the grid has one there. -/
def onGrid? (b : Binary) (k : Int) : Option Nat :=
  let scale := Nat.pow 2 (b.q - 2).toNat * Nat.pow 10 (-k).toNat
  let step := Nat.pow 2 (2 - b.q).toNat * Nat.pow 10 k.toNat
  let value := 4 * b.m * scale
  let low := (4 * b.m - if b.binadeStart then 1 else 2) * scale
  let high := (4 * b.m + 2) * scale
  let inside (d : Nat) : Bool :=
    (low < d * step && d * step < high) ||
      (b.m % 2 = 0 && (d * step = low || d * step = high))
  let below := value / step
  let above := below + 1
  let nearer :=
    if value - below * step < above * step - value then below
    else if above * step - value < value - below * step then above
    else if below % 2 = 0 then below else above
  match inside below, inside above with
  | true, true => some nearer
  | true, false => some below
  | false, true => some above
  | false, false => none

/-- The exponent of the leading digit of the double. -/
def leading (b : Binary) : Int :=
  leadingExponent (b.m * Nat.pow 2 b.q.toNat) (Nat.pow 2 (-b.q).toNat)

def shortest (b : Binary) : Scientific :=
  let attempt (places : Nat) : Option Scientific :=
    let k := b.leading + 1 - places
    (b.onGrid? k).map (⟨·, k⟩)
  ((List.range' 1 17).findSome? attempt).getD ⟨b.m, b.q⟩

end Binary

/-- Splits off the zeros at the end of the digits. -/
def Scientific.dropZeros (s : Scientific) : Scientific :=
  let zeros := ((Nat.toDigits 10 s.digits).reverse.takeWhile (· = '0')).length
  if s.digits = 0 then s else ⟨s.digits / Nat.pow 10 zeros, s.exponent + zeros⟩

/-- When a number is written with a power of ten, and how. -/
structure Layout where
  /-- The least position of the decimal point, counted from the first digit, without a power. -/
  leastPoint : Int
  /-- The greatest such position. -/
  greatestPoint : Int
  /-- What stands before a positive power. -/
  plus : String

namespace Layout

/-- Writes the digits with a point `point` places behind the first one. -/
def positional (digits : List Char) (point : Int) : String :=
  let length : Int := digits.length
  .ofList <|
    if length ≤ point then digits ++ List.replicate (point - length).toNat '0' ++ ['.', '0']
    else if 0 < point then digits.take point.toNat ++ '.' :: digits.drop point.toNat
    else '0' :: '.' :: List.replicate (-point).toNat '0' ++ digits

/-- Writes one digit before the point and a power of ten. -/
def exponential (l : Layout) (digits : List Char) (power : Int) : String :=
  let sign := if power < 0 then "-" else l.plus
  let fraction := match digits.drop 1 with
    | [] => []
    | rest => '.' :: rest
  .ofList (digits.take 1 ++ fraction) ++ "e" ++ sign ++ toString power.natAbs

def render (l : Layout) (s : Scientific) : String :=
  let digits := Nat.toDigits 10 s.digits
  let point := digits.length + s.exponent
  if l.leastPoint ≤ point ∧ point ≤ l.greatestPoint then positional digits point
  else l.exponential digits (point - 1)

end Layout

/-- Messages write a number positionally from `0.00001` up to but not including `1e+16`. -/
def messageLayout : Layout :=
  ⟨-4, 16, "+"⟩

/-- The text of a finite double in a message. -/
def floatText (x : Float) : String :=
  let size := match Binary.ofBits? x.toBits with
    | some b => messageLayout.render b.shortest.dropZeros
    | none => "0.0"
  if x.toBits >>> 63 = 1 then "-" ++ size else size

end InterlockLadder.Decimal
