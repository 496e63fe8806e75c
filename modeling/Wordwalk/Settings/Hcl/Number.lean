/-! Numbers of HCL: binary fractions of a fixed number of bits, most of them 512, rounded to the
nearest and on a tie to the even neighbour, and the two infinities. -/
namespace Wordwalk.Settings.Hcl

/-- A mantissa times a power of two with a sign, which a zero has too, and the number of bits that
its mantissa is rounded to. -/
inductive Number where
  | finite (negative : Bool) (mantissa : Nat) (exponent : Int) (bits : Nat)
  | infinite (negative : Bool)

namespace Number

def bitLength (n : Nat) : Nat := if n = 0 then 0 else n.log2 + 1

/-- The number nearest to a mantissa times a power of two. -/
def round (bits : Nat) (negative : Bool) (m : Nat) (e : Int) : Number :=
  let excess := bitLength m - bits
  if excess = 0 then .finite negative m e bits
  else
    let q := m >>> excess
    let r := m % Nat.pow 2 excess
    let half := Nat.pow 2 (excess - 1)
    let q := if half < r ∨ (r = half ∧ q % 2 = 1) then q + 1 else q
    .finite negative q (e + excess) bits

/-- The number nearest to a quotient of which the divisor is not zero. Two bits more than kept and
one that tells of a remainder decide the rounding. -/
def roundQuotient (bits : Nat) (negative : Bool) (m d : Nat) (e : Int) : Number :=
  let shift := bits + 2 + bitLength d - bitLength m
  let scaled := m <<< shift
  let rest := if scaled % d = 0 then 0 else 1
  round bits negative (scaled / d * 2 + rest) (e - shift - 1)

/-- The precision of numbers that are written out. -/
def precision : Nat := 512

def ofNat (n : Nat) : Number := .finite false n 0 64

/-- The sum of two finite numbers, each a sign, a mantissa and an exponent. -/
def addFinite (bits : Nat) (s₁ : Bool) (m₁ : Nat) (e₁ : Int) (s₂ : Bool) (m₂ : Nat) (e₂ : Int) :
    Number :=
  let e := min e₁ e₂
  let a := m₁ <<< (e₁ - e).toNat
  let b := m₂ <<< (e₂ - e).toNat
  if s₁ = s₂ then round bits s₁ (a + b) e
  else if a = b then .finite false 0 0 bits
  else if b < a then round bits s₁ (a - b) e
  else round bits s₂ (b - a) e

/-- The sum; of opposite infinities there is none. -/
def add : Number → Number → Option Number
  | .finite s₁ m₁ e₁ p₁, .finite s₂ m₂ e₂ p₂ => some (addFinite (max p₁ p₂) s₁ m₁ e₁ s₂ m₂ e₂)
  | .infinite s, .infinite t => if s = t then some (.infinite s) else none
  | .infinite s, _ => some (.infinite s)
  | _, .infinite s => some (.infinite s)

def neg : Number → Number
  | .finite s m e p => .finite (!s) m e p
  | .infinite s => .infinite !s

def sub (x y : Number) : Option Number := add x y.neg

/-- A number without the zeros at the end of its mantissa. -/
def trimZeros : (fuel : Nat) → Nat → Nat
  | 0, m => m
  | fuel + 1, m => if m ≠ 0 ∧ m % 2 = 0 then trimZeros fuel (m / 2) else m

/-- The product keeps as many bits as it needs, up to 512; of zero and an infinity there is none. -/
def mul : Number → Number → Option Number
  | .finite s₁ m₁ e₁ p₁, .finite s₂ m₂ e₂ p₂ =>
    match round precision (s₁ != s₂) (m₁ * m₂) (e₁ + e₂) with
    | .finite s m e _ =>
      some (.finite s m e (max (max p₁ p₂) (bitLength (trimZeros (bitLength m) m))))
    | x => some x
  | .infinite s, .finite t m _ _ => if m = 0 then none else some (.infinite (s != t))
  | .finite t m _ _, .infinite s => if m = 0 then none else some (.infinite (s != t))
  | .infinite s, .infinite t => some (.infinite (s != t))

/-- The quotient: infinite by zero, and none of two zeros or two infinities. -/
def div : Number → Number → Option Number
  | .finite s₁ m₁ e₁ p₁, .finite s₂ m₂ e₂ p₂ =>
    if m₂ = 0 then
      if m₁ = 0 then none else some (.infinite (s₁ != s₂))
    else if m₁ = 0 then some (.finite (s₁ != s₂) 0 0 (max p₁ p₂))
    else some (roundQuotient (max p₁ p₂) (s₁ != s₂) m₁ m₂ (e₁ - e₂))
  | .infinite _, .infinite _ => none
  | .infinite s, .finite t _ _ _ => some (.infinite (s != t))
  | .finite s _ _ p, .infinite t => some (.finite (s != t) 0 0 p)

/-- The whole part of a mantissa times a power of two. -/
def whole (m : Nat) (e : Int) : Nat := if 0 ≤ e then m <<< e.toNat else m >>> (-e).toNat

/-- The remainder that has the sign of the dividend. By zero it is the dividend. The multiple that
is taken off, and what is left, have no more bits than the whole quotient, but at least 64. -/
def mod (x y : Number) : Option Number :=
  match x, y with
  | .finite s₁ m₁ e₁ _, .finite s₂ m₂ e₂ _ =>
    if m₂ = 0 then some x
    else
      match div x y with
      | some (.finite s m e _) =>
        let times := whole m e
        let bits := max 64 (bitLength times)
        match round bits (s != s₂) (times * m₂) e₂ with
        | .finite s' m' e' _ => some (addFinite bits s₁ m₁ e₁ (!s') m' e')
        | .infinite _ => none
      | _ => none
  | .infinite _, .finite _ _ _ _ => some x
  | _, .infinite _ => none

/-- Three-way comparison: the sign of the difference. -/
def compare : Number → Number → Ordering
  | .infinite s, .infinite t => if s = t then .eq else if s then .lt else .gt
  | .infinite s, _ => if s then .lt else .gt
  | _, .infinite s => if s then .gt else .lt
  | .finite s₁ m₁ e₁ _, .finite s₂ m₂ e₂ _ =>
    match addFinite (bitLength m₁ + bitLength m₂ + (e₁ - e₂).natAbs + 2) s₁ m₁ e₁ (!s₂) m₂ e₂ with
    | .finite s m _ _ => if m = 0 then .eq else if s then .lt else .gt
    | .infinite _ => .eq

/-- The number as an index, if it is whole and not negative. -/
def index? : Number → Option Nat
  | .finite s m e _ =>
    if m = 0 then some 0
    else if s then none
    else if 0 ≤ e then if e ≤ 64 then some (m <<< e.toNat) else none
    else if m % Nat.pow 2 (-e).toNat = 0 then some (m >>> (-e).toNat)
    else none
  | .infinite _ => none

/-- The number that decimal digits spell. -/
def digitsValue (ds : List Char) : Nat := ds.foldl (fun n d => n * 10 + (d.toNat - 0x30)) 0

/-- A sign and decimal digits. -/
def signedDigits? (s : List Char) : Option Int :=
  let (negative, ds) :=
    match s with
    | '-' :: s => (true, s)
    | '+' :: s => (false, s)
    | s => (false, s)
  if ds.isEmpty || !ds.all Char.isDigit then none
  else some (if negative then -(digitsValue ds : Int) else digitsValue ds)

/-- A number without its sign: digits with a point, then an exponent of ten after `e` or of two
after `p`. The exponent is at most 100000. -/
def parseUnsigned (negative : Bool) (s : List Char) : Option Number := do
  let units := s.takeWhile Char.isDigit
  let s := s.drop units.length
  let (fraction, s) :=
    match s with
    | '.' :: s => (s.takeWhile Char.isDigit, s.dropWhile Char.isDigit)
    | s => ([], s)
  guard (!(units.isEmpty && fraction.isEmpty))
  let (ten, two) ←
    match s with
    | [] => some ((0 : Int), (0 : Int))
    | c :: s => do
      let n ← signedDigits? s
      if c = 'e' ∨ c = 'E' then some (n, 0)
      else if c = 'p' ∨ c = 'P' then some (0, n)
      else none
  guard (ten.natAbs ≤ 100000 ∧ two.natAbs ≤ 100000)
  let m := digitsValue (units ++ fraction)
  let ten := ten - fraction.length
  if m = 0 then some (.finite negative 0 0 precision)
  else if 0 ≤ ten then some (round precision negative (m * Nat.pow 10 ten.toNat) two)
  else some (roundQuotient precision negative m (Nat.pow 10 (-ten).toNat) two)

/-- The number that a text spells. -/
def parse? (s : List Char) : Option Number :=
  let (negative, rest) :=
    match s with
    | '-' :: s => (true, s)
    | '+' :: s => (false, s)
    | s => (false, s)
  if rest = ['I', 'n', 'f'] ∨ rest = ['i', 'n', 'f'] then some (.infinite negative)
  else parseUnsigned negative rest

/-- A positive decimal fraction: its digits, the last of which is not zero, and how many of them
stand before the point. -/
structure Decimal where
  digits : List Nat
  point : Int

namespace Decimal

def trim (digits : List Nat) : List Nat := (digits.reverse.dropWhile (· == 0)).reverse

/-- A mantissa times a power of two in full. -/
def ofBinary (m : Nat) (e : Int) : Decimal :=
  let n := if 0 ≤ e then m <<< e.toNat else m * Nat.pow 5 (-e).toNat
  let digits := (Nat.toDigits 10 n).map fun c => c.toNat - 0x30
  if m = 0 then ⟨[], 0⟩ else ⟨trim digits, digits.length + min e 0⟩

/-- The digit at a place, zero beyond the last one. -/
def digit (d : Decimal) (i : Nat) : Nat := d.digits[i]?.getD 0

/-- The first `n` digits. -/
def down (d : Decimal) (n : Nat) : Decimal := { d with digits := trim (d.digits.take n) }

/-- The first `n` digits with the last of them one higher. -/
def up (d : Decimal) (n : Nat) : Decimal :=
  match (d.digits.take n).reverse.dropWhile (· == 9) with
  | [] => ⟨[1], d.point + 1⟩
  | last :: before => { d with digits := ((last + 1) :: before).reverse }

/-- The first `n` digits of the nearest decimal of that length, on a tie the even one. -/
def nearest (d : Decimal) (n : Nat) : Decimal :=
  if d.digits.length ≤ n then d
  else if d.digit n = 5 ∧ n + 1 = d.digits.length then
    if 0 < n ∧ d.digit (n - 1) % 2 = 1 then d.up n else d.down n
  else if 5 ≤ d.digit n then d.up n
  else d.down n

/-- The shortest decimal between two bounds, from the first place at which one can be told apart
from a bound. The bounds themselves count if `inclusive`. -/
def shortenFrom (d lower upper : Decimal) (inclusive : Bool) : (places : Nat) → (i : Nat) → Decimal
  | 0, _ => d
  | places + 1, i =>
    let m := d.digit i
    let okDown := lower.digit i ≠ m ∨ (inclusive ∧ i + 1 = lower.digits.length)
    let okUp := m ≠ upper.digit i ∧
      (inclusive ∨ m + 1 < upper.digit i ∨ i + 1 < upper.digits.length)
    if okDown ∧ okUp then d.nearest (i + 1)
    else if okDown then if d.digits.length ≤ i + 1 then d else d.down (i + 1)
    else if okUp then if d.digits.length ≤ i + 1 then d else d.up (i + 1)
    else shortenFrom d lower upper inclusive places (i + 1)

/-- The digits without an exponent. -/
def text (d : Decimal) : List Char :=
  let written (n : Nat) : Char := Char.ofNat (n + 0x30)
  let units :=
    if d.point ≤ 0 then ['0'] else (List.range d.point.toNat).map fun i => written (d.digit i)
  let places := ((d.digits.length : Int) - d.point).toNat
  if places = 0 then units
  else
    let leading := min places (-d.point).toNat
    units ++ '.' :: (List.replicate leading '0' ++
      (d.digits.drop d.point.toNat).map written)

end Decimal

/-- The shortest decimal that is nearer to the number than to any other of its precision. -/
def text : Number → List Char
  | .infinite negative => if negative then "-Inf".toList else "+Inf".toList
  | .finite negative m e bits =>
    let sign := if negative then ['-'] else []
    if m = 0 then sign ++ ['0']
    else
      let shift : Int := (bits + 1 : Int) - bitLength m
      let wide := if 0 ≤ shift then m <<< shift.toNat else m >>> (-shift).toNat
      let lower := Decimal.ofBinary (wide - 1) (e - shift)
      let upper := Decimal.ofBinary (wide + 1) (e - shift)
      let d := Decimal.ofBinary m e
      sign ++ (d.shortenFrom lower upper (wide / 2 % 2 == 0) d.digits.length 0).text

end Number
end Wordwalk.Settings.Hcl
