/-!
Contract: binary floating-point numbers of double width, as exact values.

A finite number is a sign, a mantissa below `2 ^ 53` and an exponent of two that is at least
`-1074`; the mantissa is at least `2 ^ 52` unless the exponent is the least one. `ofRatio` rounds
a quotient to the nearest such number, a tie to the even mantissa, and everything from the
half-way point above the largest number up to infinity.
-/

namespace SchemaDoc

inductive Double where
  | finite (negative : Bool) (mantissa : Nat) (exponent : Int)
  | infinite (negative : Bool)
  | undefined
deriving DecidableEq, Repr

namespace Double

/-- `2 ^ exponent` as a factor of the numerator. -/
private def upFactor (exponent : Int) : Nat := Nat.pow 2 exponent.toNat

/-- `2 ^ exponent` as a factor of the denominator. -/
private def downFactor (exponent : Int) : Nat := Nat.pow 2 (-exponent).toNat

/-- The quotient rounded to the nearest natural number, a tie to the even one. -/
def roundQuotient (numerator denominator : Nat) : Nat :=
  let quotient := numerator / denominator
  let twice := 2 * (numerator % denominator)
  if twice > denominator || (twice = denominator && quotient % 2 = 1) then quotient + 1
  else quotient

/-- The number nearest to a quotient. -/
def ofRatio (negative : Bool) (numerator denominator : Nat) : Double :=
  if numerator = 0 || denominator = 0 then .finite negative 0 (-1074)
  else
    let guess : Int := Int.ofNat numerator.log2 - Int.ofNat denominator.log2 - 52
    let small :=
      numerator * downFactor guess / (denominator * upFactor guess) < Nat.pow 2 52
    let exponent := max (-1074) (if small then guess - 1 else guess)
    let mantissa :=
      roundQuotient (numerator * downFactor exponent) (denominator * upFactor exponent)
    let (mantissa, exponent) :=
      if mantissa = Nat.pow 2 53 then (Nat.pow 2 52, exponent + 1) else (mantissa, exponent)
    if exponent > 971 then .infinite negative else .finite negative mantissa exponent

/-- The number nearest to `digits * 10 ^ power`. -/
def ofDecimal (negative : Bool) (digits : Nat) (power : Int) : Double :=
  let places := (Nat.toDigits 10 digits).length
  if digits = 0 then .finite negative 0 (-1074)
  else if power + Int.ofNat places > 400 then .infinite negative
  else if power + Int.ofNat places < -400 then .finite negative 0 (-1074)
  else ofRatio negative (digits * Nat.pow 10 power.toNat) (Nat.pow 10 (-power).toNat)

/-- The number nearest to an integer. -/
def ofInt : Int → Double
  | .ofNat value => ofRatio false value 1
  | .negSucc value => ofRatio true (value + 1) 1

/-- A quotient that is at least one is rounded to at least one. -/
private theorem roundQuotient_pos {numerator denominator : Nat} (positive : 0 < denominator)
    (below : denominator ≤ numerator) : 0 < roundQuotient numerator denominator := by
  have whole : 0 < numerator / denominator := Nat.div_pos below positive
  unfold roundQuotient
  dsimp only
  split <;> omega

/-- The power of two that an integer is measured in does not exceed it. -/
private theorem upFactor_le {value : Nat} {exponent : Int} (nonzero : value ≠ 0)
    (fits : exponent ≤ max (-1074) (Int.ofNat value.log2 - 52)) :
    upFactor exponent ≤ value * downFactor exponent := by
  by_cases isLow : exponent ≤ 0
  · have noFactor : upFactor exponent = 1 := by
      rw [upFactor, Int.toNat_of_nonpos isLow]
    have positive : 0 < downFactor exponent := Nat.pow_pos (by decide)
    rw [noFactor]
    exact Nat.mul_pos (Nat.pos_of_ne_zero nonzero) positive
  · have noDivisor : downFactor exponent = 1 := by
      rw [downFactor, Int.toNat_of_nonpos (by omega)]
    have inside : exponent.toNat ≤ value.log2 := by
      rw [Int.ofNat_eq_natCast] at fits
      omega
    rw [noDivisor, Nat.mul_one]
    exact Nat.le_trans (Nat.pow_le_pow_right (by decide) inside) (Nat.log2_self_le nonzero)

/-- An integer other than zero is not rounded to zero. -/
private theorem mantissa_ofRatio_pos {value : Nat} (nonzero : value ≠ 0) {sign negative : Bool}
    {mantissa : Nat} {exponent : Int}
    (rounded : ofRatio sign value 1 = .finite negative mantissa exponent) : 0 < mantissa := by
  unfold ofRatio at rounded
  rw [if_neg (by simpa using nonzero)] at rounded
  dsimp only at rounded
  generalize isExponent : max (-1074) _ = power at rounded
  have fits : power ≤ max (-1074) (Int.ofNat value.log2 - 52) := by
    subst isExponent
    have noLog : Nat.log2 1 = 0 := by decide
    simp only [noLog, Int.ofNat_eq_natCast]
    split <;> omega
  have positive : 0 < roundQuotient (value * downFactor power) (1 * upFactor power) := by
    rw [Nat.one_mul]
    exact roundQuotient_pos (Nat.pow_pos (by decide)) (upFactor_le nonzero fits)
  generalize isPair : (if _ = Nat.pow 2 53 then _ else _ : Nat × Int) = pair at rounded
  have pairPositive : 0 < pair.1 := by
    subst isPair
    split
    · exact Nat.pow_pos (by decide)
    · exact positive
  split at rounded
  · cases rounded
  · cases rounded
    exact pairPositive

/-- Zero alone is rounded to zero. -/
theorem mantissa_ofInt {value : Int} {negative : Bool} {mantissa : Nat} {exponent : Int}
    (rounded : ofInt value = .finite negative mantissa exponent) : mantissa = 0 ↔ value = 0 := by
  cases value with
  | ofNat size =>
      by_cases isZero : size = 0
      · subst isZero
        cases rounded
        decide
      · have positive : 0 < mantissa := mantissa_ofRatio_pos isZero rounded
        have nonzero : Int.ofNat size ≠ 0 := by simpa using isZero
        exact iff_of_false (Nat.ne_of_gt positive) nonzero
  | negSucc size =>
      have positive : 0 < mantissa := mantissa_ofRatio_pos (Nat.succ_ne_zero size) rounded
      exact iff_of_false (Nat.ne_of_gt positive) (Int.negSucc_ne_zero size)

/-- A numerator and a denominator of a finite number's size. -/
private def ratio (mantissa : Nat) (exponent : Int) : Nat × Nat :=
  (mantissa * upFactor exponent, downFactor exponent)

/-- The product with a natural number. -/
def scale (factor : Nat) : Double → Double
  | .finite negative mantissa exponent =>
    let (numerator, denominator) := ratio mantissa exponent
    ofRatio negative (numerator * factor) denominator
  | .infinite negative => if factor = 0 then .undefined else .infinite negative
  | .undefined => .undefined

/-- The sum of two numbers. -/
def add : Double → Double → Double
  | .finite n a e, .finite m b f =>
    let (top, bottom) := ratio a e
    let (upper, under) := ratio b f
    let signed (negative : Bool) (size : Nat) : Int := if negative then -size else size
    let total := signed n (top * under) + signed m (upper * bottom)
    ofRatio (if total = 0 then n && m else total < 0) total.natAbs (bottom * under)
  | .infinite n, .infinite m => if n = m then .infinite n else .undefined
  | .infinite n, .finite _ _ _ => .infinite n
  | .finite _ _ _, .infinite m => .infinite m
  | _, _ => .undefined

/-- The sum of numbers of the base sixty, the highest place first, added up from the lowest. -/
def sexagesimal (parts : List Double) : Double :=
  (parts.reverse.foldl
    (fun (total : Double × Nat) part => (add total.1 (scale total.2 part), total.2 * 60))
    (.finite false 0 (-1074), 1)).1

/-- The integer that a number equals, if it equals one. -/
def toInt? : Double → Option Int
  | .finite negative mantissa exponent =>
    let scaled := mantissa * upFactor exponent
    if scaled % downFactor exponent = 0 then
      let size := Int.ofNat (scaled / downFactor exponent)
      some (if negative then -size else size)
    else none
  | _ => none

/-- Digits of the shortest decimal that lies between `low` and `high` over `denominator`
(ends included when `closed`), and of two such the one nearer to `value`. The decimal has
`places` digits, its last one counts `10 ^ power`. -/
private def shortestAt (value low high denominator : Nat) (closed : Bool) (power : Int) :
    Option Nat :=
  let up := Nat.pow 10 power.toNat
  let down := Nat.pow 10 (-power).toNat
  let unit := denominator * up
  let below := value * down / unit
  let inside (grid : Nat) : Bool :=
    let place := grid * unit
    if closed then low * down ≤ place && place ≤ high * down
    else low * down < place && place < high * down
  let above := below + 1
  match inside below, inside above with
  | true, true =>
    let under := value * down - below * unit
    let beyond := above * unit - value * down
    if under < beyond || (under = beyond && below % 2 = 0) then some below else some above
  | true, false => some below
  | false, true => some above
  | false, false => none

private def shortestFrom (value low high denominator : Nat) (closed : Bool) (top : Int) :
    (left places : Nat) → Nat × Int
  | 0, places => (value / denominator, top - Int.ofNat places)
  | left + 1, places =>
    let power := top + 1 - Int.ofNat places
    match shortestAt value low high denominator closed power with
    | some grid => (grid, power)
    | none => shortestFrom value low high denominator closed top left (places + 1)

/-- The largest power of ten that is at most the quotient; `fuel` bounds the search. -/
private def decimalTop (numerator denominator : Nat) : Int :=
  let quotient := numerator / denominator
  if quotient > 0 then Int.ofNat ((Nat.toDigits 10 quotient).length - 1)
  else
    let inverse := (denominator + numerator - 1) / numerator
    Int.negOfNat (Nat.toDigits 10 (inverse - 1)).length

/-- Digits without zeros at the end, and the power of ten of the last one. -/
private def stripZeros : (fuel digits : Nat) → Int → Nat × Int
  | 0, digits, power => (digits, power)
  | fuel + 1, digits, power =>
    if digits % 10 = 0 && digits != 0 then stripZeros fuel (digits / 10) (power + 1)
    else (digits, power)

/-- The fewest decimal digits that read back as the number, and the power of ten of the last
one. -/
def shortest (mantissa : Nat) (exponent : Int) : Nat × Int :=
  if mantissa = 0 then (0, 0)
  else
    let scale := upFactor exponent
    let denominator := 4 * downFactor exponent
    let value := 4 * mantissa * scale
    let gap := if mantissa = Nat.pow 2 52 && exponent > -1074 then scale else 2 * scale
    let top := decimalTop value denominator
    let (digits, power) :=
      shortestFrom value (value - gap) (value + 2 * scale) denominator (mantissa % 2 == 0) top
        17 1
    stripZeros 400 digits power

/-- The decimal text of a finite number: positional from `0.0001` to below `10 ^ 16`, otherwise
with an exponent of at least two digits; a positional integer ends in `.0`. -/
def render : Double → List Char
  | .undefined => "nan".toList
  | .infinite negative => if negative then "-inf".toList else "inf".toList
  | .finite negative mantissa exponent =>
    let (number, power) := shortest mantissa exponent
    let digits := Nat.toDigits 10 number
    let count := Int.ofNat digits.length
    let lead := power + count - 1
    let body : List Char :=
      if -4 ≤ lead && lead < 16 then
        if power ≥ 0 then digits ++ List.replicate power.toNat '0' ++ ['.', '0']
        else if lead ≥ 0 then
          digits.take (lead.toNat + 1) ++ '.' :: digits.drop (lead.toNat + 1)
        else '0' :: '.' :: List.replicate (-lead - 1).toNat '0' ++ digits
      else
        let tail := digits.drop 1
        let mark := if lead < 0 then '-' else '+'
        let size := Nat.toDigits 10 lead.natAbs
        digits.take 1 ++ (if tail.isEmpty then [] else '.' :: tail) ++ 'e' :: mark ::
          (if size.length < 2 then '0' :: size else size)
    if negative then '-' :: body else body

end Double

end SchemaDoc
