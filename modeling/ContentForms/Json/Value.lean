namespace ContentForms

-- The number `mantissa * 2 ^ exponent`, with a sign.
structure Double where
  negative : Bool
  mantissa : Nat
  exponent : Int
  deriving DecidableEq, Repr

namespace Double

def leastExponent : Int := -1074

def greatestExponent : Int := 971

def mantissaBound : Nat := Nat.pow 2 53

-- A quotient rounded to the nearest whole number, a half to the even neighbour.
def roundDiv (num den : Nat) : Nat :=
  let quotient := num / den
  let twice := 2 * (num % den)
  if twice > den || (twice == den && quotient % 2 == 1) then quotient + 1 else quotient

-- `num / den * 2 ^ (-exponent)` as a quotient of whole numbers, rounded.
def scaled (num den : Nat) (exponent : Int) : Nat :=
  if exponent ≥ 0 then roundDiv num (den * Nat.pow 2 exponent.toNat)
  else roundDiv (num * Nat.pow 2 (-exponent).toNat) den

-- The nearest double to a quotient; `none` if that is beyond the greatest one.
def ofQuotient? (negative : Bool) (num den : Nat) : Option Double :=
  if num = 0 then some ⟨negative, 0, leastExponent⟩
  else
    let guess : Int := (Nat.log2 num : Int) - (Nat.log2 den : Int) - 53
    let fits (exponent : Int) : Bool := scaled num den exponent < mantissaBound
    let start := max guess leastExponent
    let exponent := if fits start then start else if fits (start + 1) then start + 1 else start + 2
    let mantissa := scaled num den exponent
    if exponent > greatestExponent then none else some ⟨negative, mantissa, exponent⟩

-- The value of a decimal literal with its digits taken as a whole number.
def ofDecimal? (negative : Bool) (digits : Nat) (exponent : Int) : Option Double :=
  if exponent ≥ 0 then
    if digits ≠ 0 ∧ exponent > 400 then none
    else ofQuotient? negative (digits * Nat.pow 10 exponent.toNat) 1
  else ofQuotient? negative digits (Nat.pow 10 (-exponent).toNat)

def quotient (value : Double) : Nat × Nat :=
  if value.exponent ≥ 0 then (value.mantissa * Nat.pow 2 value.exponent.toNat, 1)
  else (value.mantissa, Nat.pow 2 (-value.exponent).toNat)

-- The whole number that a double equals, if it equals one.
def toInt? (value : Double) : Option Int :=
  let (num, den) := value.quotient
  if num % den = 0 then
    some (if value.negative then -((num / den : Nat) : Int) else ((num / den : Nat) : Int))
  else none

-- The ends of the interval of numbers that are read as `value`, over the denominator `4 * den`.
def bounds (value : Double) : Nat × Nat :=
  let (unit, _) := Double.quotient { value with mantissa := 1 }
  let centre := 4 * value.mantissa * unit
  let below := if value.mantissa = mantissaBound / 2 ∧ value.exponent > leastExponent
    then unit else 2 * unit
  (centre - below, centre + 2 * unit)

-- Whether `digits * 10 ^ power` is read as `value`.
def readsBack (value : Double) (digits : Nat) (power : Int) : Bool :=
  let (_, den) := value.quotient
  let (low, high) := value.bounds
  let (num, den') : Nat × Nat :=
    if power ≥ 0 then (digits * Nat.pow 10 power.toNat, 1) else (digits, Nat.pow 10 (-power).toNat)
  let point := num * 4 * den
  if value.mantissa % 2 = 0 then low * den' ≤ point && point ≤ high * den'
  else low * den' < point && point < high * den'

-- The distance of `digits * 10 ^ power` from `value`, times a factor that depends on `power` only.
def distance (value : Double) (digits : Nat) (power : Int) : Nat :=
  let (num, den) := value.quotient
  let (num', den') : Nat × Nat :=
    if power ≥ 0 then (digits * Nat.pow 10 power.toNat, 1) else (digits, Nat.pow 10 (-power).toNat)
  let a := num * den'
  let b := num' * den
  if a ≥ b then a - b else b - a

-- The place of the first decimal digit: the value lies between `10 ^ place` and `10 ^ (place + 1)`.
def firstPlace (value : Double) : Int :=
  let (num, den) := value.quotient
  if num ≥ den then ((Nat.toDigits 10 (num / den)).length : Int) - 1
  else
    -((List.range 400).find? fun k => num * Nat.pow 10 k ≥ den).getD 0

-- The shortest digits that read back, trying one digit more each time.
def shortestFrom (value : Double) (count : Nat) : Nat → Nat × Int
  | 0 => (0, 0)
  | tries + 1 =>
      let power := value.firstPlace - (count : Int) + 1
      let (num, den) := value.quotient
      let floor := if power ≥ 0 then num / (den * Nat.pow 10 power.toNat)
        else num * Nat.pow 10 (-power).toNat / den
      match value.readsBack floor power, value.readsBack (floor + 1) power with
      | true, true =>
          if value.distance floor power ≤ value.distance (floor + 1) power
          then (floor, power) else (floor + 1, power)
      | true, false => (floor, power)
      | false, true => (floor + 1, power)
      | false, false => shortestFrom value (count + 1) tries

-- Digits and the power of ten that the last of them stands for.
def shortest (value : Double) : Nat × Int := shortestFrom value 1 18

-- The text of a double: positional from `0.0001` up to sixteen digits, with an exponent of at least
-- two digits beyond.
def toText (value : Double) : String :=
  let sign := if value.negative then "-" else ""
  if value.mantissa = 0 then sign ++ "0.0"
  else
    let (number, power) := value.shortest
    let digits := Nat.toDigits 10 number
    let digits := (digits.reverse.dropWhile (· == '0')).reverse
    let point : Int := ((Nat.toDigits 10 number).length : Int) + power
    let body : List Char :=
      if -4 < point ∧ point ≤ 16 then
        if point ≤ 0 then '0' :: '.' :: List.replicate (-point).toNat '0' ++ digits
        else
          let whole := digits.take point.toNat
          let part := digits.drop point.toNat
          whole ++ List.replicate (point.toNat - whole.length) '0' ++ '.' ::
            (if part.isEmpty then ['0'] else part)
      else
        let shown := (point - 1).natAbs
        let places := Nat.toDigits 10 shown
        digits.take 1 ++ (if digits.length > 1 then '.' :: digits.drop 1 else []) ++
          ['e', if point - 1 < 0 then '-' else '+'] ++
          (if places.length < 2 then '0' :: places else places)
    sign ++ String.ofList body

end Double

inductive Json where
  | null
  | bool (value : Bool)
  | int (value : Int)
  | real (value : Double)
  | string (text : String)
  | array (items : List Json)
  | object (members : List (String × Json))
  deriving Inhabited

namespace Json

def member? (name : String) : Json → Option Json
  | object members => members.lookup name
  | _ => none

def ofNat (n : Nat) : Json := int n

end Json

end ContentForms
