/-!
# Binary floating-point formats

A format is given by the widths of its exponent and fraction fields. Its words are read as exact
values, a significand times a power of two, and an exact value is written as the nearest word,
a tie going to the word with the even fraction. Single, half and brain precision are three formats
of this one description, and conversion between formats is reading followed by writing.

Within one format the words of non-negative values are ordered like the values, so rounding up past
the largest significand carries into the exponent field and past the largest exponent into infinity
(`magnitudeOf`). `nearestQuotient_bounds` states the rounding law.
-/
namespace GatherFusion

/-- The quotient nearest to `number / divisor`, the even one when two are equally near. -/
def nearestQuotient (number divisor : Nat) : Nat :=
  let quotient := number / divisor
  let remainder := number % divisor
  if divisor < 2 * remainder ∨ (divisor = 2 * remainder ∧ quotient % 2 = 1) then quotient + 1
  else quotient

/-- The nearest quotient is off by at most half a divisor, in either direction. -/
theorem nearestQuotient_bounds (number : Nat) {divisor : Nat} (positive : 0 < divisor) :
    2 * (divisor * nearestQuotient number divisor) ≤ 2 * number + divisor ∧
      2 * number ≤ 2 * (divisor * nearestQuotient number divisor) + divisor := by
  have parts := Nat.div_add_mod number divisor
  have below := Nat.mod_lt number positive
  unfold nearestQuotient
  dsimp only
  split
  · rw [Nat.mul_add]
    omega
  · omega

/-- The exact reading of a word, its sign apart. -/
inductive Magnitude where
  /-- Not a number; the fraction field is kept. -/
  | notANumber (fraction : Nat)
  /-- Infinity. -/
  | infinite
  /-- The value `significand * 2 ^ exponent`. -/
  | finite (significand : Nat) (exponent : Int)
  deriving DecidableEq, Repr

/-- Widths of the fields of a binary floating-point word: sign, exponent, fraction. -/
structure FloatFormat where
  /-- Width of the exponent field. -/
  exponentBits : Nat
  /-- Width of the fraction field. -/
  fractionBits : Nat
  deriving DecidableEq, Repr

namespace FloatFormat

/-- Single precision, 32 bits. -/
def single : FloatFormat := ⟨8, 23⟩

/-- Half precision, 16 bits. -/
def half : FloatFormat := ⟨5, 10⟩

/-- The upper half of a single precision word. -/
def brain : FloatFormat := ⟨8, 7⟩

/-- The weight of one unit of the fraction field of the smallest values, as a power of two. -/
def lowestExponent (format : FloatFormat) : Int :=
  2 - Int.ofNat (1 <<< (format.exponentBits - 1)) - Int.ofNat format.fractionBits

/-- The largest exponent field, which marks infinity and values that are not numbers. -/
def topField (format : FloatFormat) : Nat := 1 <<< format.exponentBits - 1

/-- The word of positive infinity. -/
def infinityWord (format : FloatFormat) : Nat := format.topField <<< format.fractionBits

/-- The value of the sign bit within a word. -/
def signWeight (format : FloatFormat) : Nat := 1 <<< (format.exponentBits + format.fractionBits)

/-- The sign of a word. -/
def negative (format : FloatFormat) (word : Nat) : Bool :=
  word.testBit (format.exponentBits + format.fractionBits)

/-- The exact value of a word, its sign apart. A zero exponent field has no hidden bit. -/
def magnitude (format : FloatFormat) (word : Nat) : Magnitude :=
  let fraction := word % (1 <<< format.fractionBits)
  let field := (word >>> format.fractionBits) % (1 <<< format.exponentBits)
  if field = format.topField then
    if fraction = 0 then .infinite else .notANumber fraction
  else if field = 0 then .finite fraction format.lowestExponent
  else
    .finite (1 <<< format.fractionBits + fraction) (format.lowestExponent + Int.ofNat (field - 1))

/-- The word nearest to `significand * 2 ^ exponent`. The last place kept is the one that leaves one
more significant bit than the fraction field holds, but never a place below the lowest. -/
def magnitudeOf (format : FloatFormat) (significand : Nat) (exponent : Int) : Nat :=
  if significand = 0 then 0
  else
    let leading := exponent + Int.ofNat significand.log2
    let place := max format.lowestExponent (leading - Int.ofNat format.fractionBits)
    let kept :=
      if place ≤ exponent then significand <<< (exponent - place).toNat
      else nearestQuotient significand (1 <<< (place - exponent).toNat)
    min format.infinityWord
      ((place - format.lowestExponent).toNat <<< format.fractionBits + kept)

/-- A fraction field of one format in the width of another: the leading bits line up, and surplus
low bits are dropped. -/
def alignFraction (source target : FloatFormat) (fraction : Nat) : Nat :=
  fraction <<< target.fractionBits >>> source.fractionBits

/-- The leading fraction bit, which marks a quiet value that is not a number. -/
def quietBit (format : FloatFormat) : Nat := 1 <<< (format.fractionBits - 1)

/-- Restate a word of one format as the nearest word of another. A value that is not a number
keeps the leading bits of its fraction and becomes quiet. -/
def convert (source target : FloatFormat) (word : Nat) : Nat :=
  let sign := if source.negative word then target.signWeight else 0
  sign + match source.magnitude word with
    | .notANumber fraction =>
      target.infinityWord + (target.quietBit ||| source.alignFraction target fraction)
    | .infinite => target.infinityWord
    | .finite significand exponent => target.magnitudeOf significand exponent

/-- The word nearest to an integer. -/
def ofInt (format : FloatFormat) (value : Int) : Nat :=
  (if value < 0 then format.signWeight else 0) + format.magnitudeOf value.natAbs 0

end FloatFormat

/-- A single precision value, held as its 32-bit word so that every word is told apart. -/
structure Single where
  /-- The word: sign, exponent and fraction, most significant first. -/
  word : UInt32
  deriving DecidableEq, Repr

namespace Single

/-- The value one. -/
def one : Single := ⟨0x3f800000⟩

/-- Read a word of another format. -/
def ofWord (source : FloatFormat) (word : Nat) : Single :=
  ⟨UInt32.ofNat (source.convert .single word)⟩

/-- The word of another format nearest to the value. -/
def toWord (value : Single) (target : FloatFormat) : Nat :=
  FloatFormat.single.convert target value.word.toNat

/-- The single precision value nearest to an integer. -/
def ofInt (value : Int) : Single := ⟨UInt32.ofNat (FloatFormat.single.ofInt value)⟩

end Single

end GatherFusion
