import DacBank.Error
import DacBank.Numeric.Rounding

namespace DacBank

namespace Range
open Numeric

/-- The least fraction that is rounded: one ten-thousandth, as a number of 53 binary digits. -/
def roundingThreshold : Rat :=
  round53 (mkRat 1 10000)

/-- The point of the line through `(inLow, outLow)` and `(inHigh, outHigh)` above `value`, in exact
arithmetic with `round53` after the product, the quotient and each sum. -/
def onLine (inLow inHigh outLow outHigh value : Int) : Rat :=
  let rise := round53 (((value - inLow) * (outHigh - outLow) : Int) : Rat)
  let share := round53 (rise / ((inHigh - inLow : Int) : Rat))
  round53 (share + (outLow : Rat))

/-- A point far enough above its integer part is moved up by a half before the fraction is dropped.
-/
def toInteger (x : Rat) : Int32 :=
  if roundingThreshold < round53 (x - (truncate x : Rat))
  then saturate (truncate (round53 (x + 1 / 2)))
  else saturate (truncate x)

/-- Maps a value of one range to another. Either range may run downward; only the input's ends
bound the value. -/
def convert (inLow inHigh outLow outHigh value : Int32) : Except SettingError Int32 :=
  let low := if inHigh < inLow then inHigh else inLow
  let high := if inHigh < inLow then inLow else inHigh
  if value < low ∨ high < value then
    .error (.valueOutOfRange value low high)
  else if inLow = inHigh then
    .error (.invalidConverter (.emptyInput inLow inHigh))
  else
    .ok (toInteger (onLine inLow.toInt inHigh.toInt outLow.toInt outHigh.toInt value.toInt))

end Range

/-- A chip's number of steps and the voltages of its first and last one. -/
structure Converter where
  lowMillivolt : Int32
  highMillivolt : Int32
  steps : Int32
  deriving DecidableEq

namespace Converter

def make (lowMillivolt highMillivolt steps : Int32) : Except SettingError Converter :=
  if steps < 2 then .error (.invalidConverter (.tooFewSteps steps))
  else if highMillivolt ≤ lowMillivolt then
    .error (.invalidConverter (.invertedVoltages lowMillivolt highMillivolt))
  else .ok ⟨lowMillivolt, highMillivolt, steps⟩

/-- The twelve-bit chip whose output starts at 0 mV. -/
def ltc2620 (highMillivolt : Int32) : Except SettingError Converter :=
  make 0 highMillivolt 4096

/-- The twelve-bit chip as Mythen3 boards carry it. -/
def mythen3 : Converter :=
  ⟨0, 2048, 4096⟩

def maxStep (c : Converter) : Int32 :=
  c.steps - 1

def toMillivolt (c : Converter) (step : Int32) : Except SettingError Int32 :=
  Range.convert 0 c.maxStep c.lowMillivolt c.highMillivolt step

def toStep (c : Converter) (millivolt : Int32) : Except SettingError Int32 :=
  Range.convert c.lowMillivolt c.highMillivolt 0 c.maxStep millivolt

def inspect (c : Converter) : String :=
  "DacConverter \x7b min_mv: " ++ Text.decimal c.lowMillivolt.toInt ++
    ", max_mv: " ++ Text.decimal c.highMillivolt.toInt ++
    ", steps: " ++ Text.decimal c.steps.toInt ++ " \x7d"

end Converter

end DacBank
