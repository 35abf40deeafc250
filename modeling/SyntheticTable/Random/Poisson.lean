import SyntheticTable.Random.Distribution
import SyntheticTable.Random.Uniform

/-!
# Poisson draws

A Poisson number by rejection from a Lorentzian, for means of twelve or more.
-/

namespace SyntheticTable

/-- The coefficients of the series behind `logGamma`. -/
def logGammaCoefficients : List Float :=
  [76.18009172947146, -86.50532032941677, 24.01409824083091,
    -1.231739572450155, 0.1208650973866179e-2, -0.5395239384953e-5]

/-- The logarithm of the gamma function. -/
def logGamma (argument : Float) : Float :=
  let shifted := argument + 5.5
  let main := (argument + 0.5) * shifted.log - shifted
  let (_, series) :=
    logGammaCoefficients.foldl
      (fun (denominator, series) coefficient =>
        (denominator + 1, series + coefficient / (denominator + 1)))
      (argument, 1.000000000190015)
  main + (2.5066282746310005 * series / argument).log

/-- The ratio of the circumference of a circle to its diameter. -/
def circleRatio : Float := 3.14159265358979323846

/-- A Poisson distribution. -/
structure Poisson where
  mean : Double

namespace Poisson

/-- The distribution of a mean, which has to be greater than zero. -/
def ofMean (mean : Double) : Except DistributionFault Poisson :=
  if mean.isPositive then .ok ⟨mean⟩ else .error .poisson

/-- Draws a number. -/
def draw (poisson : Poisson) : Draw Float :=
  let mean := poisson.mean.toFloat
  let logMean := mean.log
  let width := (2 * mean).sqrt
  let constant := mean * logMean - logGamma (1 + mean)
  Draw.accepted
    (do
      let slope := (circleRatio * (← Draw.fraction)).tan
      let place := width * slope + mean
      if 0 ≤ place then
        let result := place.floor
        let threshold :=
          0.9 * (1 + slope * slope)
            * (result * logMean - logGamma (1 + result) - constant).exp
        if (← Draw.fraction) ≤ threshold then
          return some result
        else
          return none
      else
        return none)
    0

end Poisson

end SyntheticTable
