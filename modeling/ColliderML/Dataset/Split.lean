import ColliderML.Random.Pcg
import ColliderML.Tensor.Index

/-!
# Splitting rows into training and test rows

Rows are split by a seeded shuffle: the generator seeded with the seed
permutes the positions of the rows, and the first `⌊n · (1 - t)⌋` of the
permuted positions (cut toward zero, and counted from the end when negative,
as a slice does) are for training and the others for testing, `t` being the
share of test rows. Samples and targets are split by the same positions; the
number of rows is that of the samples.
-/

namespace ColliderML

namespace Split

def positions (seed n : Nat) (testShare : Float) : List Nat × List Nat :=
  let order := ((Pcg.ofSeed seed).permutation n).1
  let k := Scalar.truncate (Float.ofNat n * (1 - testShare))
  let pick := fun (ps : List Nat) => ps.map (fun i => order.getD i 0)
  (pick (sliceRange n none (some k)), pick (sliceRange n (some k) none))

structure Halves where
  trainSamples : Tensor
  testSamples : Tensor
  trainTargets : Tensor
  testTargets : Tensor

def halves (seed : Int) (samples targets : Tensor) (testShare : Float) : Outcome Halves := do
  if seed < 0 then throw (.other .badValue "expected non-negative integer")
  if samples.ndim == 0 then throw (.other .badType "len() of unsized object")
  let (train, test) := positions seed.toNat samples.length testShare
  pure { trainSamples := ← samples.takeRows train, testSamples := ← samples.takeRows test,
         trainTargets := ← targets.takeRows train, testTargets := ← targets.takeRows test }

end Split

end ColliderML
