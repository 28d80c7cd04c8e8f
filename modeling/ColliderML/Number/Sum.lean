/-!
# Pairwise sums

Arrays of numbers are summed in blocks, the way the array library does it, so
that sums carry the same rounding:

- fewer than eight numbers are added in order to zero;
- up to 128 numbers are dealt round-robin into eight running sums, which are
  then added as a balanced tree, and the numbers left over after the last
  full round of eight are added in order;
- longer arrays are split in two, the first part a multiple of eight numbers
  long and about half, and the sums of the parts are added.

Every addition is rounded by a given rounding, the identity for doubles and
rounding to single precision for singles.
-/

namespace ColliderML

namespace Number

def blockSum (round : Float → Float) (xs : Array Float) (start n : Nat) : Float :=
  let at_ := fun (i : Nat) => xs.getD (start + i) 0
  if n < 8 then (List.range n).foldl (fun acc i => round (acc + at_ i)) 0
  else
    let full := n - n % 8
    let lane := fun (j : Nat) =>
      ((List.range (full / 8)).drop 1).foldl (fun acc k => round (acc + at_ (8 * k + j))) (at_ j)
    let r := (List.range 8).map lane
    let g := fun (i : Nat) => r.getD i 0
    let tree := round (round (round (g 0 + g 1) + round (g 2 + g 3)) +
      round (round (g 4 + g 5) + round (g 6 + g 7)))
    (List.range (n - full)).foldl (fun acc i => round (acc + at_ (full + i))) tree

def pairwiseFrom (round : Float → Float) (xs : Array Float) (start n : Nat) : Float :=
  if n ≤ 128 then blockSum round xs start n
  else
    let half := n / 2 - (n / 2) % 8
    round (pairwiseFrom round xs start half + pairwiseFrom round xs (start + half) (n - half))
termination_by n
decreasing_by all_goals omega

def pairwiseSum (round : Float → Float) (xs : List Float) : Float :=
  pairwiseFrom round xs.toArray 0 xs.length

end Number

end ColliderML
