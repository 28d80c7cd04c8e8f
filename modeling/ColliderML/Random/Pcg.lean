import ColliderML.Random.Seed

/-!
# A permuted congruential generator

The generator holds a 128-bit state that moves by a multiply and add modulo
`2^128`; its increment is odd. A 64-bit output is the state's two halves
xored together and rotated right by the state's top six bits, taken after the
step. A 32-bit output is the low half of a fresh 64-bit output, whose high
half is kept for the next 32-bit draw.

Seeded with a whole number, the generator takes eight words of state from
the seed's sequence: the first two 64-bit words make the start value and the
last two the increment (shifted up with a one below). From a zero state it
steps, adds the start value, and steps again.

A draw in `[0, m]` masks outputs to the bits of `m` and refuses those above
`m`; it draws 32-bit outputs when `m` fits in 32 bits. A draw in `[0, k)` for
`k` up to `2^32` multiplies a 32-bit output by `k` and keeps the high word,
refusing products whose low word falls under `(2^32 - k) mod k`, so that every
value has the same number of outputs. A permutation of `n`
positions swaps, from the last position down to the second, each position
with one drawn at or below it.
-/

namespace ColliderML

structure Pcg where
  /-- The 128-bit state. -/
  state : Nat
  /-- The odd increment. -/
  increment : Nat
  /-- The high half of the last 64-bit output, when a 32-bit draw left it. -/
  spare : Option UInt32 := none
  deriving Inhabited

namespace Pcg

def multiplier : Nat := 0x2360ED051FC65DA44385DF649FCCF645

def modulus : Nat := Nat.pow 2 128

def step (g : Pcg) : Pcg := { g with state := (g.state * multiplier + g.increment) % modulus }

def rotateRight (x : UInt64) (r : Nat) : UInt64 :=
  let k := (r % 64).toUInt64
  (x >>> k) ||| (x <<< ((64 - k) % 64))

def output (state : Nat) : UInt64 :=
  rotateRight ((state / Nat.pow 2 64) ^^^ state).toUInt64 (state / Nat.pow 2 122)

def next64 (g : Pcg) : UInt64 × Pcg :=
  let g := g.step
  (output g.state, g)

def next32 (g : Pcg) : UInt32 × Pcg :=
  match g.spare with
  | some v => (v, { g with spare := none })
  | none =>
    let (w, g) := g.next64
    (w.toUInt32, { g with spare := some (w >>> 32).toUInt32 })

def ofSeed (seed : Nat) : Pcg :=
  let w := (SeedSequence.stateWords seed 8).map UInt32.toNat
  let word := fun (i : Nat) => w.getD (2 * i) 0 + w.getD (2 * i + 1) 0 * Nat.pow 2 32
  let start := word 0 * Nat.pow 2 64 + word 1
  let increment := ((word 2 * Nat.pow 2 64 + word 3) * 2 + 1) % modulus
  let g : Pcg := { state := 0, increment }
  let g := g.step
  ({ g with state := (g.state + start) % modulus } : Pcg).step

def maskOf (m : Nat) : Nat := Nat.pow 2 (Nat.log2 m) * 2 - 1

/-- A draw in `[0, m]`, refusing masked outputs above `m`; `fuel` bounds the
refusals, each of which happens with chance below one half. -/
def boundedBy (fuel : Nat) (g : Pcg) (m : Nat) : Nat × Pcg :=
  if m = 0 then (0, g)
  else
    match fuel with
    | 0 => (m, g)
    | fuel + 1 =>
      let (v, g) := if m < Nat.pow 2 32 then
          let (v, g) := g.next32
          (v.toNat, g)
        else
          let (v, g) := g.next64
          (v.toNat, g)
      let v := v &&& maskOf m
      if v ≤ m then (v, g) else boundedBy fuel g m

def drawFuel : Nat := 4096

def below (g : Pcg) (m : Nat) : Nat × Pcg := boundedBy drawFuel g m

/-- A draw in `[0, k)` by multiplying a 32-bit output by `k`; `fuel` bounds the
refusals, each of which happens with chance below one half. -/
def scaledBelow (fuel : Nat) (g : Pcg) (k : Nat) : Nat × Pcg :=
  let (v, g) := g.next32
  let m := v.toNat * k
  match fuel with
  | 0 => (m / Nat.pow 2 32, g)
  | fuel + 1 =>
    if m % Nat.pow 2 32 < (Nat.pow 2 32 - k) % k then scaledBelow fuel g k else (m / Nat.pow 2 32, g)

def drawsBelow (g : Pcg) (k n : Nat) : Array Nat × Pcg :=
  (List.range n).foldl (fun (acc : Array Nat × Pcg) _ =>
    let (v, g) := scaledBelow drawFuel acc.2 k
    (acc.1.push v, g)) (#[], g)

def permutation (g : Pcg) (n : Nat) : Array Nat × Pcg :=
  (List.range n).reverse.foldl (fun (acc : Array Nat × Pcg) (i : Nat) =>
    if i = 0 then acc
    else
      let (j, g) := acc.2.below i
      (acc.1.swapIfInBounds i j, g)) ((List.range n).toArray, g)

end Pcg

end ColliderML
