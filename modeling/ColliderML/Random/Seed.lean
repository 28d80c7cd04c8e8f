/-!
# Seed sequences

A seed sequence spreads a whole-number seed over a pool of four 32-bit
words, from which any number of well-mixed words of state are drawn.

The seed is cut into 32-bit words, least significant first; the seed zero is
the single word zero. Each of the first four words (zero when the seed is
shorter) is hashed into the pool with a running hash constant. Then every
pool word is mixed with the hash of every other pool word, in order, and the
seed words beyond the fourth are each mixed into every pool word. Words of
state are then drawn from the pool in turn, each hashed with a second running
constant. All arithmetic is on 32-bit words and wraps.
-/

namespace ColliderML

namespace SeedSequence

def hashStart : UInt32 := 0x43b0d7e5

def hashStep : UInt32 := 0x931e8875

def drawStart : UInt32 := 0x8b51f9dd

def drawStep : UInt32 := 0x58f38ded

def mixLeft : UInt32 := 0xca01f9dd

def mixRight : UInt32 := 0x4973f715

def wordsOf : Nat → List UInt32
  | 0 => []
  | n + 1 => ((n + 1) % Nat.pow 2 32).toUInt32 :: wordsOf ((n + 1) / Nat.pow 2 32)
decreasing_by exact Nat.div_lt_self (Nat.succ_pos n) (by decide)

def entropy (seed : Nat) : List UInt32 :=
  match wordsOf seed with
  | [] => [0]
  | ws => ws

def fold (v : UInt32) : UInt32 := v ^^^ (v >>> 16)

/-- Hashes a word with the running constant, which then moves on by its
factor: the hash and the next constant. -/
def hash (factor : UInt32) (v constant : UInt32) : UInt32 × UInt32 :=
  let next := constant * factor
  (fold ((v ^^^ constant) * next), next)

def mix (x y : UInt32) : UInt32 := fold (mixLeft * x - mixRight * y)

/-- Mixes a hashed word into every word of the pool but the one at a skipped
position, in order: the pool and the constant after. -/
def mixInto (pool : List UInt32) (constant : UInt32) (source : Nat → List UInt32 → UInt32)
    (skip : Option Nat) : List UInt32 × UInt32 :=
  (List.range 4).foldl (fun (acc : List UInt32 × UInt32) (d : Nat) =>
    if skip == some d then acc
    else
      let (h, c) := hash hashStep (source d acc.1) acc.2
      (acc.1.set d (mix (acc.1.getD d 0) h), c)) (pool, constant)

def pool (words : List UInt32) : List UInt32 :=
  let (start, c) := (List.range 4).foldl (fun (acc : List UInt32 × UInt32) (i : Nat) =>
    let (h, c) := hash hashStep (words.getD i 0) acc.2
    (acc.1 ++ [h], c)) ([], hashStart)
  let (crossed, c) := (List.range 4).foldl (fun (acc : List UInt32 × UInt32) (s : Nat) =>
    mixInto acc.1 acc.2 (fun _ p => p.getD s 0) (some s)) (start, c)
  ((words.drop 4).foldl (fun (acc : List UInt32 × UInt32) (w : UInt32) =>
    mixInto acc.1 acc.2 (fun _ _ => w) none) (crossed, c)).1

def draw (pool : List UInt32) (n : Nat) : List UInt32 :=
  ((List.range n).foldl (fun (acc : List UInt32 × UInt32) (i : Nat) =>
    let (h, c) := hash drawStep (pool.getD (i % 4) 0) acc.2
    (acc.1 ++ [h], c)) ([], drawStart)).1

def stateWords (seed n : Nat) : List UInt32 := draw (pool (entropy seed)) n

end SeedSequence

end ColliderML
