import ColliderML.Text.Word
import ColliderML.Text.Ranges
import ColliderML.Text.Digit

/-!
Finding observable names in a cut.

An observable name in a cut is a run of non-blank characters that starts and
ends at word boundaries (a boundary lies between a word character and any other
character, the ends of the text counting as non-word), and that does not start
with a number: a run of digits that ends at a boundary, or digits, a point and
digits that end at a boundary. Of the runs starting at a position the longest is
taken; the scan goes on after it, or one position further when none starts there.
So in `10 < jet0.pt` the name is `jet0.pt`, and in `jet0.pt>10` it is
`jet0.pt>10`, the whole run.
-/

namespace ColliderML

namespace CutScan

def wordAt (s : Array Char) (i : Int) : Bool :=
  if 0 ≤ i then
    match s[i.toNat]? with
    | some c => Text.isWordChar c
    | none => false
  else false

def boundary (s : Array Char) (i : Nat) : Bool :=
  wordAt s ((i : Int) - 1) != wordAt s i

def digitsEnd (s : Array Char) (i : Nat) : Nat :=
  let rec go : Nat → Nat → Nat
    | 0, j => j
    | fuel + 1, j =>
      match s[j]? with
      | some c => if Text.isDecimalDigit c then go fuel (j + 1) else j
      | none => j
  go (s.size - i) i

def numberAt (s : Array Char) (i : Nat) : Bool :=
  let e := digitsEnd s i
  let integer := e > i && boundary s e
  let decimal :=
    match s[e]? with
    | some '.' =>
      let e2 := digitsEnd s (e + 1)
      e2 > e + 1 && boundary s e2
    | _ => false
  integer || decimal

def nonBlankEnd (s : Array Char) (i : Nat) : Nat :=
  let rec go : Nat → Nat → Nat
    | 0, j => j
    | fuel + 1, j =>
      match s[j]? with
      | some c => if Text.isBlank c then j else go fuel (j + 1)
      | none => j
  go (s.size - i) i

def lastBoundary (s : Array Char) (i : Nat) : Nat → Option Nat
  | 0 => none
  | e + 1 => if e + 1 > i then (if boundary s (e + 1) then some (e + 1) else lastBoundary s i e) else none

def nameAt (s : Array Char) (i : Nat) : Option Nat :=
  if boundary s i && !numberAt s i then lastBoundary s i (nonBlankEnd s i) else none

def scanFrom (s : Array Char) : Nat → Nat → List String
  | 0, _ => []
  | fuel + 1, i =>
    if i ≥ s.size then []
    else match nameAt s i with
      | some j => String.ofList ((s.extract i j).toList) :: scanFrom s fuel j
      | none => scanFrom s fuel (i + 1)

def names (cut : String) : List String :=
  let s := cut.toList.toArray
  scanFrom s (s.size + 1) 0

end CutScan

end ColliderML
