import ColliderML.Text.Basic
import ColliderML.Text.Digit
import ColliderML.Error

/-!
Reading numbers from text as the integer and float constructors read them.

Both ignore surrounding blanks and take an optional sign. An integer is a run
of decimal digits of any script, single underscores allowed between digits. A
float is `inf`, `infinity` or `nan` in any letter case, or digits with an
optional point and fraction and an optional exponent, at least one digit in the
mantissa, underscores again only between digits; its value is the double
nearest to the decimal. A text that is none of these is refused with a failure
that quotes it as given.
-/

namespace ColliderML.Text

def stripList (cs : List Char) : List Char := (dropBlanks (dropBlanks cs).reverse).reverse

def splitSign : List Char → Bool × List Char
  | '-' :: rest => (true, rest)
  | '+' :: rest => (false, rest)
  | cs => (false, cs)

def digitRun : List Char → Nat → Option Nat
  | [c], acc => (digitValue? c).map (fun d => acc * 10 + d)
  | c :: '_' :: d :: rest, acc =>
    match digitValue? c with
    | some v => if (digitValue? d).isSome then digitRun (d :: rest) (acc * 10 + v) else none
    | none => none
  | c :: rest, acc =>
    match digitValue? c with
    | some v => digitRun rest (acc * 10 + v)
    | none => none
  | [], _ => none

def readInteger (s : String) : Outcome Int :=
  let (neg, rest) := splitSign (stripList s.toList)
  match digitRun rest 0 with
  | some n => .ok (if neg then -(n : Int) else n)
  | none => .error (.invalidInteger s)

def spanDigitRun (cs : List Char) : List Char × List Char :=
  (cs.takeWhile (fun c => c = '_' || isDecimalDigit c), cs.dropWhile (fun c => c = '_' || isDecimalDigit c))

def optionalRun (cs : List Char) : Option (Nat × Nat) :=
  if cs.isEmpty then some (0, 0)
  else (digitRun cs 0).map (fun v => (v, (cs.filter (· != '_')).length))

def readDecimal (cs : List Char) : Option (Nat × Int) := do
  let (whole, rest) := spanDigitRun cs
  let (w, wn) ← optionalRun whole
  let (frac, fn, rest) ← match rest with
    | '.' :: more =>
      let (f, after) := spanDigitRun more
      let (fv, fn) ← optionalRun f
      pure (fv, fn, after)
    | _ => pure (0, 0, rest)
  if wn + fn = 0 then none
  let mantissa := w * Nat.pow 10 fn + frac
  let exponent ← match rest with
    | [] => pure (0 : Int)
    | e :: more =>
      if e = 'e' || e = 'E' then
        let (neg, digits) := splitSign more
        let v ← digitRun digits 0
        pure (if neg then -(v : Int) else v)
      else none
  pure (mantissa, exponent - fn)

/-- The double nearest to m · 10^e, with the sign applied; beyond the range of
doubles the value is an infinity or zero. -/
def decimalValue (neg : Bool) (m : Nat) (e : Int) : Float :=
  let size : Int := (toString m).length + e
  let x :=
    if m = 0 then 0.0
    else if size > 330 then 1.0 / 0.0
    else if size < -345 then 0.0
    else if e < 0 then Float.ofScientific m true e.natAbs
    else Float.ofScientific m false e.toNat
  if neg then -x else x

def readFloat (s : String) : Outcome Float :=
  let (neg, rest) := splitSign (stripList s.toList)
  let word := String.ofList rest |> lower
  if word = "inf" || word = "infinity" then .ok (if neg then -(1.0 / 0.0) else 1.0 / 0.0)
  else if word = "nan" then .ok (0.0 / 0.0)
  else match readDecimal rest with
    | some (m, e) => .ok (decimalValue neg m e)
    | none => .error (.invalidFloat s)

end ColliderML.Text
