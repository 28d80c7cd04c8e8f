import ColliderML.Datum
import ColliderML.Number.Format

/-!
JSON text of data values.

Writing: records keep their field order, texts are escaped only where JSON
requires it, integers are exact, and a double is written with its shortest
digits (always with a point or an exponent, so that it reads back as a double).
A NaN and the infinities have no JSON number, so they are written as the texts
"NaN", "Infinity" and "-Infinity".

Reading: a number with a fraction or an exponent is a double, correctly
rounded; any other number is an integer of any size. The words NaN, Infinity
and -Infinity are read as those doubles.
-/

namespace ColliderML

open Number

def jsonEscape (c : Char) : String :=
  if c = '"' then "\\\""
  else if c = '\\' then "\\\\"
  else if c = '\n' then "\\n"
  else if c = '\r' then "\\r"
  else if c = '\t' then "\\t"
  else if c.val < 32 then
    "\\u" ++ padZeros (String.ofList (Nat.toDigits 16 c.val.toNat)) 4
  else String.singleton c

def jsonString (s : String) : String :=
  "\"" ++ String.join (s.toList.map jsonEscape) ++ "\""

def jsonFloat (x : Float) : String :=
  match Parts.ofFloat x with
  | .nan => "\"NaN\""
  | .infinite neg => if neg then "\"-Infinity\"" else "\"Infinity\""
  | parts => parts.render .standard

namespace Datum

mutual
def toJson : Datum → String
  | .none => "null"
  | .bool b => if b then "true" else "false"
  | .int i => toString i
  | .float x => jsonFloat x
  | .str s => jsonString s
  | .list items => "[" ++ jsonItems items ++ "]"
  | .dict fields => "\x7b" ++ jsonFields fields ++ "\x7d"

def jsonItems : List Datum → String
  | [] => ""
  | [d] => toJson d
  | d :: rest => toJson d ++ ", " ++ jsonItems rest

def jsonFields : List (String × Datum) → String
  | [] => ""
  | [(k, d)] => jsonString k ++ ": " ++ toJson d
  | (k, d) :: rest => jsonString k ++ ": " ++ toJson d ++ ", " ++ jsonFields rest
end

end Datum

/-! ## Reading -/

namespace JsonReader

def skipSpace : List Char → List Char
  | c :: cs => if c = ' ' ∨ c = '\n' ∨ c = '\r' ∨ c = '\t' then skipSpace cs else c :: cs
  | [] => []

def spanDigits (cs : List Char) : List Char × List Char :=
  (cs.takeWhile Char.isDigit, cs.dropWhile Char.isDigit)

def digitsValue (ds : List Char) : Nat :=
  ds.foldl (fun n c => 10 * n + (c.toNat - 48)) 0

def readNumber (cs : List Char) : Except String (Datum × List Char) :=
  let (neg, cs) := match cs with
    | '-' :: rest => (true, rest)
    | _ => (false, cs)
  let (whole, cs) := spanDigits cs
  if whole.isEmpty then .error "number expected" else
  let (frac, hasFrac, cs) := match cs with
    | '.' :: rest => let (f, r) := spanDigits rest; (f, true, r)
    | _ => ([], false, cs)
  let (expNeg, expDigits, hasExp, cs) := match cs with
    | e :: rest =>
      if e = 'e' ∨ e = 'E' then
        match rest with
        | '-' :: r => let (d, r') := spanDigits r; (true, d, true, r')
        | '+' :: r => let (d, r') := spanDigits r; (false, d, true, r')
        | r => let (d, r') := spanDigits r; (false, d, true, r')
      else (false, [], false, cs)
    | [] => (false, [], false, [])
  if hasFrac && frac.isEmpty then .error "digits expected after the point" else
  if hasExp && expDigits.isEmpty then .error "digits expected in the exponent" else
  if !hasFrac && !hasExp then
    let n : Int := digitsValue whole
    .ok (.int (if neg then -n else n), cs)
  else
    let mant := digitsValue (whole ++ frac)
    let ex : Int := (if expNeg then -(digitsValue expDigits : Int) else digitsValue expDigits) - frac.length
    let mag := if ex < 0 then Float.ofScientific mant true ex.natAbs
      else Float.ofScientific mant false ex.toNat
    .ok (.float (if neg then -mag else mag), cs)

def hexValue (c : Char) : Option Nat :=
  if c.isDigit then some (c.toNat - 48)
  else if 'a' ≤ c ∧ c ≤ 'f' then some (c.toNat - 87)
  else if 'A' ≤ c ∧ c ≤ 'F' then some (c.toNat - 55)
  else none

def hex4 (a b c d : Char) : Option Nat := do
  let va ← hexValue a
  let vb ← hexValue b
  let vc ← hexValue c
  let vd ← hexValue d
  pure (((va * 16 + vb) * 16 + vc) * 16 + vd)

def isHighSurrogate (n : Nat) : Bool := 0xD800 ≤ n ∧ n < 0xDC00

def isLowSurrogate (n : Nat) : Bool := 0xDC00 ≤ n ∧ n < 0xE000

def readString : List Char → List Char → Except String (String × List Char)
  | [], _ => .error "unterminated string"
  | '"' :: rest, acc => .ok (String.ofList acc.reverse, rest)
  | '\\' :: 'n' :: r, acc => readString r ('\n' :: acc)
  | '\\' :: 't' :: r, acc => readString r ('\t' :: acc)
  | '\\' :: 'r' :: r, acc => readString r ('\r' :: acc)
  | '\\' :: 'b' :: r, acc => readString r ('\x08' :: acc)
  | '\\' :: 'f' :: r, acc => readString r ('\x0c' :: acc)
  | '\\' :: '/' :: r, acc => readString r ('/' :: acc)
  | '\\' :: '\\' :: r, acc => readString r ('\\' :: acc)
  | '\\' :: '"' :: r, acc => readString r ('"' :: acc)
  | '\\' :: 'u' :: a :: b :: c :: d :: r, acc =>
    match hex4 a b c d with
    | none => .error "bad escape"
    | some v =>
      if isHighSurrogate v then
        match r with
        | '\\' :: 'u' :: a2 :: b2 :: c2 :: d2 :: r2 =>
          match hex4 a2 b2 c2 d2 with
          | some lo =>
            if isLowSurrogate lo then
              readString r2 (Char.ofNat (0x10000 + (v - 0xD800) * 0x400 + (lo - 0xDC00)) :: acc)
            else .error "lone surrogate"
          | none => .error "bad escape"
        | _ => .error "lone surrogate"
      else if isLowSurrogate v then .error "lone surrogate"
      else readString r (Char.ofNat v :: acc)
  | '\\' :: _, _ => .error "bad escape"
  | c :: rest, acc => readString rest (c :: acc)

def startsWithWord (w : String) (cs : List Char) : Bool := w.toList.isPrefixOf cs

mutual
def readValue : Nat → List Char → Except String (Datum × List Char)
  | 0, _ => .error "input too deep"
  | fuel + 1, cs =>
    match skipSpace cs with
    | '{' :: rest => readFields fuel (skipSpace rest) []
    | '[' :: rest => readItems fuel (skipSpace rest) []
    | '"' :: rest => do
      let (s, r) ← readString rest []
      pure (.str s, r)
    | cs =>
      if startsWithWord "null" cs then .ok (.none, cs.drop 4)
      else if startsWithWord "true" cs then .ok (.bool true, cs.drop 4)
      else if startsWithWord "false" cs then .ok (.bool false, cs.drop 5)
      else if startsWithWord "NaN" cs then .ok (.float (0.0 / 0.0), cs.drop 3)
      else if startsWithWord "Infinity" cs then .ok (.float (1.0 / 0.0), cs.drop 8)
      else if startsWithWord "-Infinity" cs then .ok (.float (-1.0 / 0.0), cs.drop 9)
      else readNumber cs

def readItems : Nat → List Char → List Datum → Except String (Datum × List Char)
  | 0, _, _ => .error "input too deep"
  | fuel + 1, cs, acc =>
    match cs with
    | ']' :: rest => if acc.isEmpty then .ok (.list [], rest) else .error "value expected"
    | _ => do
      let (v, r) ← readValue fuel cs
      match skipSpace r with
      | ',' :: r' => readItems fuel (skipSpace r') (v :: acc)
      | ']' :: r' => pure (.list (v :: acc).reverse, r')
      | _ => .error "comma or bracket expected"

def readFields : Nat → List Char → List (String × Datum) → Except String (Datum × List Char)
  | 0, _, _ => .error "input too deep"
  | fuel + 1, cs, acc =>
    match cs with
    | '}' :: rest => if acc.isEmpty then .ok (.dict [], rest) else .error "field expected"
    | '"' :: rest => do
      let (k, r) ← readString rest []
      match skipSpace r with
      | ':' :: r' =>
        let (v, r'') ← readValue fuel r'
        match skipSpace r'' with
        | ',' :: r3 => readFields fuel (skipSpace r3) ((k, v) :: acc)
        | '}' :: r3 => pure (.dict ((k, v) :: acc).reverse, r3)
        | _ => .error "comma or brace expected"
      | _ => .error "colon expected"
    | _ => .error "field name expected"
end

end JsonReader

def Datum.ofJson (s : String) : Except String Datum := do
  let cs := s.toList
  let (v, rest) ← JsonReader.readValue (2 * cs.length + 4) cs
  if (JsonReader.skipSpace rest).isEmpty then pure v else .error "extra text after the value"

end ColliderML
