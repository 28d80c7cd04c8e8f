import ColliderML.Digest.Sha256
import ColliderML.Datum
import ColliderML.Number.Format
import ColliderML.Text.Numeral

/-!
Fingerprints of results: the SHA-256 digest of a walk over a value, so that two
runs that give the same value, up to float noise, give the same fingerprint.

The walk writes a list as `L` and its length followed by its items, a text as
`s` and the text, an integer by its digits, and a float by its shortest
decimal digits after rounding it to six significant digits. Truth values are
written as their words, nothing as `N`, and a record as `D`, its size, and its
keys and values in order.
-/

namespace ColliderML

namespace Fingerprint

def sixDigits (x : Float) : Float :=
  match Text.readFloat (Number.scientificText x 5) with
  | .ok y => y
  | .error _ => x

mutual
def walk : Datum → String
  | .none => "N"
  | .bool b => if b then "True" else "False"
  | .int i => toString i
  | .float x => Number.floatText (sixDigits x)
  | .str s => "s" ++ s
  | .list items => "L" ++ toString items.length ++ walkItems items
  | .dict fields => "D" ++ toString fields.length ++ walkFields fields

def walkItems : List Datum → String
  | [] => ""
  | d :: rest => walk d ++ walkItems rest

def walkFields : List (String × Datum) → String
  | [] => ""
  | (k, d) :: rest => "s" ++ k ++ walk d ++ walkFields rest
end

def ofDatum (d : Datum) : String := Sha256.hexDigest (walk d)

end Fingerprint

end ColliderML
