import ColliderML.Datum.Access
import ColliderML.Number.Grid

/-!
The bin edges of an image axis.

Edges are asked for by the arguments of an evenly spaced grid, given by
position: start, stop, the number of points (50 when not given), whether the
stop is included (yes when not given) and whether the spacing is returned beside
the points. The number of points must be an integer that is not negative, and
the ends must be numbers.

An axis has no edges until they are computed; an image rebuilt from a
configuration without edges holds nothing for them.
-/

namespace ColliderML

inductive Bins where
  /-- Never computed. -/
  | unset
  /-- Rebuilt as nothing. -/
  | none
  /-- The edges, in order. -/
  | edges (xs : List Float)
  /-- The edges together with their spacing. -/
  | spaced (xs : List Float) (step : Float)
  deriving Inhabited

namespace Bins

def pointLimit : Nat := 1000000

def endOf : Datum → Outcome Float
  | .int i => .ok (Float.ofInt i)
  | .float x => .ok x
  | .bool b => .ok (if b then 1.0 else 0.0)
  | .none => .error (.unsupportedOperands "*" "NoneType" "float")
  | _ => .error (.badRequest "grid ends must be numbers")

def ofArguments (args : List Datum) : Outcome Bins :=
  match args with
  | start :: stop :: rest =>
    if rest.length > 3 then .error (.badRequest "unsupported grid arguments")
    else do
      let num ← (rest[0]?.getD (Datum.int 50)).asIndex
      if num < 0 then .error (.negativeCount num)
      else if num.toNat > pointLimit then .error (.badRequest "too many grid points")
      else
        let endpoint := (rest[1]?.getD (Datum.bool true)).truthy
        let s ← endOf start
        let t ← endOf stop
        let xs := Grid.evenlySpaced s t num.toNat endpoint
        if (rest[2]?.getD (Datum.bool false)).truthy then
          pure (.spaced xs (Grid.spacing s t num.toNat endpoint))
        else pure (.edges xs)
  | _ => .error (.missingParameters "_linspace_dispatcher" ["stop"])

/-- The edges of one axis of a pixelation: the range's entry for the axis is
spread into the grid's arguments, and the size's entry plus one follows it. -/
def ofRange (range size : Datum) (axis : Nat) : Outcome Bins := do
  let r ← range.item axis
  let args ← r.unpack
  let s ← size.item axis
  let n ← s.succ
  ofArguments (args ++ [n])

/-- The edges as a list of numbers, for the configuration; the member name
is the one a missing value is reported by. -/
def toConfig (b : Bins) (member : String) : Outcome Datum :=
  match b with
  | .unset => .error (.noMember "Image" member)
  | .none => .error (.noMember "NoneType" "tolist")
  | .edges xs => .ok (.list (xs.map .float))
  | .spaced _ _ => .error (.noMember "tuple" "tolist")

def restore : Bins → Bins
  | .edges xs => .edges xs
  | _ => .none

end Bins

end ColliderML
