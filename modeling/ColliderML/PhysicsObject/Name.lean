import ColliderML.PhysicsObject.Basic
import ColliderML.Text.Basic
import ColliderML.Text.Digit

/-!
The name grammar of physics objects.

A branch is a run of ASCII letters and an index a run of decimal digits (of any
script, read by their values). A name may end with one line feed, which the
grammar ignores.

* single: `branch index`, as in `jet0`;
* collective: `branch`, or `branch start? : stop?`, as in `jet`, `jet1:`, `jet:3`;
* nested: two single or collective names joined by a dot, as in `jet0.constituents`;
* multiple: names joined by commas, each single, collective or nested.

The readers of a single or collective name strip blanks around it first. The
collective reader checks the stripped text but takes the parts from the text as
given, so blanks in front, or after it other than one line feed, leave it with
no parts (`Error.unmatchedGroups`). `ofName` tries the kinds in the order single,
collective, nested, multiple.
-/

namespace ColliderML

namespace ObjectName

def isLetter (c : Char) : Bool := ('a' ≤ c ∧ c ≤ 'z') ∨ ('A' ≤ c ∧ c ≤ 'Z')

def spanLetters (cs : List Char) : List Char × List Char :=
  (cs.takeWhile isLetter, cs.dropWhile isLetter)

def spanDigits (cs : List Char) : List Char × List Char :=
  (cs.takeWhile Text.isDecimalDigit, cs.dropWhile Text.isDecimalDigit)

def digitsValue (ds : List Char) : Nat :=
  ds.foldl (fun n c => 10 * n + (Text.digitValue? c).getD 0) 0

def atEnd (rest : List Char) : Bool := rest == [] || rest == ['\n']

def dropColon : List Char → List Char
  | ':' :: rest => rest
  | cs => cs

def isSingle (s : List Char) : Bool :=
  let (l, r) := spanLetters s
  let (d, r) := spanDigits r
  !l.isEmpty && !d.isEmpty && atEnd r

def isCollective (s : List Char) : Bool :=
  let (l, r) := spanLetters s
  let (_, r2) := spanDigits r
  !l.isEmpty && (atEnd r ||
    match r2 with
    | ':' :: r3 => atEnd (spanDigits r3).2
    | _ => false)

def spanPart (s : List Char) : Option (List Char) :=
  let (l, r) := spanLetters s
  if l.isEmpty then none
  else some (spanDigits (dropColon (spanDigits r).2)).2

def isNested (s : List Char) : Bool :=
  match spanPart s with
  | some ('.' :: rest) =>
    match spanPart rest with
    | some r => atEnd r
    | none => false
  | _ => false

def collectiveParts (s : List Char) : Option (List Char × List Char × List Char) :=
  let (l, r) := spanLetters s
  let (d1, r) := spanDigits r
  let (d2, r) := spanDigits (dropColon r)
  if !l.isEmpty && atEnd r then some (l, d1, d2) else none

def singleParts (s : List Char) : Option (List Char × List Char) :=
  let (l, r) := spanLetters s
  let (d, r) := spanDigits r
  if !l.isEmpty && !d.isEmpty && atEnd r then some (l, d) else none

end ObjectName

namespace PhysicsObject

open ObjectName

def singleOfName (name : String) : Outcome PhysicsObject :=
  match singleParts (Text.strip name).toList with
  | some (l, d) => .ok (.single (String.ofList l) (digitsValue d))
  | none => .error (.invalidObjectName (some .single) name)

def boundOf (ds : List Char) : Option Int :=
  if ds.isEmpty then none else some (digitsValue ds)

def collectiveOfName (name : String) : Outcome PhysicsObject :=
  if isCollective (Text.strip name).toList then
    match collectiveParts name.toList with
    | some (l, d1, d2) => .ok (.collective (String.ofList l) (boundOf d1) (boundOf d2))
    | none => .error .unmatchedGroups
  else .error (.invalidObjectName (some .collective) name)

def partOfName (part : String) : Outcome PhysicsObject :=
  if isSingle part.toList then singleOfName part else collectiveOfName part

def nestedOfName (name : String) : Outcome PhysicsObject :=
  if name.contains '.' then
    match Text.splitOn name "." with
    | [main, sub] => do
      let m ← partOfName main
      let s ← partOfName sub
      pure (.nested m s)
    -- a dot gives at least two sides, so any other split has too many
    | _ => .error (.tooManyParts 2)
  else .error (.invalidObjectName (some .nested) name)

def memberOfName (part : String) : Outcome PhysicsObject :=
  if isSingle part.toList then singleOfName part
  else if isCollective part.toList then collectiveOfName part
  else nestedOfName part

def multipleOfName (name : String) : Outcome PhysicsObject :=
  if name.contains ',' then
    (Text.splitOn name ",").mapM memberOfName |>.map .multiple
  else .error (.invalidObjectName (some .multiple) name)

def isMultipleName (name : String) : Bool :=
  match multipleOfName name with
  | .ok _ => true
  | .error _ => false

def ofName (name : String) : Outcome PhysicsObject :=
  if isSingle name.toList then singleOfName name
  else if isCollective name.toList then collectiveOfName name
  else if isNested name.toList then nestedOfName name
  else if isMultipleName name then multipleOfName name
  else .error (.invalidObjectName none name)

def ofNameAs (kind : ObjectClass) (name : String) : Outcome PhysicsObject :=
  match kind with
  | .single => singleOfName name
  | .collective => collectiveOfName name
  | .nested => nestedOfName name
  | .multiple => multipleOfName name

end PhysicsObject

end ColliderML
