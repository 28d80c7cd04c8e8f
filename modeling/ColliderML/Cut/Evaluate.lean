import ColliderML.Cut.Formula
import ColliderML.Tensor.Reshape

/-!
# Evaluating formulas

A formula evaluates in a scope that holds two tables: the observables that
were read, by name, under `observables_dict`, and the results of the single
cuts evaluated so far, by their text, under `cuts_results`. An item of a table
is looked up by a quoted key; an observable's `value` is its array.

Numbers follow integer and real arithmetic: integers are exact, `/` is real,
`//` and `%` round toward minus infinity, truth values count as 0 and 1, and
division by zero fails. Arrays combine with arrays and numbers element by
element, a number taking the array's element type. Comparisons chain: each
link compares its two neighbours, and a link that does not hold ends the chain
with its result, which needs a single truth value, so an array of several
elements cannot continue a chain.
-/

namespace ColliderML

inductive FormulaValue where
  /-- An array. -/
  | array (t : Tensor)
  /-- A plain number or truth value. -/
  | number (s : Scalar)
  /-- A text. -/
  | text (s : String)
  /-- Nothing. -/
  | nothing
  /-- The table of observables. -/
  | observables
  /-- The table of single cuts' results. -/
  | results
  /-- The observable of a name. -/
  | observable (name : String)
  deriving Inhabited

/-- An observable as a formula sees it: its class name and its values. -/
structure ScopeObservable where
  className : String
  value : Tensor
  deriving Inhabited

structure FormulaScope where
  /-- The observables read, by name. -/
  observables : List (String × ScopeObservable)
  /-- The results of the single cuts evaluated so far, by their text. -/
  results : List (String × FormulaValue)
  deriving Inhabited

namespace Scalar

def typeName : Scalar → String
  | .bool _ => "bool"
  | .int _ => "int"
  | .real _ => "float"

def written : Scalar → String
  | .bool b => if b then "True" else "False"
  | .int n => toString n
  | .real x => Datum.display (.float x)

end Scalar

namespace FormulaValue

def typeName (scope : FormulaScope) : FormulaValue → String
  | .array _ => "Array"
  | .number s => s.typeName
  | .text _ => "str"
  | .nothing => "NoneType"
  | .observables | .results => "dict"
  | .observable n => ((scope.observables.lookup n).map (·.className)).getD "Observable"

def truth : FormulaValue → Outcome Bool
  | .array t =>
    match t.data.toList with
    | [] => .ok false
    | [x] => .ok x.truth
    | _ => .error .ambiguousTruth
  | .number s => .ok s.truth
  | .text s => .ok !s.isEmpty
  | .nothing => .ok false
  | _ => .ok true

end FormulaValue

namespace Evaluate

def unsupported (scope : FormulaScope) (op : String) (x y : FormulaValue) : Error :=
  .unsupportedOperands op (x.typeName scope) (y.typeName scope)

def isIntegral : Scalar → Bool
  | .real _ => false
  | _ => true

def floorDivMod (x y : Float) : Float × Float :=
  let q := (x / y).floor
  (q, x - q * y)

def intPower (a : Int) (b : Nat) : Scalar :=
  if a.natAbs ≤ 1 || b ≤ 4096 then .int (Int.pow a b)
  else .real (Float.pow (Float.ofInt a) (Float.ofNat b))

def onNumbers (op : BinaryOp) (x y : Scalar) : Outcome Scalar :=
  if isIntegral x && isIntegral y then
    let a := x.toInt
    let b := y.toInt
    match op with
    | .add => .ok (.int (a + b))
    | .sub => .ok (.int (a - b))
    | .mul => .ok (.int (a * b))
    | .div => if b == 0 then .error .zeroDivision else .ok (.real (Float.ofInt a / Float.ofInt b))
    | .floorDiv =>
      if b == 0 then .error (.other .divisionByZero "integer division or modulo by zero")
      else .ok (.int (Int.fdiv a b))
    | .mod =>
      if b == 0 then .error (.other .divisionByZero "integer modulo by zero")
      else .ok (.int (Int.fmod a b))
    | .pow =>
      if b ≥ 0 then .ok (intPower a b.toNat)
      else if a == 0 then .error (.other .divisionByZero "0.0 cannot be raised to a negative power")
      else .ok (.real (Float.pow (Float.ofInt a) (Float.ofInt b)))
    | .bitAnd | .bitOr | .bitXor =>
      let bop : BitOp := match op with
        | .bitAnd => .and
        | .bitOr => .or
        | _ => .xor
      match x, y with
      | .bool p, .bool q => .ok (.bool (bop.onBool p q))
      | _, _ => .ok (.int (bop.onInt a b))
  else
    let a := x.toFloat
    let b := y.toFloat
    match op with
    | .add => .ok (.real (a + b))
    | .sub => .ok (.real (a - b))
    | .mul => .ok (.real (a * b))
    | .div => if b == 0 then .error (.other .divisionByZero "float division by zero") else .ok (.real (a / b))
    | .floorDiv =>
      if b == 0 then .error (.other .divisionByZero "float floor division by zero")
      else .ok (.real (floorDivMod a b).1)
    | .mod =>
      if b == 0 then .error (.other .divisionByZero "float modulo by zero")
      else .ok (.real (floorDivMod a b).2)
    | .pow =>
      if a == 0 && b < 0 then .error (.other .divisionByZero "0.0 cannot be raised to a negative power")
      else .ok (.real (Float.pow a b))
    | .bitAnd | .bitOr | .bitXor => .error (.unsupportedOperands op.symbol x.typeName y.typeName)

def beside (other : DType) (s : Scalar) (logical : Bool) : Tensor :=
  match s with
  | .bool b => if logical then Tensor.scalar .bool (.bool b) else Tensor.literal other s
  | s => Tensor.literal other s

def onArrays (op : BinaryOp) (a b : Tensor) : Outcome Tensor :=
  match op with
  | .add => Tensor.arith .add a b
  | .sub => Tensor.arith .sub a b
  | .mul => Tensor.arith .mul a b
  | .div => Tensor.arith .div a b
  | .bitAnd => Tensor.bitwise .and a b
  | .bitOr => Tensor.bitwise .or a b
  | .bitXor => Tensor.bitwise .xor a b
  | _ => .error (.unsupportedOperands op.symbol "Array" "Array")

def isLogical : BinaryOp → Bool
  | .bitAnd | .bitOr | .bitXor => true
  | _ => false

def binary (scope : FormulaScope) (op : BinaryOp) (x y : FormulaValue) : Outcome FormulaValue :=
  match x, y with
  | .number a, .number b => do pure (.number (← onNumbers op a b))
  | .array a, .array b => do pure (.array (← onArrays op a b))
  | .array a, .number b => do pure (.array (← onArrays op a (beside a.dtype b (isLogical op))))
  | .number a, .array b => do pure (.array (← onArrays op (beside b.dtype a (isLogical op)) b))
  | .text a, .text b =>
    if op = .add then .ok (.text (a ++ b)) else .error (unsupported scope op.symbol x y)
  | .text a, .number (.int n) =>
    if op = .mul then .ok (.text (String.join (List.replicate n.toNat a)))
    else .error (unsupported scope op.symbol x y)
  | _, _ => .error (unsupported scope op.symbol x y)

def compareNumbers (op : CompareOp) (x y : Scalar) : Bool := Scalar.compare op x y

def compare (scope : FormulaScope) (op : CompareOp) (x y : FormulaValue) : Outcome FormulaValue :=
  let symbol := match op with
    | .lt => "<"
    | .le => "<="
    | .gt => ">"
    | .ge => ">="
    | .eq => "=="
    | .ne => "!="
  let refuse : Outcome FormulaValue := .error (.other .badType ("'" ++ symbol ++
    "' not supported between instances of '" ++ x.typeName scope ++ "' and '" ++ y.typeName scope ++ "'"))
  match x, y with
  | .number a, .number b => .ok (.number (.bool (compareNumbers op a b)))
  | .array a, .array b => do pure (.array (← Tensor.compare op a b))
  | .array a, .number b => do pure (.array (← Tensor.compare op a (Tensor.literal a.dtype b)))
  | .number a, .array b => do pure (.array (← Tensor.compare op (Tensor.literal b.dtype a) b))
  | .text a, .text b =>
    let r := match op with
      | .lt => decide (a < b)
      | .le => decide (a ≤ b)
      | .gt => decide (b < a)
      | .ge => decide (b ≤ a)
      | .eq => a == b
      | .ne => a != b
    .ok (.number (.bool r))
  | .array a, _ | _, .array a =>
    match op with
    | .eq => .ok (.array (a.map .bool (fun _ => .bool false)))
    | .ne => .ok (.array (a.map .bool (fun _ => .bool true)))
    | _ => refuse
  | _, _ =>
    match op with
    | .eq => .ok (.number (.bool false))
    | .ne => .ok (.number (.bool true))
    | _ => refuse

def unary (scope : FormulaScope) (op : UnaryOp) (x : FormulaValue) : Outcome FormulaValue :=
  let symbol := match op with
    | .negate => "-"
    | .plus => "+"
    | .invert => "~"
  let refuse : Outcome FormulaValue :=
    .error (.other .badType ("bad operand type for unary " ++ symbol ++ ": '" ++ x.typeName scope ++ "'"))
  match op, x with
  | .negate, .number (.real f) => .ok (.number (.real (-f)))
  | .negate, .number s => .ok (.number (.int (-s.toInt)))
  | .plus, .number (.real f) => .ok (.number (.real f))
  | .plus, .number s => .ok (.number (.int s.toInt))
  | .invert, .number (.real _) => refuse
  | .invert, .number s => .ok (.number (.int (-(s.toInt + 1))))
  | .negate, .array t => do pure (.array (← t.negate))
  | .plus, .array t => .ok (.array t)
  | .invert, .array t => do pure (.array (← t.invert))
  | _, _ => refuse

def item (scope : FormulaScope) (x key : FormulaValue) : Outcome FormulaValue :=
  let keyText := match key with
    | .text s => quoteText s
    | .number s => s.written
    | .nothing => "None"
    | _ => "<object>"
  match x, key with
  | .observables, .text k =>
    if (scope.observables.lookup k).isSome then .ok (.observable k) else .error (.missingKey keyText)
  | .results, .text k =>
    match scope.results.lookup k with
    | some v => .ok v
    | none => .error (.missingKey keyText)
  | .observables, _ | .results, _ => .error (.missingKey keyText)
  | .array t, .number s =>
    if isIntegral s then do
      let r ← t.index [.pos s.toInt]
      if r.shape.isEmpty then pure (.number (r.data.getD 0 default)) else pure (.array r)
    else .error (.other .outOfRange
      "only integers, slices (`:`), ellipsis (`...`), numpy.newaxis (`None`) and integer or boolean arrays are valid indices")
  | .text s, .number (.int n) =>
    let cs := s.toList
    let i := if n < 0 then n + cs.length else n
    if 0 ≤ i && i < cs.length then .ok (.text (String.singleton (cs.getD i.toNat ' ')))
    else .error .textIndex
  | .text _, _ => .error (.other .badType ("string indices must be integers, not '" ++ key.typeName scope ++ "'"))
  | _, _ => .error (.notSubscriptable (x.typeName scope))

def member (scope : FormulaScope) (x : FormulaValue) (field : String) : Outcome FormulaValue :=
  match x, field with
  | .observable n, "value" =>
    match scope.observables.lookup n with
    | some o => .ok (.array o.value)
    | none => .error (.noMember (x.typeName scope) field)
  | _, _ => .error (.noMember (x.typeName scope) field)

def name (n : String) : Outcome FormulaValue :=
  match n with
  | "observables_dict" => .ok .observables
  | "cuts_results" => .ok .results
  | "True" => .ok (.number (.bool true))
  | "False" => .ok (.number (.bool false))
  | "None" => .ok .nothing
  | n => .error (.undefinedName n)

mutual

def formula (scope : FormulaScope) : Formula → Outcome FormulaValue
  | .number v => .ok (.number v)
  | .text s => .ok (.text s)
  | .name n => name n
  | .member e f => do member scope (← formula scope e) f
  | .item e i => do
    let x ← formula scope e
    item scope x (← formula scope i)
  | .call f args => do
    let g ← formula scope f
    let _ ← formulas scope args
    throw (.other .badType ("'" ++ g.typeName scope ++ "' object is not callable"))
  | .unary op e => do unary scope op (← formula scope e)
  | .binary op a b => do
    let x ← formula scope a
    binary scope op x (← formula scope b)
  | .chain first links => do chain scope (← formula scope first) links

def formulas (scope : FormulaScope) : List Formula → Outcome (List FormulaValue)
  | [] => .ok []
  | e :: rest => do
    let v ← formula scope e
    pure (v :: (← formulas scope rest))

def chain (scope : FormulaScope) (left : FormulaValue) : List (CompareOp × Formula) → Outcome FormulaValue
  | [] => .ok left
  | [(op, e)] => do compare scope op left (← formula scope e)
  | (op, e) :: rest => do
    let right ← formula scope e
    let r ← compare scope op left right
    if ← r.truth then chain scope right rest else pure r

end

end Evaluate

def FormulaScope.evaluate (scope : FormulaScope) (text : String) : Outcome FormulaValue := do
  Evaluate.formula scope (← Formula.parse text)

end ColliderML
