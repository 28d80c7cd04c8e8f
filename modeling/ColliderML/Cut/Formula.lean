import ColliderML.Error
import ColliderML.Tensor.Arith
import ColliderML.Text.Word
import ColliderML.Text.Ranges
import ColliderML.Text.Numeral

/-!
# Formulas: the expressions a cut evaluates

A single cut, once its observable names are replaced by lookups, and the
expression that joins the single cuts, are formulas: numbers, quoted texts,
names, members `x.f`, items `x[i]`, calls, the unary `-`, `+` and `~`, the
binary arithmetic and bitwise operators, and chains of comparisons.

Operators bind as usual, from loosest to tightest: comparisons (which chain, so
`a < b < c` compares `b` once with each side), `|`, `^`, `&`, `+` and `-`,
`*`, `/`, `//` and `%`, the unary operators, and `**`, which groups to the
right and binds less tightly than a unary operator on its right.

Texts that are not formulas fail with the reason the usual reader of such
expressions gives: an unterminated quote, a number run into a name, brackets
that do not match, or plain invalid syntax, with a hint about a missing comma
when two expressions stand side by side inside brackets.
-/

namespace ColliderML

inductive FormulaToken where
  | name (s : String)
  | number (v : Scalar)
  | text (s : String)
  | symbol (s : String)
  deriving Inhabited

inductive UnaryOp where
  | negate
  | plus
  | invert
  deriving DecidableEq, Repr, Inhabited

inductive BinaryOp where
  | add
  | sub
  | mul
  | div
  | floorDiv
  | mod
  | pow
  | bitAnd
  | bitOr
  | bitXor
  deriving DecidableEq, Repr, Inhabited

inductive Formula where
  | number (v : Scalar)
  | text (s : String)
  | name (s : String)
  | member (e : Formula) (field : String)
  | item (e i : Formula)
  | call (f : Formula) (args : List Formula)
  | unary (op : UnaryOp) (e : Formula)
  | binary (op : BinaryOp) (a b : Formula)
  | chain (first : Formula) (links : List (CompareOp × Formula))
  deriving Inhabited

namespace BinaryOp

def symbol : BinaryOp → String
  | .add => "+"
  | .sub => "-"
  | .mul => "*"
  | .div => "/"
  | .floorDiv => "//"
  | .mod => "%"
  | .pow => "**"
  | .bitAnd => "&"
  | .bitOr => "|"
  | .bitXor => "^"

def ofSymbol? : String → Option (BinaryOp × Nat)
  | "|" => some (.bitOr, 1)
  | "^" => some (.bitXor, 2)
  | "&" => some (.bitAnd, 3)
  | "+" => some (.add, 4)
  | "-" => some (.sub, 4)
  | "*" => some (.mul, 5)
  | "/" => some (.div, 5)
  | "//" => some (.floorDiv, 5)
  | "%" => some (.mod, 5)
  | _ => none

end BinaryOp

def CompareOp.ofSymbol? : String → Option CompareOp
  | "<" => some .lt
  | "<=" => some .le
  | ">" => some .gt
  | ">=" => some .ge
  | "==" => some .eq
  | "!=" => some .ne
  | _ => none

namespace FormulaToken

def pairSymbols : List String := ["**", "//", "<=", ">=", "==", "!=", "<<", ">>", "->", ":="]

def singleSymbols : List Char :=
  ['(', ')', '[', ']', '\x7b', '\x7d', ',', ':', '.', ';', '+', '-', '*', '/', '%', '&', '|', '^', '~',
    '<', '>', '=', '@']

def isNameStart (c : Char) : Bool := Text.isWordChar c && !c.isDigit

def isDigitMark (c : Char) : Bool := c.isDigit || c == '_'

def exponentPart : List Char → Option (List Char × List Char)
  | e :: rest =>
    if e == 'e' || e == 'E' then
      let (sign, more) := match rest with
        | s :: ds => if s == '+' || s == '-' then ([s], ds) else ([], rest)
        | [] => ([], [])
      let (digits, after) := more.span isDigitMark
      if digits.isEmpty then none else some (e :: sign ++ digits, after)
    else none
  | [] => none

def readNumber (cs : List Char) : Outcome (FormulaToken × List Char) :=
  let (whole, r1) := cs.span isDigitMark
  let (frac, r2) := match r1 with
    | '.' :: more => let (f, r) := more.span isDigitMark; ('.' :: f, r)
    | _ => ([], r1)
  let (expo, r3) := (exponentPart r2).getD ([], r2)
  let digits := (whole ++ frac ++ expo).filter (· != '_')
  match r3 with
  | c :: _ =>
    if Text.isWordChar c then .error (.invalidSyntax "invalid decimal literal")
    else finish whole frac expo digits r3
  | [] => finish whole frac expo digits r3
where
  /-- The token of a number literal that is not run into a name. -/
  finish (whole frac expo digits rest : List Char) : Outcome (FormulaToken × List Char) :=
    if frac.isEmpty && expo.isEmpty then
      let plain := whole.filter (· != '_')
      if plain.length > 1 && plain.head? == some '0' && plain.any (· != '0') then
        .error (.invalidSyntax
          "leading zeros in decimal integer literals are not permitted; use an 0o prefix for octal integers")
      else .ok (.number (.int (String.ofList plain).toNat!), rest)
    else
      match Text.readFloat (String.ofList digits) with
      | .ok x => .ok (.number (.real x), rest)
      | .error e => .error e

def unescape (c : Char) : List Char :=
  match c with
  | 'n' => ['\n']
  | 't' => ['\t']
  | 'r' => ['\r']
  | '\\' => ['\\']
  | '\'' => ['\'']
  | '"' => ['"']
  | c => ['\\', c]

def readQuoted (quote : Char) : List Char → List Char → Outcome (String × List Char)
  | [], _ => .error (.invalidSyntax "unterminated string literal (detected at line 1)")
  | '\\' :: c :: rest, acc => readQuoted quote rest (acc.reverse ++ unescape c |>.reverse)
  | c :: rest, acc =>
    if c == quote then .ok (String.ofList acc.reverse, rest)
    else if c == '\n' then .error (.invalidSyntax "unterminated string literal (detected at line 1)")
    else readQuoted quote rest (c :: acc)

def hexCode (n : Nat) : String :=
  let ds := Nat.toDigits 16 n |>.map Char.toUpper
  String.ofList (List.replicate (4 - ds.length) '0' ++ ds)

def single (c : Char) : Outcome FormulaToken :=
  if singleSymbols.contains c then .ok (.symbol (String.singleton c))
  else if c.val < 128 then .error (.invalidSyntax "invalid syntax")
  else .error (.invalidSyntax ("invalid character '" ++ String.singleton c ++ "' (U+" ++
    hexCode c.val.toNat ++ ")"))

def scan : Nat → List Char → List FormulaToken → Outcome (List FormulaToken)
  | 0, _, acc => .ok acc.reverse
  | _, [], acc => .ok acc.reverse
  | fuel + 1, c :: rest, acc =>
    if Text.isBlank c then scan fuel rest acc
    else if c.isDigit || (c == '.' && (rest.head?.map Char.isDigit).getD false) then
      match readNumber (c :: rest) with
      | .ok (tok, after) => scan fuel after (tok :: acc)
      | .error e => .error e
    else if isNameStart c then
      let (more, after) := rest.span Text.isWordChar
      scan fuel after (.name (String.ofList (c :: more)) :: acc)
    else if c == '\'' || c == '"' then
      match readQuoted c rest [] with
      | .ok (s, after) => scan fuel after (.text s :: acc)
      | .error e => .error e
    else
      match rest with
      | d :: after =>
        if pairSymbols.contains (String.ofList [c, d]) then
          scan fuel after (.symbol (String.ofList [c, d]) :: acc)
        else
          match single c with
          | .ok tok => scan fuel rest (tok :: acc)
          | .error e => .error e
      | [] =>
        match single c with
        | .ok tok => scan fuel rest (tok :: acc)
        | .error e => .error e

def tokenize (s : String) : Outcome (List FormulaToken) := scan (s.length + 1) s.toList []

def isSymbol (t : FormulaToken) (s : String) : Bool :=
  match t with
  | .symbol x => x == s
  | _ => false

def closing : String → Option String
  | "(" => some ")"
  | "[" => some "]"
  | "\x7b" => some "\x7d"
  | _ => none

def bracketFault : List FormulaToken → List String → Option Error
  | [], _ => none
  | .symbol s :: rest, stack =>
    if (closing s).isSome then bracketFault rest (s :: stack)
    else if s == ")" || s == "]" || s == "\x7d" then
      match stack with
      | [] => some (.invalidSyntax ("unmatched '" ++ s ++ "'"))
      | o :: below =>
        if closing o == some s then bracketFault rest below
        else some (.invalidSyntax ("closing parenthesis '" ++ s ++
          "' does not match opening parenthesis '" ++ o ++ "'"))
    else bracketFault rest stack
  | _ :: rest, stack => bracketFault rest stack

def startsExpression : FormulaToken → Bool
  | .symbol s => ["(", "[", "\x7b", "-", "+", "~"].contains s
  | _ => true

end FormulaToken

namespace Formula

open FormulaToken

def tokenAt (toks : Array FormulaToken) (i : Nat) : Option FormulaToken := toks[i]?

def symbolAt (toks : Array FormulaToken) (i : Nat) (s : String) : Bool :=
  match toks[i]? with
  | some t => t.isSymbol s
  | none => false

def unclosed (toks : Array FormulaToken) (opening : String) (inner : Formula) (i : Nat) : Error :=
  match toks[i]? with
  | none => .invalidSyntax ("'" ++ opening ++ "' was never closed")
  | some t =>
    let bareName := match inner, t with
      | .name _, .text _ => true
      | _, _ => false
    if t.startsExpression && !bareName then .invalidSyntax "invalid syntax. Perhaps you forgot a comma?"
    else .invalidSyntax "invalid syntax"

def expected (toks : Array FormulaToken) (i : Nat) (opening : Option String) : Error :=
  match toks[i]?, opening with
  | none, some o => .invalidSyntax ("'" ++ o ++ "' was never closed")
  | _, _ => .invalidSyntax "invalid syntax"

def readTexts (toks : Array FormulaToken) (acc : String) : Nat → Nat → Formula × Nat
  | j, 0 => (.text acc, j)
  | j, n + 1 =>
    match toks[j]? with
    | some (.text s) => readTexts toks (acc ++ s) (j + 1) n
    | _ => (.text acc, j)

mutual

def readExpression (toks : Array FormulaToken) (opening : Option String) :
    Nat → Nat → Outcome (Formula × Nat)
  | 0, _ => .error (.invalidSyntax "too many nested parentheses")
  | fuel + 1, i => do
    let (first, j) ← readBinary toks opening fuel 1 i
    let (links, k) ← readComparisons toks opening fuel j
    pure (if links.isEmpty then first else .chain first links, k)
termination_by structural fuel _ => fuel

def readComparisons (toks : Array FormulaToken) (opening : Option String) :
    Nat → Nat → Outcome (List (CompareOp × Formula) × Nat)
  | 0, _ => .error (.invalidSyntax "too many nested parentheses")
  | fuel + 1, j =>
    match toks[j]? with
    | some (.symbol s) =>
      match CompareOp.ofSymbol? s with
      | some op => do
        let (e, k) ← readBinary toks opening fuel 1 (j + 1)
        let (more, m) ← readComparisons toks opening fuel k
        pure ((op, e) :: more, m)
      | none => pure ([], j)
    | _ => pure ([], j)
termination_by structural fuel _ => fuel

def readBinary (toks : Array FormulaToken) (opening : Option String) :
    Nat → Nat → Nat → Outcome (Formula × Nat)
  | 0, _, _ => .error (.invalidSyntax "too many nested parentheses")
  | fuel + 1, level, i => do
    let (lhs, j) ← readUnary toks opening fuel i
    readClimb toks opening fuel level lhs j
termination_by structural fuel _ _ => fuel

def readClimb (toks : Array FormulaToken) (opening : Option String) :
    Nat → Nat → Formula → Nat → Outcome (Formula × Nat)
  | 0, _, _, _ => .error (.invalidSyntax "too many nested parentheses")
  | fuel + 1, level, lhs, j =>
    match toks[j]? with
    | some (.symbol s) =>
      match BinaryOp.ofSymbol? s with
      | some (op, l) =>
        if l ≥ level then do
          let (rhs, k) ← readBinary toks opening fuel (l + 1) (j + 1)
          readClimb toks opening fuel level (.binary op lhs rhs) k
        else pure (lhs, j)
      | none => pure (lhs, j)
    | _ => pure (lhs, j)
termination_by structural fuel _ _ _ => fuel

def readUnary (toks : Array FormulaToken) (opening : Option String) :
    Nat → Nat → Outcome (Formula × Nat)
  | 0, _ => .error (.invalidSyntax "too many nested parentheses")
  | fuel + 1, i =>
    match toks[i]? with
    | some (.symbol "-") => do
      let (e, j) ← readUnary toks opening fuel (i + 1)
      pure (.unary .negate e, j)
    | some (.symbol "+") => do
      let (e, j) ← readUnary toks opening fuel (i + 1)
      pure (.unary .plus e, j)
    | some (.symbol "~") => do
      let (e, j) ← readUnary toks opening fuel (i + 1)
      pure (.unary .invert e, j)
    | _ => do
      let (base, j) ← readPrimary toks opening fuel i
      if symbolAt toks j "**" then do
        let (e, k) ← readUnary toks opening fuel (j + 1)
        pure (.binary .pow base e, k)
      else pure (base, j)
termination_by structural fuel _ => fuel

def readPrimary (toks : Array FormulaToken) (opening : Option String) :
    Nat → Nat → Outcome (Formula × Nat)
  | 0, _ => .error (.invalidSyntax "too many nested parentheses")
  | fuel + 1, i => do
    let (a, j) ← readAtom toks opening fuel i
    readTrailers toks opening fuel a j
termination_by structural fuel _ => fuel

def readTrailers (toks : Array FormulaToken) (opening : Option String) :
    Nat → Formula → Nat → Outcome (Formula × Nat)
  | 0, _, _ => .error (.invalidSyntax "too many nested parentheses")
  | fuel + 1, e, j =>
    match toks[j]? with
    | some (.symbol ".") =>
      match toks[j + 1]? with
      | some (.name n) => readTrailers toks opening fuel (.member e n) (j + 2)
      | _ => .error (expected toks (j + 1) opening)
    | some (.symbol "[") => do
      let (ix, k) ← readExpression toks (some "[") fuel (j + 1)
      if symbolAt toks k "]" then readTrailers toks opening fuel (.item e ix) (k + 1)
      else .error (unclosed toks "[" ix k)
    | some (.symbol "(") => do
      let (args, k) ← readArguments toks fuel (j + 1)
      readTrailers toks opening fuel (.call e args) k
    | _ => pure (e, j)
termination_by structural fuel _ _ => fuel

def readArguments (toks : Array FormulaToken) : Nat → Nat → Outcome (List Formula × Nat)
  | 0, _ => .error (.invalidSyntax "too many nested parentheses")
  | fuel + 1, j =>
    if symbolAt toks j ")" then pure ([], j + 1)
    else do
      let (a, k) ← readExpression toks (some "(") fuel j
      if symbolAt toks k "," then do
        let (more, m) ← readArguments toks fuel (k + 1)
        pure (a :: more, m)
      else if symbolAt toks k ")" then pure ([a], k + 1)
      else .error (unclosed toks "(" a k)
termination_by structural fuel _ => fuel

def readAtom (toks : Array FormulaToken) (opening : Option String) :
    Nat → Nat → Outcome (Formula × Nat)
  | 0, _ => .error (.invalidSyntax "too many nested parentheses")
  | fuel + 1, i =>
    match toks[i]? with
    | some (.name n) => pure (.name n, i + 1)
    | some (.number v) => pure (.number v, i + 1)
    | some (.text s) => pure (readTexts toks s (i + 1) (toks.size - i))
    | some (.symbol "(") => do
      let (e, k) ← readExpression toks (some "(") fuel (i + 1)
      if symbolAt toks k ")" then pure (e, k + 1)
      else .error (unclosed toks "(" e k)
    | _ => .error (expected toks i opening)
termination_by structural fuel _ => fuel

end

def parse (s : String) : Outcome Formula := do
  let toks ← FormulaToken.tokenize s
  match FormulaToken.bracketFault toks [] with
  | some e => throw e
  | none =>
    let arr := toks.toArray
    let (e, j) ← readExpression arr none (16 * (arr.size + 1)) 0
    if j < arr.size then throw (.invalidSyntax "invalid syntax") else pure e

end Formula

end ColliderML
