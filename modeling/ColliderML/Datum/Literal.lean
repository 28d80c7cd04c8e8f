import ColliderML.Datum
import ColliderML.Number.Format
import ColliderML.Text.Printable

/-!
The literal text of data values, as configurations and messages print them.

A value has two texts. Its *literal* is the text that reads back as the value:
a text in quotes with escapes, lists in brackets, records in braces with
quoted keys. Its *display* is the same except that a text stands for itself.
Quotes are single unless the text holds a single quote and no double quote.
-/

namespace ColliderML

open Number Text

def hexDigits (n width : Nat) : String :=
  padZeros (String.ofList (Nat.toDigits 16 n)) width

def escapeChar (quote : Char) (c : Char) : String :=
  if c = '\\' then "\\\\"
  else if c = quote then "\\" ++ String.singleton c
  else if c = '\n' then "\\n"
  else if c = '\r' then "\\r"
  else if c = '\t' then "\\t"
  else if isPrintable c then String.singleton c
  else
    let n := c.val.toNat
    if n < 0x100 then "\\x" ++ hexDigits n 2
    else if n < 0x10000 then "\\u" ++ hexDigits n 4
    else "\\U" ++ hexDigits n 8

def quoteText (s : String) : String :=
  let quote := if s.contains '\'' && !s.contains '"' then '"' else '\''
  String.singleton quote ++ String.join (s.toList.map (escapeChar quote)) ++ String.singleton quote

namespace Datum

mutual
def literal : Datum → String
  | .none => "None"
  | .bool b => if b then "True" else "False"
  | .int i => toString i
  | .float x => floatText x
  | .str s => quoteText s
  | .list items => "[" ++ literalItems items ++ "]"
  | .dict fields => "\x7b" ++ literalFields fields ++ "\x7d"

def literalItems : List Datum → String
  | [] => ""
  | [d] => literal d
  | d :: rest => literal d ++ ", " ++ literalItems rest

def literalFields : List (String × Datum) → String
  | [] => ""
  | [(k, d)] => quoteText k ++ ": " ++ literal d
  | (k, d) :: rest => quoteText k ++ ": " ++ literal d ++ ", " ++ literalFields rest
end

def display : Datum → String
  | .str s => s
  | d => d.literal

end Datum

end ColliderML
