import ColliderML.Error

/-!
# Jet clustering algorithms

The clustering algorithms a jet definition can name, with the numbers that
identify them: the kt family (kt, Cambridge/Aachen, anti-kt and the general
kt, with their variants for passive areas and for electron-positron
collisions), an external plugin, and the undefined algorithm. A name that is
none of these stands for the undefined algorithm, and so does any value that is
not a text; lists and records cannot be looked up at all.
-/

namespace ColliderML

inductive JetAlgorithm where
  | kt
  | cambridge
  | antikt
  | genkt
  | cambridgeForPassive
  | genktForPassive
  | eeKt
  | eeGenkt
  | plugin
  | undefined
  deriving DecidableEq, Repr, Inhabited

namespace JetAlgorithm

def code : JetAlgorithm → Nat
  | .kt => 0
  | .cambridge => 1
  | .antikt => 2
  | .genkt => 3
  | .cambridgeForPassive => 4
  | .genktForPassive => 5
  | .eeKt => 6
  | .eeGenkt => 7
  | .plugin => 8
  | .undefined => 9

def ofName : String → JetAlgorithm
  | "kt" => .kt
  | "cambridge" => .cambridge
  | "antikt" => .antikt
  | "genkt" => .genkt
  | "cambridge_for_passive" => .cambridgeForPassive
  | "genkt_for_passive" => .genktForPassive
  | "ee_kt" => .eeKt
  | "ee_genkt" => .eeGenkt
  | "plugin" => .plugin
  | _ => .undefined

def ofDatum : Datum → Outcome JetAlgorithm
  | .str s => .ok (ofName s)
  | .list _ => .error (.unhashable "list")
  | .dict _ => .error (.unhashable "dict")
  | _ => .ok .undefined

end JetAlgorithm

end ColliderML
