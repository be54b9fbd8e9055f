import Troupe.Number.FloatText
import Troupe.Text.Quoted
import Troupe.Tree.Basic

/-!
# Trees in diagnostics

The form in which diagnostics show a tree: every node under the name of its
variant, strings quoted, floats in diagnostic notation.
-/

namespace Troupe

open Number

namespace Tree

def bracketed (texts : List String) : String :=
  "[" ++ ", ".intercalate texts ++ "]"

mutual

def diagnostic : Tree -> String
  | null => "Null"
  | bool b => "Bool(" ++ toString b ++ ")"
  | integer i => "Integer(" ++ toString i.toInt ++ ")"
  | float x => "Float(" ++ x.text FloatNotation.diagnostic ++ ")"
  | string s => "String(" ++ Text.quote s ++ ")"
  | bytes b => "Bytes(" ++ bracketed (b.map fun x => toString x.toNat) ++ ")"
  | map es => "Map(\x7b" ++ ", ".intercalate (diagnosticEntries es) ++ "\x7d)"
  | array xs => "Array(" ++ bracketed (diagnosticItems xs) ++ ")"

def diagnosticEntries : List (String × Tree) -> List String
  | [] => []
  | (k, t) :: rest => (Text.quote k ++ ": " ++ diagnostic t) :: diagnosticEntries rest

def diagnosticItems : List Tree -> List String
  | [] => []
  | t :: rest => diagnostic t :: diagnosticItems rest

end

end Tree
end Troupe
