import NodeDeploy.Dict
import NodeDeploy.Text.Numeral

/-! # Catalogs of models

A catalog lists the models of a device family, each with its inventory of interfaces.
-/

namespace NodeDeploy

structure FrontInterface where
  name : String
  speed : String
  deriving DecidableEq, Repr, Inhabited

abbrev Catalog := Dict String (List FrontInterface)

namespace Catalog

/-- The interfaces numbered from one to `n`, each with the speed of its number. -/
def numbered (n : Nat) (speed : Nat → String) : List FrontInterface :=
  (List.range n).map fun i => ⟨"e1-" ++ decimal (i + 1), speed (i + 1)⟩

def srLinux : Catalog :=
  Dict.ofList [("ixrd3l", numbered 34 fun i => if i ≤ 2 then "10G" else "100G")]

def srOs : Catalog := Dict.ofList [("sr-1", numbered 6 fun _ => "100G")]

end Catalog

end NodeDeploy
