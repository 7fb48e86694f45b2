/-
# JSON values

The values that documents are made of.  The keys of an object keep their order.
-/

import CurveSheet.Number.Binary64

namespace CurveSheet

/-- A JSON value; numbers are counts or measurements. -/
inductive Json where
  | bool (b : Bool)
  | count (n : Nat)
  | real (x : Finite)
  | text (s : String)
  | list (items : List Json)
  | object (fields : List (String × Json))

end CurveSheet
