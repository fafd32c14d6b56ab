import Harvester.Control.Store
import Harvester.Control.Action

/-!
# Kubernetes objects

The key of a namespaced object, owner references, the errors of API requests, and the arithmetic on
`int64`.
-/

namespace Harvester

/-- A result of the arithmetic on `int64`, which wraps around. -/
def int64 (i : Int) : Int := i.bmod 18446744073709551616

theorem int64_eq {i : Int} (hlow : -9223372036854775808 ≤ i) (hhigh : i < 9223372036854775808) :
    int64 i = i := by
  exact Int.bmod_eq_of_le (by omega) (by omega)

/-- The namespace and the name of an object. -/
structure Key where
  ns : String
  name : String
  deriving DecidableEq, Repr

/-- `namespace/name`. -/
def Key.text (k : Key) : String := k.ns ++ "/" ++ k.name

/-- An owner reference; the API version is determined by the kind. -/
structure OwnerReference where
  kind : String
  name : String
  uid : String
  controller : Bool
  blockOwnerDeletion : Bool
  deriving DecidableEq, Repr

/-- An error value, by what the code can tell about it. -/
inductive Err where
  /-- `apierrors.IsNotFound` holds. -/
  | notFound (key : Key)
  /-- An update was sent with an old resource version. -/
  | conflict (key : Key)
  /-- `apierrors.IsAlreadyExists` holds. -/
  | alreadyExists (key : Key)
  /-- Any other error, with its text. -/
  | other (message : String)
  deriving DecidableEq, Repr

namespace Err

/-- `IsNotFound`. -/
def isNotFound : Err → Bool
  | notFound _ => true
  | _ => false

/-- `IsAlreadyExists`. -/
def isAlreadyExists : Err → Bool
  | alreadyExists _ => true
  | _ => false

/-- `err.Error()`; the API server's own texts are shortened. -/
def text : Err → String
  | notFound k => k.name ++ " not found"
  | conflict k => k.name ++ ": the object has been modified"
  | alreadyExists k => k.name ++ " already exists"
  | other message => message

end Err

end Harvester
