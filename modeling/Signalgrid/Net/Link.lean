set_option autoImplicit false

namespace Signalgrid

inductive Link where
  | up
  | down (reason : String)
deriving Repr, DecidableEq

end Signalgrid
