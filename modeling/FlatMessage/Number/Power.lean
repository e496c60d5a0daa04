/-!
# Powers of natural numbers

Limits and scales are powers of natural numbers.  They are the powers of the core
library, also where monoids come with powers of their own.
-/

namespace FlatMessage

@[default_instance 20000]
scoped instance (priority := high) powNat : Pow Nat Nat :=
  instPowNat

end FlatMessage
