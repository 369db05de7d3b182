/-!
# Platform — Hook

What runs when a thread panics: a chain of observers that ends in the hook the program began with.
-/

namespace Vigil

/-- What runs on a panic. -/
inductive Hook where
  /-- The hook that the program began with. -/
  | base
  /-- Records the panic with a capture, as long as the observer is active, then runs the next
  hook. -/
  | observe (observer capture : Nat) (next : Hook)
  deriving DecidableEq, Repr

namespace Hook

/-- The captures that record a panic, in order, where `active` says which observers still are. -/
def captures (active : Nat → Bool) : Hook → List Nat
  | .base => []
  | .observe observer capture next =>
    if active observer then capture :: next.captures active else next.captures active

end Hook
end Vigil
