/-!
# The network

What a worker finds when it tries to reach a place in the network.
-/

namespace Courier

/-- A place in the network: a host, and the number of a socket there. -/
structure Place where
  /-- The name of the host, or its address. -/
  host : String
  socket : Nat
  deriving DecidableEq, Repr

/-- What is found at a place in the network. -/
inductive Reach (α : Type) where
  /-- The name of the host is not known. -/
  | unknownHost
  /-- Nothing answers at the socket. -/
  | refused
  | found (a : α)

namespace Reach

/-- What is there, or the wording of why it cannot be reached. -/
def contact {α : Type} : Reach α → Except String α
  | unknownHost => .error "failed to lookup address information: Name or service not known"
  | refused => .error "Connection refused (os error 111)"
  | found a => .ok a

/-- What is there, if it has been reached. -/
def found? {α : Type} (reach : Reach α) : Option α := reach.contact.toOption

end Reach

/-- A failure to reach a place, or to understand where it is, as an error of input and output. -/
def transferFault (text : String) : String := "IO error: " ++ text

end Courier
