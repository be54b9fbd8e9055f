import Troupe.Message.Envelope

/-!
# Handlers

An actor's handlers in the order in which they were bound, each with the type of
the messages it takes.  A message goes to the first handler for its type; handlers
whose type merely has the same id are passed over.
-/

namespace Troupe

abbrev Handlers (α : Type) := List (MessageType × α)

namespace Handlers

variable {α : Type}

def ids (handlers : Handlers α) : List MsgId :=
  handlers.map fun handler => handler.1.id

def accepts (env : Envelope) (handler : MessageType × α) : Bool :=
  handler.1.id == env.id && env.holds handler.1

def select? (handlers : Handlers α) (env : Envelope) : Option α :=
  (handlers.find? (accepts env)).map Prod.snd

end Handlers
end Troupe
