import Troupe.Actor.Turns

/-!
# Declarations and subscriptions

What an actor's program can do for its outward appearance: declare properties,
subscribe to topics, and publish its table of properties.  Declaring and
subscribing are for startup only.
-/

namespace Troupe
namespace Actor

variable {α : Type}

def subscribe (a : Actor α) (bridge : Bridge) (pattern : String) (reading : Reading) :
    Except ActorError Bridge :=
  if a.isStarting then bridge.bind pattern a.ref reading
  else .error (ActorError.notStarting a.ref.name)

/-- What keeps a declaration from being tried at all. -/
def checkDeclaration (a : Actor α) (info : PropertyInfo) (initial : Tree) :
    Except ActorError Unit :=
  if !a.isStarting then .error (ActorError.notStarting a.ref.name)
  else if (a.props.info? info.name).isSome then
    .error (ActorError.property info.name PropertyFault.declaredTwice)
  else if !info.type.admits initial then
    .error (ActorError.property info.name (PropertyFault.badInitial initial.kind info.type))
  else .ok ()

/-- The first writable property binds the actor to the topic of its writes. -/
def bindWrites (a : Actor α) (bridge : Bridge) (info : PropertyInfo) :
    Except ActorError Bridge :=
  if info.mode.writable && !a.props.anyWritable then
    bridge.bind (a.topic "set") a.ref Reading.setProps
  else .ok bridge

/-- Declares a property with a live value for a start.  Ids count declarations. -/
def declare (a : Actor α) (bridge : Bridge) (info : PropertyInfo) (initial : Handle) :
    Except ActorError Unit × Actor α × Bridge :=
  match a.checkDeclaration info (a.props.store.freeze initial) with
  | .error error => (.error error, a, bridge)
  | .ok () =>
      match a.bindWrites bridge info with
      | .error error => (.error error, a, bridge)
      | .ok bridge =>
          match a.props.insert info.name initial with
          | (.error error, props) => (.error error, { a with props := props }, bridge)
          | (.ok _, props) =>
              let info := { info with id := UInt32.ofNat props.declared.length }
              (.ok (), { a with props := { props with declared := props.declared ++ [info] } },
                bridge)

def publishInfo (a : Actor α) (bridge : Bridge) : Except ActorError Bridge :=
  bridge.publish (a.topic "info") (JsonForm.write a.props.declared)

def announce (a : Actor α) (bridge : Bridge) (message : String) (body : Json) :
    Except ActorError Bridge :=
  bridge.publish (a.topic message) body

end Actor
end Troupe
