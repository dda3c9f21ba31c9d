import InteropGlue.Glue.Conversions
import InteropGlue.Text.CamelCase
/-!
# Events

Two classes pass events on. The native events class registers one callback of each event with the
native library; the forwarder registers one forwarding method with the native events class. Both
register when the first handler is added and unregister when the last one is removed, and count
their handlers to know when that is.

## Main Definitions

* `Event.fieldName`, `Event.countName`, `Event.callbackName` — the private fields of an event.
* `accessors` — what adding and removing a handler do.
* `Library.raiser` — the method that calls the handlers.
* `Library.nativeEventSections`, `Library.forwardingSections` — the parts of the two classes.
-/

namespace InteropGlue

open CSharp

namespace Event

variable (event : Event)

/-- The field that holds the handlers of an event. -/
def fieldName : String := "_" ++ Text.lowerCamel event.name

/-- The field that holds the number of handlers. -/
def countName : String := event.fieldName ++ "Subscribers"

/-- The field that holds the callback while it is registered, so that it stays reachable. -/
def callbackName : String := event.fieldName ++ "Callback"

/-- The method that calls the handlers. -/
def raiserName : String := "On" ++ event.name

/-- The method that passes a native callback on. -/
def forwarderName : String := "Forward" ++ event.name

/-- The handlers of an event. -/
def handlers : Expr := .name event.fieldName

/-- The number of handlers. -/
def subscribers : Expr := .name event.countName

/-- The callback of an event. -/
def callback : Expr := .name event.callbackName

end Event

/-- The entry points, as members of a class with that collaborator reach them. -/
def entryPointsExpr : Expr := .name "EntryPoints"

/-- The native events, as members of a class with that collaborator reach them. -/
def nativeEventsExpr : Expr := .name "NativeEvents"

/-- The effect of adding and removing a handler. `register` runs when there is a first handler, and
`unregister` when there is none left. Removing what was not added changes nothing. -/
def accessors (event : Event) (register unregister : List Step) : Block × Block :=
  let value := Expr.name "value"
  let previous := Expr.name "previous"
  let noValue := Expr.compare .equal value .null
  let unchanged := Expr.callOwn "ReferenceEquals" [previous, event.handlers]
  (.guarded noValue (.ofSteps [.leave none])
      (.step (.attach event.handlers value)
        (.step (.increment event.subscribers)
          (.ifHolds (.compare .equal event.subscribers (.number 1)) (.ofSteps register)))),
    .guarded noValue (.ofSteps [.leave none])
      (.step (.bind "previous" event.handlers)
        (.step (.detach event.handlers value)
          (.guarded unchanged (.ofSteps [.leave none])
            (.step (.decrement event.subscribers)
              (.ifHolds (.compare .equal event.subscribers (.number 0))
                (.ofSteps unregister)))))))

namespace Event

variable (event : Event)

/-- The call that gives the native library a callback, or takes it back. -/
def setCallback (callback : Expr) : Step :=
  .evaluate (.call (.member entryPointsExpr event.registration) [.value callback])

/-- The accessors of an event of the native events class. -/
def nativeAccessors : Block × Block :=
  accessors event
    [.assign event.callback (.name event.raiserName), event.setCallback event.callback]
    [event.setCallback .null, .assign event.callback .null]

/-- The native event that a forwarder subscribes to. -/
def nativeEvent : Expr := .member nativeEventsExpr event.name

/-- The forwarding method taken off the native event. -/
def detachForwarder : Step := .detach event.nativeEvent (.name event.forwarderName)

/-- The accessors of an event of the forwarder. -/
def forwardingAccessors : Block × Block :=
  accessors event [.attach event.nativeEvent (.name event.forwarderName)] [event.detachForwarder]

/-- An event of a class, with its accessors. -/
def member (modifiers : String) (bodies : Block × Block) : Member :=
  .event modifiers event.handler.name event.name bodies.1 bodies.2

/-- A private field of an event. -/
def privateField (type name : String) : Member := .field [] "private" type name none

/-- The private fields of an event in the native events class. -/
def nativeFields : List Member :=
  [privateField event.handler.name event.fieldName,
    privateField event.handler.name event.callbackName,
    privateField "int" event.countName]

/-- The private fields of an event in the forwarder. -/
def forwardingFields : List Member :=
  [privateField event.handler.name event.fieldName, privateField "int" event.countName]

end Event

namespace Library

variable (lib : Library)

/-- The method that calls the handlers of an event, if there are any. -/
def raiser (mode : Mode) (event : Event) : Member :=
  let handler := Expr.name "handler"
  .method "protected virtual"
    { returns := "void", name := event.raiserName, params := lib.parameters mode event.handler }
    (.step (.bind "handler" event.handlers)
      (.ifHolds (.compare .notEqual handler .null)
        (.ofSteps [.evaluate
          (.callOwn "handler" (event.handler.params.map fun p => .name p.name))])))

/-- The argument that a native callback passes on for a parameter. -/
def forwardedArgument (p : Param) : Expr :=
  match lib.kindOf p.type with
  | .handle => wrapCall (.name p.name)
  | .bool => .callOwn "ToBool" [.name p.name]
  | _ => .name p.name

/-- The method that passes a native callback on to the handlers of the application. -/
def forwarder (target : Target) (event : Event) : Member :=
  .method "private"
    { returns := "void"
      name := event.forwarderName
      params := lib.parameters (.native target) event.handler }
    (.ofSteps [.evaluate
      (.callOwn event.raiserName (event.handler.params.map lib.forwardedArgument))])

/-- The events of the native events class. -/
def nativeEventSections (target : Target) : List (Section Member) :=
  [.regionOf "Event fields" (lib.events.flatMap Event.nativeFields),
    .blank,
    .regionOf "Event properties"
      (lib.events.map fun event => event.member "public" event.nativeAccessors),
    .blank,
    .regionOf "Event raisers" (lib.events.map (lib.raiser (.native target)))]

/-- The method that takes all forwarding methods off the native events. -/
def detachRoutine : Member :=
  .method "private" { returns := "void", name := "DetachForwarders", params := [] }
    (.ofSteps (lib.events.flatMap fun event =>
      [event.detachForwarder, .assign event.handlers .null,
        .assign event.subscribers (.number 0)]))

/-- The events of the forwarder. -/
def forwardingSections (target : Target) : List (Section Member) :=
  [.regionOf "Event fields" (lib.events.flatMap Event.forwardingFields),
    .blank,
    .regionOf "Event properties"
      (lib.events.map fun event => event.member "public override" event.forwardingAccessors),
    .blank,
    .regionOf "Event raisers" (lib.events.map (lib.raiser (.application target))),
    .blank,
    .regionOf "Event forwarders" (lib.events.map (lib.forwarder target)),
    .blank,
    .regionOf "Detach forwarders" [lib.detachRoutine]]

end Library

end InteropGlue
