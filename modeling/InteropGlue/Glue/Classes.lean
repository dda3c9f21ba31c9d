import InteropGlue.Glue.Events
/-!
# Generated classes

The two abstract classes of the application surface, and the four classes of each native surface:
the entry points, the events that native code raises, the functions, and the forwarder of events.

## Main Definitions

* `ClassNames` — the names of the classes, from a stem.
* `Collaborator` — an object that a class is built around.
* `Library.functionsClass`, `Library.eventsClass` — the abstract classes.
* `Library.entryPointsClass`, `Library.nativeEventsClass`, `Library.nativeFunctionsClass`,
  `Library.forwarderClass` — the classes of a native surface.
-/

namespace InteropGlue

open CSharp

/-- The names of generated classes, which share a stem. -/
structure ClassNames where
  stem : String
  deriving DecidableEq, Repr

namespace ClassNames

variable (names : ClassNames) (target : Target)

/-- The abstract class of functions. -/
def functions : String := names.stem ++ "Functions"

/-- The abstract class of events. -/
def events : String := names.stem ++ "Events"

/-- The class of entry points. -/
def entryPoints : String := names.stem ++ "EntryPoints" ++ target.classSuffix

/-- The class of events that native code raises. -/
def nativeEvents : String := names.stem ++ "NativeEvents" ++ target.classSuffix

/-- The class that implements the functions. -/
def nativeFunctions : String := names.stem ++ "NativeFunctions" ++ target.classSuffix

/-- The class that implements the events. -/
def forwarder : String := names.stem ++ "NativeEventsForwarder" ++ target.classSuffix

end ClassNames

/-- An object that a class is built around: the property that shows it, the parameter of the
constructor, and the field that keeps it. -/
structure Collaborator where
  property : String
  parameter : String
  field : String
  deriving DecidableEq, Repr

/-- The entry points as a collaborator. -/
def Collaborator.entryPoints : Collaborator := ⟨"EntryPoints", "entryPoints", "_entryPoints"⟩

/-- The native events as a collaborator. -/
def Collaborator.nativeEvents : Collaborator := ⟨"NativeEvents", "nativeEvents", "_nativeEvents"⟩

/-- The field, the constructor and the property of a class around a collaborator of a type. -/
def Collaborator.sections (collaborator : Collaborator) (className type : String) :
    List (Section Member) :=
  [.entry (.field [] "private readonly" type collaborator.field none),
    .blank,
    .entry (.constructor className [plainParameter .byValue type collaborator.parameter]
      (.ofSteps [.assign (.name collaborator.field) (.name collaborator.parameter)])),
    .blank,
    .entry (.property type collaborator.property (.name collaborator.field))]

/-- A titled region of conversions of handles and booleans. -/
def scalarSection (target : Target) (bothWays : Bool) : Section Member :=
  .region "Handle and boolean conversions" (Item.spaced (scalarConversions target bothWays))

/-- The name of the delegate type of an entry point. -/
def pointerName (entryPoint : String) : String := entryPoint ++ "FP"

namespace Library

variable (lib : Library) (names : ClassNames)

/-! ### Application surface -/

/-- The abstract class of functions. -/
def functionsClass (mode : Mode) : TypeDecl :=
  { attributes := []
    sort := .abstractClass
    name := names.functions
    base := none
    body := lib.functions.map fun f => .entry (.abstractMethod (lib.signature mode f.name f)) }

/-- The method that ends the use of a class. -/
def disposeSignature : Signature := { returns := "void", name := "Dispose", params := [] }

/-- The abstract class of events. -/
def eventsClass : TypeDecl :=
  { attributes := []
    sort := .abstractClass
    name := names.events
    base := some "IDisposable"
    body :=
      lib.events.map (fun event => .entry (.abstractEvent event.handler.name event.name)) ++
        [.entry (.abstractMethod disposeSignature)] }

/-! ### Native surface -/

variable (target : Target)

/-- The delegate type of the entry point that registers the callback of an event. -/
def registrationDelegate (event : Event) : Delegate :=
  { attributes := [functionPointer]
    signature :=
      { returns := "void"
        name := pointerName event.registration
        params :=
          [plainParameter .byValue (names.nativeEvents target ++ "." ++ event.handler.name)
            "fp"] } }

/-- The delegate types of all entry points. -/
def entryPointDelegates : List Delegate :=
  lib.functions.map (fun f => lib.delegateOf (.native target) (pointerName f.name) f) ++
    lib.events.map (registrationDelegate names target)

/-- The class of entry points: a delegate type and a property for each. -/
def entryPointsClass : TypeDecl :=
  { attributes := []
    sort := .partialClass
    name := names.entryPoints target
    base := none
    body :=
      [.regionOf "Entry point delegate types"
          ((lib.entryPointDelegates names target).map .delegate),
        .blank,
        .regionOf "Entry points"
          (lib.entryPointNames.map fun name => .slot (pointerName name) name)] }

/-- The class of events that native code raises. -/
def nativeEventsClass : TypeDecl :=
  { attributes := []
    sort := .partialClass
    name := names.nativeEvents target
    base := none
    body :=
      Collaborator.entryPoints.sections (names.nativeEvents target) (names.entryPoints target) ++
        [.blank,
          .regionOf "Event delegate types"
            (lib.events.map fun event => .delegate (lib.handlerDelegate (.native target) event)),
          .blank] ++
        lib.nativeEventSections target }

/-- The class that implements the functions, with the conversions it uses. -/
def nativeFunctionsClass : TypeDecl :=
  { attributes := []
    sort := .partialClass
    name := names.nativeFunctions target
    base := some names.functions
    body :=
      Collaborator.entryPoints.sections (names.nativeFunctions target) (names.entryPoints target) ++
        [.blank,
          .region "Function implementations"
            (Item.spaced (lib.functions.map (lib.implementation target))),
          .blank,
          .region "Struct conversions"
            (Item.trailed (lib.structs.flatMap (lib.conversionRoutines target false))),
          .blank,
          .region "Class conversions"
            (Item.trailed (lib.classes.flatMap (lib.conversionRoutines target true))),
          .blank,
          scalarSection target true] }

/-- The class that implements the events by passing native ones on. -/
def forwarderClass : TypeDecl :=
  { attributes := []
    sort := .partialClass
    name := names.forwarder target
    base := some names.events
    body :=
      Collaborator.nativeEvents.sections (names.forwarder target) (names.nativeEvents target) ++
        [.blank] ++ lib.forwardingSections target ++
        [.blank,
          .entry (.method "public override" disposeSignature
            (.ofSteps [.evaluate (.callOwn "DetachForwarders" [])])),
          .blank,
          scalarSection target false] }

end Library

end InteropGlue
