import InteropGlue.Proofs.Glue.Routines
/-!
# Function implementations are well typed

Five phases make the body of a function, each by its own case split on kinds and directions. The
check of a library rejects the shapes without a conversion, and what it lets through is typed: the
arguments fit the delegate of the entry point, every conversion is applied to an operand of its type,
and what is written back or returned has the type that the override declares.

## Main Definitions

* `Library.surroundings` — the classes around the body of a function.
* `Library.Prepared` — the variables in scope after the temporaries.

## Main Results

* `Library.offers_iff` — an entry point has exactly one delegate.
* `Library.callArgument_fits` — the argument for a parameter fits the native parameter.
* `Library.implementation_wellTyped` — every function of an accepted library is implemented by a
  well-typed method.
-/

namespace InteropGlue

open CSharp

namespace Library

/-- The classes around the body of a function. -/
def surroundings (lib : Library) (names : ClassNames) (target : Target) : Surroundings :=
  { own := lib.nativeFunctionsClass names target
    conversions := (lib.routines target).filterMap Member.signature?
    entryPoints := lib.entryPointsClass names target
    records := lib.recordDecls (.application target) ++ lib.recordDecls (.native target) }

variable {lib : Library} {names : ClassNames} {target : Target} {scope : Scope}

/-! ### Entry points -/

/-- In an accepted library an entry point has exactly one delegate, that of its function. -/
theorem offers_iff (accepted : lib.Accepted) {f : Function} (member : f ∈ lib.functions)
    (signature : Signature) :
    (lib.surroundings names target).Offers f.name signature ↔
      signature = lib.signature (.native target) (pointerName f.name) f := by
  have distinct := accepted.sound.entryPointNames_nodup
  simp only [entryPointNames, List.nodup_append] at distinct
  obtain ⟨functionsDistinct, -, apart⟩ := distinct
  constructor
  · rintro ⟨-, slot, attributes, declared⟩
    obtain ⟨name, -, same⟩ := (mem_entryPointsClass_members.mp slot).resolve_left (by simp)
    obtain ⟨isPointer, rfl⟩ := Member.slot.inj same
    obtain ⟨delegate, isEntry, same⟩ :=
      (mem_entryPointsClass_members.mp declared).resolve_right (by simp)
    obtain rfl := Member.delegate.inj same
    rcases List.mem_append.mp isEntry with ofFunction | ofEvent
    · obtain ⟨g, isFunction, same⟩ := List.mem_map.mp ofFunction
      have signatures : lib.signature (.native target) (pointerName g.name) g = signature :=
        congrArg Delegate.signature same
      have names : g.name = f.name :=
        pointerName_injective ((congrArg Signature.name signatures).trans isPointer.symm)
      obtain rfl := List.inj_on_of_nodup_map functionsDistinct isFunction member names
      exact signatures.symm
    · obtain ⟨event, isEvent, same⟩ := List.mem_map.mp ofEvent
      have signatures : (registrationDelegate names target event).signature = signature :=
        congrArg Delegate.signature same
      have names : event.registration = f.name :=
        pointerName_injective ((congrArg Signature.name signatures).trans isPointer.symm)
      exact absurd names.symm (apart f.name (List.mem_map_of_mem member) event.registration
        (List.mem_map_of_mem isEvent))
  · rintro rfl
    refine ⟨⟨.name "_entryPoints", ?_⟩, ?_, ?_⟩
    · simp [surroundings, TypeDecl.members, nativeFunctionsClass, entryPointsClass,
        Collaborator.sections, Collaborator.entryPoints]
    · refine mem_entryPointsClass_members.mpr (.inr ⟨f.name, ?_, rfl⟩)
      exact List.mem_append_left _ (List.mem_map_of_mem member)
    · have declared : lib.delegateOf (.native target) (pointerName f.name) f ∈
          lib.entryPointDelegates names target :=
        List.mem_append_left _ (List.mem_map.mpr ⟨f, member, rfl⟩)
      exact ⟨_, mem_entryPointsClass_members.mpr (.inl ⟨_, declared, rfl⟩)⟩

/-! ### Conversions -/

variable {type : TypeRef} {value : Expr}

/-- A conversion is a method of the class. -/
theorem hasType_conversion {signature : Signature} {args : List Arg}
    (listed : signature ∈ (lib.routines target).filterMap Member.signature?)
    (fit : Fits (lib.surroundings names target) scope args signature.params) :
    HasType (lib.surroundings names target) scope (.call (.name signature.name) args)
      signature.returns := by
  have method : signature ∈ (lib.surroundings names target).own.methods :=
    conversions_subset_methods names listed
  exact .conversion listed method fit

/-- Converting a value of a type that is converted as a whole gives a value of its other spelling. -/
theorem hasType_convert (conversion : Conversion) (crossing : lib.Crossing type)
    (machine : (machineParam, "int") ∈ scope)
    (operand : HasType (lib.surroundings names target) scope value
      (lib.typeName (conversion.sourceMode target) type)) :
    HasType (lib.surroundings names target) scope
      (.callOwn conversion.valueRoutine [machineExpr, value])
      (lib.typeName (conversion.destMode target) type) := by
  obtain ⟨name, listed⟩ := @exists_valueRoutine lib target conversion type crossing
  refine hasType_conversion listed ?_
  exact .cons rfl (.variable machine) (.cons rfl operand .nil)

theorem hasType_unwrapCall (crossing : lib.Crossing type) (machine : (machineParam, "int") ∈ scope)
    (operand : HasType (lib.surroundings names target) scope value
      (lib.typeName (.application target) type)) :
    HasType (lib.surroundings names target) scope (unwrapCall value)
      (lib.typeName (.native target) type) :=
  hasType_convert .unwrap crossing machine operand

theorem hasType_wrapCall (crossing : lib.Crossing type) (machine : (machineParam, "int") ∈ scope)
    (operand : HasType (lib.surroundings names target) scope value
      (lib.typeName (.native target) type)) :
    HasType (lib.surroundings names target) scope (wrapCall value)
      (lib.typeName (.application target) type) :=
  hasType_convert .wrap crossing machine operand

/-- A new instance of a record has the type that the surface spells. -/
theorem hasType_create (isClass isNative : Bool)
    (kind : lib.kindOf type = if isClass then .classType else .structType) :
    HasType (lib.surroundings names target) scope (.create (lib.typeName ⟨isNative, target⟩ type) [])
      (lib.typeName ⟨isNative, target⟩ type) := by
  have crossing : lib.Crossing type := by
    rw [Crossing, kind]
    cases isClass <;> simp
  obtain ⟨name, rfl⟩ := crossing.exists_named
  obtain ⟨record, declared, rfl⟩ := exists_record isClass kind
  have isDeclared := recordDecl_mem ⟨isNative, target⟩ declared
  have listed : lib.recordDecl ⟨isNative, target⟩ isClass record ∈
      (lib.surroundings names target).records := by
    cases isNative with
    | false => exact List.mem_append_left _ isDeclared
    | true => exact List.mem_append_right _ isDeclared
  exact .create listed

/-! ### Variables in scope -/

/-- The parameters of a function as variables. -/
def parameterScope (lib : Library) (target : Target) (f : Function) : Scope :=
  (lib.parameters (.application target) f).map fun p => (p.name, p.type)

/-- What the phases after the temporaries find in scope: the parameters and the temporaries. -/
structure Prepared (lib : Library) (target : Target) (f : Function) (scope : Scope) : Prop where
  params : lib.parameterScope target f ⊆ scope
  temporaries : ∀ p ∈ f.params, lib.Crossing p.type → p.isWritten = true →
    (p.temporary, lib.nativeType target p) ∈ scope

variable {f : Function} {p : Param}

theorem mem_parameterScope (isParam : p ∈ f.params) :
    (p.name, lib.typeName (.application target) p.type) ∈ lib.parameterScope target f := by
  simp only [parameterScope, parameters, List.map_map]
  exact List.mem_map_of_mem isParam

/-- A function that converts something has the key in scope, as an `int`. -/
theorem machine_mem_parameterScope (keyed : lib.Keyed f)
    (converts : lib.Converted f.returnType ∨ ∃ p ∈ f.params, lib.Converted p.type) :
    (machineParam, "int") ∈ lib.parameterScope target f := by
  obtain ⟨key, found, isInt⟩ := keyed converts
  have named : key.name = machineParam := by simpa using List.find?_some found
  have isParam : key ∈ f.params := List.mem_of_find?_eq_some found
  have declared := @mem_parameterScope lib target f key isParam
  rwa [named, isInt, typeName_application_named] at declared

theorem mem_paramsOfKind {kind : Kind} {written : Bool} :
    p ∈ lib.paramsOfKind f kind written ↔
      p ∈ f.params ∧ lib.kindOf p.type = kind ∧ p.isWritten = written := by
  simp [paramsOfKind]

/-- What is neither a handle nor a record nor a boolean, nor an array of these, is plain. -/
theorem plainArray_of_kind (arrays : lib.kindOf type = .array → lib.PlainArray type)
    (notCrossing : ¬ lib.Crossing type) (notBool : lib.kindOf type ≠ .bool) :
    lib.PlainArray type := by
  cases type with
  | array element count => exact arrays rfl
  | named name =>
    refine ⟨notCrossing, ?_⟩
    rw [TypeRef.innermost]
    rintro rfl
    exact notBool (kindOf_eq_bool_iff.mpr rfl)

/-! ### The five phases -/

/-- The argument for a parameter has the keyword and the type of the native parameter. -/
theorem callArgument_fits (prepared : lib.Prepared target f scope) (isParam : p ∈ f.params)
    (keyed : lib.Keyed f) (convertible : lib.Convertible p) :
    Fits (lib.surroundings names target) scope [lib.callArgument p]
      [lib.parameter (.native target) p] := by
  have declared : (p.name, lib.typeName (.application target) p.type) ∈ scope :=
    prepared.params (mem_parameterScope isParam)
  by_cases crossing : lib.Crossing p.type
  · have machine : (machineParam, "int") ∈ scope :=
      prepared.params (machine_mem_parameterScope keyed (.inr ⟨p, isParam, crossing.converted⟩))
    have argument : lib.callArgument p =
        if p.isWritten then .pass p.direction.passing (.name p.temporary)
        else .value (unwrapCall (.name p.name)) := by
      rcases crossing with kind | kind | kind <;> rw [callArgument, kind]
    rw [argument]
    split
    · rename_i written
      exact .cons rfl (.variable (prepared.temporaries p isParam crossing written)) .nil
    · rename_i notWritten
      have input : p.direction = .input :=
        isWritten_eq_false_iff.mp (Bool.not_eq_true _ ▸ notWritten)
      refine .cons ?_ (hasType_unwrapCall crossing machine (.variable declared)) .nil
      rw [parameter, input]
      rfl
  · by_cases isBool : lib.kindOf p.type = .bool
    · obtain name := kindOf_eq_bool_iff.mp isBool
      have converted : HasType (lib.surroundings names target) scope
          (.callOwn "ToBOOL" [.name p.name]) nativeBool := by
        have listed : ⟨nativeBool, "ToBOOL", [plainParameter .byValue "bool" "value"]⟩ ∈
            (lib.routines target).filterMap Member.signature? :=
          signature_mem_conversions toNativeBoolRoutine (by simp [routines, scalarConversions]) rfl
        refine hasType_conversion listed (.cons rfl (.variable ?_) .nil)
        rwa [name, typeName_application_named] at declared
      rw [callArgument, isBool]
      refine .cons rfl ?_ .nil
      rw [parameter, name, typeName_native_bool]
      exact converted
    · have argument : lib.callArgument p = .pass p.direction.passing (.name p.name) := by
        rw [Crossing] at crossing
        rw [callArgument]
        split <;> simp_all
      rw [argument]
      refine .cons rfl (.variable ?_) .nil
      have plain := plainArray_of_kind convertible.2.2 crossing isBool
      rw [parameter, typeName_eq_of_plain plain (.native target) (.application target)]
      exact declared

theorem Crossing.ne_void (crossing : lib.Crossing type) : type ≠ .named "void" := by
  rintro rfl
  have isVoid : lib.kindOf (.named "void") = .void := kindOf_eq_void_iff.mpr rfl
  rw [Crossing, isVoid] at crossing
  simp at crossing

section Temporaries

variable (subset : lib.parameterScope target f ⊆ scope) (isParam : p ∈ f.params)
include subset isParam

/-- A temporary that starts with the converted value of its parameter. -/
theorem unwrapTemporary_typed (keyed : lib.Keyed f) (crossing : lib.Crossing p.type) :
    StepTyped (lib.surroundings names target) scope
      (.bind p.temporary (unwrapCall (.name p.name)))
      ((p.temporary, lib.nativeType target p) :: scope) := by
  have machine : (machineParam, "int") ∈ scope :=
    subset (machine_mem_parameterScope keyed (.inr ⟨p, isParam, crossing.converted⟩))
  have declared := subset (@mem_parameterScope lib target f p isParam)
  exact .bind (hasType_unwrapCall crossing machine (.variable declared))
    (typeName_ne_void _ crossing.ne_void)

theorem handleTemporary_typed (keyed : lib.Keyed f) (kind : lib.kindOf p.type = .handle) :
    StepTyped (lib.surroundings names target) scope (lib.handleTemporary target p)
      ((p.temporary, lib.nativeType target p) :: scope) := by
  rw [handleTemporary]
  split
  · exact unwrapTemporary_typed subset isParam keyed (.inl kind)
  · exact .declare

theorem structTemporary_typed (keyed : lib.Keyed f) (kind : lib.kindOf p.type = .structType) :
    StepTyped (lib.surroundings names target) scope (lib.structTemporary target p)
      ((p.temporary, lib.nativeType target p) :: scope) := by
  have crossing : lib.Crossing p.type := .inr (.inl kind)
  have created : StepTyped (lib.surroundings names target) scope
      (.bind p.temporary (.create (lib.nativeType target p) []))
      ((p.temporary, lib.nativeType target p) :: scope) :=
    .bind (hasType_create false true kind) (typeName_ne_void _ crossing.ne_void)
  rw [structTemporary]
  split
  · exact unwrapTemporary_typed subset isParam keyed crossing
  · exact .declare
  · exact created
  · exact created

theorem classTemporary_typed (keyed : lib.Keyed f) (kind : lib.kindOf p.type = .classType) :
    StepTyped (lib.surroundings names target) scope (lib.classTemporary target p)
      ((p.temporary, lib.nativeType target p) :: scope) := by
  have crossing : lib.Crossing p.type := .inr (.inr kind)
  rw [classTemporary]
  split
  · exact unwrapTemporary_typed subset isParam keyed crossing
  · exact .bind (hasType_create true true kind) (typeName_ne_void _ crossing.ne_void)

end Temporaries

/-- The temporaries are typed, and prepare the scope for what follows. -/
theorem temporaries_typed (keyed : lib.Keyed f) {returns : String} {rest : List Step}
    (follows : ∀ later, lib.Prepared target f later →
      BodyTyped (lib.surroundings names target) returns later rest) :
    BodyTyped (lib.surroundings names target) returns (lib.parameterScope target f)
      (lib.temporaries target f ++ rest) := by
  rw [temporaries, List.append_assoc, List.append_assoc]
  refine BodyTyped.declare_each Param.temporary (lib.nativeType target) ?_ ?_
  · intro p bucket later subset
    obtain ⟨isParam, kind, -⟩ := mem_paramsOfKind.mp bucket
    exact handleTemporary_typed subset isParam keyed kind
  intro withHandles subset handles
  refine BodyTyped.declare_each Param.temporary (lib.nativeType target) ?_ ?_
  · intro p bucket later further
    obtain ⟨isParam, kind, -⟩ := mem_paramsOfKind.mp bucket
    exact structTemporary_typed (List.Subset.trans subset further) isParam keyed kind
  intro withStructs further structs
  refine BodyTyped.declare_each Param.temporary (lib.nativeType target) ?_ ?_
  · intro p bucket later last
    obtain ⟨isParam, kind, -⟩ := mem_paramsOfKind.mp bucket
    exact classTemporary_typed (List.Subset.trans subset (List.Subset.trans further last)) isParam
      keyed kind
  intro later last classes
  refine follows later ⟨List.Subset.trans subset (List.Subset.trans further last), ?_⟩
  rintro p isParam (kind | kind | kind) written
  · exact last (further (handles p (mem_paramsOfKind.mpr ⟨isParam, kind, written⟩)))
  · exact last (structs p (mem_paramsOfKind.mpr ⟨isParam, kind, written⟩))
  · exact classes p (mem_paramsOfKind.mpr ⟨isParam, kind, written⟩)

/-- A handle or struct written back is a value of the type of its parameter. -/
theorem valueWriteBack_typed (prepared : lib.Prepared target f scope) (isParam : p ∈ f.params)
    (keyed : lib.Keyed f) (crossing : lib.Crossing p.type) (written : p.isWritten = true) :
    StepTyped (lib.surroundings names target) scope (valueWriteBack p) scope := by
  have machine : (machineParam, "int") ∈ scope :=
    prepared.params (machine_mem_parameterScope keyed (.inr ⟨p, isParam, crossing.converted⟩))
  have declared := prepared.params (@mem_parameterScope lib target f p isParam)
  have temporary := prepared.temporaries p isParam crossing written
  exact .assign (.variable declared) (hasType_wrapCall crossing machine (.variable temporary))

/-- A class is written back into an instance of the type of its parameter. -/
theorem classWriteBack_typed (prepared : lib.Prepared target f scope) (isParam : p ∈ f.params)
    (keyed : lib.Keyed f) (kind : lib.kindOf p.type = .classType) (written : p.isWritten = true)
    {step : Step} (member : step ∈ lib.classWriteBack target p) :
    StepTyped (lib.surroundings names target) scope step scope := by
  have crossing : lib.Crossing p.type := .inr (.inr kind)
  have machine : (machineParam, "int") ∈ scope :=
    prepared.params (machine_mem_parameterScope keyed (.inr ⟨p, isParam, crossing.converted⟩))
  have declared := prepared.params (@mem_parameterScope lib target f p isParam)
  rcases List.mem_append.mp member with created | copied
  · split at created
    · obtain rfl := List.mem_singleton.mp created
      exact .assign (.variable declared) (hasType_create true false kind)
    · simp at created
  · obtain rfl := List.mem_singleton.mp copied
    have temporary := prepared.temporaries p isParam crossing written
    have listed := @copyRoutine_mem_conversions lib target .wrap p.type kind
    refine .evaluate (hasType_conversion listed ?_)
    exact .cons rfl (.variable machine) (.cons rfl (.variable temporary)
      (.cons rfl (.variable declared) .nil))

/-- The result has the type that the override declares, and `void` has none. -/
theorem returnSteps_typed (prepared : lib.Prepared target f scope) (keyed : lib.Keyed f)
    (plain : lib.kindOf f.returnType = .array → lib.PlainArray f.returnType)
    (result : f.returnType ≠ .named "void" →
      (resultName, lib.typeName (.native target) f.returnType) ∈ scope) :
    BodyTyped (lib.surroundings names target) (lib.typeName (.application target) f.returnType) scope
      (lib.returnSteps f) := by
  by_cases isVoid : f.returnType = .named "void"
  · have nothing : lib.returnSteps f = [] := by
      rw [returnSteps, kindOf_eq_void_iff.mpr isVoid]
    rw [nothing, isVoid]
    exact .finish rfl
  have returned := result isVoid
  have notVoid : lib.typeName (.application target) f.returnType ≠ "void" :=
    typeName_ne_void _ isVoid
  by_cases crossing : lib.Crossing f.returnType
  · have machine : (machineParam, "int") ∈ scope :=
      prepared.params (machine_mem_parameterScope keyed (.inl crossing.converted))
    have steps : lib.returnSteps f = [.leave (some (wrapCall (.name resultName)))] := by
      rcases crossing with kind | kind | kind <;> rw [returnSteps, kind]
    rw [steps]
    exact .leave notVoid (hasType_wrapCall crossing machine (.variable returned))
  · by_cases isBool : lib.kindOf f.returnType = .bool
    · have name := kindOf_eq_bool_iff.mp isBool
      have steps : lib.returnSteps f = [.leave (some (.callOwn "ToBool" [.name resultName]))] := by
        rw [returnSteps, isBool]
      have listed : ⟨"bool", "ToBool", [plainParameter .byValue nativeBool "value"]⟩ ∈
          (lib.routines target).filterMap Member.signature? :=
        signature_mem_conversions toBoolRoutine (by simp [routines, scalarConversions]) rfl
      rw [name, typeName_native_bool] at returned
      rw [name] at notVoid
      rw [steps, name]
      exact .leave notVoid (hasType_conversion listed (.cons rfl (.variable returned) .nil))
    · have steps : lib.returnSteps f = [.leave (some (.name resultName))] := by
        have notVoidKind : lib.kindOf f.returnType ≠ .void := fun kind =>
          isVoid (kindOf_eq_void_iff.mp kind)
        rw [Crossing] at crossing
        rw [returnSteps]
        split <;> simp_all
      have same := typeName_eq_of_plain (plainArray_of_kind plain crossing isBool)
        (.native target) (.application target)
      rw [steps]
      rw [same] at returned
      exact .leave notVoid (.variable returned)

/-- What follows the entry call is typed: handles are kept alive, written parameters converted back
and the result returned. -/
theorem afterCall_typed (prepared : lib.Prepared target f scope) (keyed : lib.Keyed f)
    (plain : lib.kindOf f.returnType = .array → lib.PlainArray f.returnType)
    (result : f.returnType ≠ .named "void" →
      (resultName, lib.typeName (.native target) f.returnType) ∈ scope) :
    BodyTyped (lib.surroundings names target) (lib.typeName (.application target) f.returnType) scope
      (lib.keepAlives f ++ (lib.writeBacks target f ++ lib.returnSteps f)) := by
  refine BodyTyped.run_each ?_ (BodyTyped.run_each ?_ (returnSteps_typed prepared keyed plain result))
  · intro step member
    obtain ⟨p, bucket, rfl⟩ := List.mem_map.mp member
    obtain ⟨isParam, -⟩ := mem_paramsOfKind.mp bucket
    exact .keepAlive (.variable (prepared.params (mem_parameterScope isParam)))
  · intro step member
    rcases List.mem_append.mp member with ofValue | ofClass
    · obtain ⟨p, bucket, rfl⟩ := List.mem_map.mp ofValue
      rcases List.mem_append.mp bucket with handle | struct
      · obtain ⟨isParam, kind, written⟩ := mem_paramsOfKind.mp handle
        exact valueWriteBack_typed prepared isParam keyed (.inl kind) written
      · obtain ⟨isParam, kind, written⟩ := mem_paramsOfKind.mp struct
        exact valueWriteBack_typed prepared isParam keyed (.inr (.inl kind)) written
    · obtain ⟨p, bucket, ofParam⟩ := List.mem_flatMap.mp ofClass
      obtain ⟨isParam, kind, written⟩ := mem_paramsOfKind.mp bucket
      exact classWriteBack_typed prepared isParam keyed kind written ofParam

/-- The call of the entry point is typed, with a local for the result unless there is none. -/
theorem entryCall_typed (accepted : lib.Accepted) (member : f ∈ lib.functions)
    (prepared : lib.Prepared target f scope) :
    StepTyped (lib.surroundings names target) scope (lib.entryCall f)
      (if f.returnType.isVoid then scope
      else (resultName, lib.typeName (.native target) f.returnType) :: scope) := by
  have sound := accepted.sound
  have isSignature : f ∈ lib.signatures := List.mem_append_left _ member
  have offered : (lib.surroundings names target).Offers f.name
      (lib.signature (.native target) (pointerName f.name) f) := (offers_iff accepted member _).mpr rfl
  have called : HasType (lib.surroundings names target) scope
      (.call (.member (.name "EntryPoints") f.name) (f.params.map lib.callArgument))
      (lib.typeName (.native target) f.returnType) := by
    refine HasType.entryPoint offered (Fits.of_forall ?_)
    intro p isParam
    exact callArgument_fits prepared isParam (sound.keyed f isSignature)
      (sound.param_convertible f member p isParam)
  rw [entryCall]
  by_cases isVoid : f.returnType.isVoid = true
  · simp only [isVoid, ↓reduceIte]
    exact .evaluate called
  · simp only [isVoid]
    exact .bind called (typeName_ne_void _ fun same => isVoid (TypeRef.isVoid_iff.mpr same))

/-- Every function of an accepted library is implemented by a well-typed method. Its entry point has
the one delegate of the function, its conversions are methods of its own class, and it ends with a
value of the type that the override declares, or without any for `void`. -/
theorem implementation_wellTyped (accepted : lib.Accepted) (names : ClassNames) (target : Target)
    (member : f ∈ lib.functions) :
    lib.implementation target f ∈ (lib.surroundings names target).own.members ∧
      (∀ signature, (lib.surroundings names target).Offers f.name signature ↔
        signature = lib.signature (.native target) (pointerName f.name) f) ∧
      MethodTyped (lib.surroundings names target) (lib.implementation target f) := by
  refine ⟨implementation_mem names member, offers_iff accepted member, .intro ?_⟩
  have sound := accepted.sound
  have isSignature : f ∈ lib.signatures := List.mem_append_left _ member
  have keyed := sound.keyed f isSignature
  have plain := sound.return_plain f member
  rw [implementationSteps, List.append_assoc, List.append_assoc, List.append_assoc]
  refine temporaries_typed keyed fun scope prepared => ?_
  refine .step (entryCall_typed accepted member prepared) ?_
  by_cases isVoid : f.returnType.isVoid = true
  · rw [if_pos isVoid]
    exact afterCall_typed prepared keyed plain
      fun notVoid => absurd (TypeRef.isVoid_iff.mp isVoid) notVoid
  · rw [if_neg isVoid]
    have later : lib.Prepared target f
        ((resultName, lib.typeName (.native target) f.returnType) :: scope) :=
      { params := fun _ declared => List.mem_cons_of_mem _ (prepared.params declared)
        temporaries := fun p isParam crossing written =>
          List.mem_cons_of_mem _ (prepared.temporaries p isParam crossing written) }
    exact afterCall_typed later keyed plain fun _ => List.mem_cons_self

end Library

/-! ### A small library -/

namespace Sample

/-- A function with a parameter of every treatment: unwrapped, written by reference, filled as a
buffer, converted as a boolean, and passed on. -/
def getItems : Function :=
  { name := "GetItems"
    returnType := .named "bool"
    params :=
      [⟨"vmid", .named "int", .input, none⟩,
        ⟨"context", .named "JavaObjectHandle", .input, none⟩,
        ⟨"child", .named "JavaObjectHandle", .output, none⟩,
        ⟨"corner", .named "Point", .byRef, none⟩,
        ⟨"items", .named "Items", .buffer, none⟩,
        ⟨"visible", .named "bool", .input, none⟩,
        ⟨"total", .named "int", .output, none⟩]
    returnMarshal := none }

/-- A struct with a handle. -/
def point : Record :=
  { name := "Point"
    fields := [⟨"x", .named "int", none⟩, ⟨"owner", .named "JavaObjectHandle", none⟩] }

/-- A class with a struct, a boolean, and a counted array of structs. -/
def items : Record :=
  { name := "Items"
    fields :=
      [⟨"count", .named "int", none⟩, ⟨"visible", .named "bool", none⟩,
        ⟨"first", .named "Point", none⟩, ⟨"points", .array (.named "Point") (some "count"), none⟩] }

/-- A library with one function, a struct and a class. -/
def library : Library :=
  { Library.empty with functions := [getItems], structs := [point], classes := [items] }

theorem library_accepted : library.Accepted := by cbv

theorem library_plain : library.PlainRecords := by
  simp only [Library.PlainRecords]
  decide

theorem library_unmarked : library.UnmarkedNames := by
  simp only [Library.UnmarkedNames]
  decide

/-- The function of the small library is implemented by a well-typed method. -/
theorem getItems_wellTyped :
    library.Accepted ∧ getItems ∈ library.functions ∧
      MethodTyped (library.surroundings ⟨"Access"⟩ .legacy)
        (library.implementation .legacy getItems) := by
  have member : getItems ∈ library.functions := List.mem_singleton.mpr rfl
  have typed := Library.implementation_wellTyped library_accepted ⟨"Access"⟩ .legacy member
  exact ⟨library_accepted, member, typed.2.2⟩

end Sample

end InteropGlue
