import InteropGlue.Glue.Source
/-!
# The surface of the application

The application surface is generated for some target, and no target can be told from it: every name
is spelled as it is, and annotations are left out.

## Main Results

* `Library.typeName_application` — the spelling of a type, without a target.
* `Library.signature_target`, `Library.delegateOf_target`, `Library.recordDecl_target` — signatures
  and declarations are the same for all targets.
* `Library.applicationChapter_target` — so is the whole surface.
-/

namespace InteropGlue

open CSharp

namespace Library

variable (lib : Library)

/-- On the application surface the innermost name is spelled as it is. -/
theorem typeName_application (target : Target) (type : TypeRef) :
    lib.typeName (.application target) type =
      type.innermost ++ String.join (List.replicate type.depth "[]") := by
  induction type with
  | named name => simp [typeName, Mode.application, TypeRef.innermost, TypeRef.depth]
  | array element count ih =>
    rw [typeName, ih, TypeRef.innermost, TypeRef.depth, String.append_assoc,
      List.replicate_succ', String.join_append, String.join_cons, String.join_nil,
      String.append_empty]

variable (target other : Target)

theorem typeName_target (type : TypeRef) :
    lib.typeName (.application target) type = lib.typeName (.application other) type := by
  rw [typeName_application, typeName_application]

theorem parameter_target (p : Param) :
    lib.parameter (.application target) p = lib.parameter (.application other) p := by
  rw [parameter, parameter, typeName_target lib target other]
  rfl

theorem parameters_target (f : Function) :
    lib.parameters (.application target) f = lib.parameters (.application other) f :=
  List.map_congr_left fun p _ => lib.parameter_target target other p

theorem signature_target (name : String) (f : Function) :
    lib.signature (.application target) name f = lib.signature (.application other) name f := by
  rw [signature, signature, typeName_target lib target other, parameters_target lib target other]

theorem delegateOf_target (name : String) (f : Function) :
    lib.delegateOf (.application target) name f = lib.delegateOf (.application other) name f := by
  rw [delegateOf, delegateOf, signature_target lib target other]
  rfl

theorem enumDecl_target :
    lib.enumDecl (.application target) = lib.enumDecl (.application other) := by
  funext enum
  rw [enumDecl, enumDecl, typeName_target lib target other]

theorem fieldMember_target (isClass : Bool) (field : Field) :
    lib.fieldMember (.application target) isClass field =
      lib.fieldMember (.application other) isClass field := by
  rw [fieldMember, fieldMember, initialValue?, initialValue?, typeName_target lib target other]
  rfl

theorem recordDecl_target (isClass : Bool) :
    lib.recordDecl (.application target) isClass = lib.recordDecl (.application other) isClass := by
  funext record
  rw [recordDecl, recordDecl, typeName_target lib target other]
  simp only [fieldMember_target lib target other]
  rfl

theorem recordDecls_target :
    lib.recordDecls (.application target) = lib.recordDecls (.application other) := by
  rw [recordDecls, recordDecls, recordDecl_target lib target other,
    recordDecl_target lib target other]

/-- The surface of the application is the same for all targets. -/
theorem applicationChapter_target (names : ClassNames) :
    lib.applicationChapter names target = lib.applicationChapter names other := by
  simp only [applicationChapter, functionsClass, handlerDelegate, signature_target lib target other,
    delegateOf_target lib target other, enumDecl_target lib target other,
    recordDecls_target lib target other]

end Library

end InteropGlue
