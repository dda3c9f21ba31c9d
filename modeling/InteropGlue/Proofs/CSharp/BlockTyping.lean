import Mathlib.Data.List.Forall2
import Mathlib.Data.List.TakeWhile
import InteropGlue.CSharp.Print
import InteropGlue.Library.Primitive
import InteropGlue.Proofs.CSharp.Typing
/-!
# Typing of blocks

When a method with nested blocks is well typed and well scoped: what is assigned has the type of its
target, a call fits a method of the class, a name is in scope where it is used, and no variable
hides another.

## Main Definitions

* `allocatedType` — the type of the array that an allocation makes, as it is written.
* `PlaceTyped`, `ValueTyped` — the type of what can be assigned to, and of what can be assigned.
* `BlockTyped` — a block in a scope, with the variables that it leaves in scope.
* `RoutineTyped` — a whole method.

## Main Results

* `PlaceTyped.weaken` — more variables do no harm.
* `BlockTyped.append`, `BlockTyped.concat` — blocks one after the other.
* `allocation_empty` — the type of an allocation is what it says without the size.

## Design Notes

A member is looked up in the declaration of the record that its variable holds. The declarations are
given beside the scope, one for each such variable, since the two surfaces may spell the types of
two records alike.
-/

namespace InteropGlue.CSharp

/-! ### Allocations -/

/-- The type of the array that an allocation makes: the pair of brackets for the size stands before
those of the elements. -/
def allocatedType (elementType : String) : String :=
  String.ofList (elementType.toList.takeWhile (· != '[')) ++ "[]" ++
    String.ofList (elementType.toList.dropWhile (· != '['))

/-- The text of an allocation without the size is that of the type. -/
theorem allocation_empty (elementType : String) :
    allocation elementType "" = "new " ++ allocatedType elementType := by
  simp [allocation, allocatedType, String.append_assoc]

/-- All brackets of the element type are kept. -/
theorem allocatedType_append (elementType : String) :
    allocatedType (elementType ++ "[]") = allocatedType elementType ++ "[]" := by
  have stem : (elementType.toList ++ ['[', ']']).takeWhile (· != '[') =
      elementType.toList.takeWhile (· != '[') := by
    rw [List.takeWhile_append]
    split
    · rename_i whole
      rw [(List.takeWhile_prefix _).eq_of_length whole]
      simp
    · rfl
  have levels : (elementType.toList ++ ['[', ']']).dropWhile (· != '[') =
      elementType.toList.dropWhile (· != '[') ++ ['[', ']'] := by
    rw [List.dropWhile_append]
    split <;> simp_all
  simp [allocatedType, stem, levels, String.append_assoc]

/-- A name without brackets gets the pair for the size. -/
theorem allocatedType_of_bare {elementType : String} (bare : '[' ∉ elementType.toList) :
    allocatedType elementType = elementType ++ "[]" := by
  have letters : ∀ letter ∈ elementType.toList, (letter != '[') = true := by
    intro letter member
    have apart : letter ≠ '[' := fun same => bare (same ▸ member)
    simpa using apart
  simp [allocatedType, List.takeWhile_eq_self_iff.mpr letters,
    List.dropWhile_eq_nil_iff.mpr letters]

/-! ### Expressions -/

/-- A variable, a field of a record or an element of an array, with its type. -/
inductive PlaceTyped (records : List (String × TypeDecl)) (scope : Scope) : Expr → String → Prop
  | variable {name type : String} : (name, type) ∈ scope →
      PlaceTyped records scope (.name name) type
  /-- A field of the record that a variable holds, with the type that its declaration gives. -/
  | field {owner : String} {decl : TypeDecl} {attributes : List String}
      {modifiers type name : String} {initial : Option Expr} :
      (owner, decl) ∈ records → (owner, decl.name) ∈ scope →
      .field attributes modifiers type name initial ∈ decl.members →
      PlaceTyped records scope (.member (.name owner) name) type
  | element {array index : Expr} {type : String} :
      PlaceTyped records scope array (type ++ "[]") → PlaceTyped records scope index "int" →
      PlaceTyped records scope (.element array index) type

/-- An argument fits a parameter, in keyword and type. -/
inductive ArgTyped (records : List (String × TypeDecl)) (scope : Scope) : Arg → Parameter → Prop
  | pass {passing : Passing} {value : Expr} {p : Parameter} : passing = p.passing →
      PlaceTyped records scope value p.type → ArgTyped records scope (.pass passing value) p

/-- An expression has a type. -/
inductive ValueTyped (env : Surroundings) (records : List (String × TypeDecl)) (scope : Scope) :
    Expr → String → Prop
  | place {e : Expr} {type : String} : PlaceTyped records scope e type →
      ValueTyped env records scope e type
  | length {array : Expr} {type : String} : PlaceTyped records scope array (type ++ "[]") →
      ValueTyped env records scope (.member array "Length") "int"
  /-- A call of a conversion, which is a method of the same class. -/
  | conversion {args : List Arg} {signature : Signature} : signature ∈ env.conversions →
      signature ∈ env.own.methods → List.Forall₂ (ArgTyped records scope) args signature.params →
      ValueTyped env records scope (.call (.name signature.name) args) signature.returns
  /-- A new instance of a record, or its default value. -/
  | create {decl : TypeDecl} : decl ∈ env.records →
      ValueTyped env records scope (.create decl.name []) decl.name
  | createArray {elementType sizeType : String} {size : Expr} : sizeType ∈ integerPrimitives →
      PlaceTyped records scope size sizeType →
      ValueTyped env records scope (.createArray elementType size) (allocatedType elementType)

/-- There may be no instance of the type: it is one of arrays, or a class. -/
inductive Nullable (env : Surroundings) : String → Prop
  | array {elementType : String} : Nullable env (elementType ++ "[]")
  | class {decl : TypeDecl} : decl ∈ env.records → decl.sort = .plainClass →
      Nullable env decl.name

/-- A test whether there is an instance. -/
inductive NullTest (env : Surroundings) (records : List (String × TypeDecl)) (scope : Scope) :
    Expr → Prop
  | equal {e : Expr} {type : String} : PlaceTyped records scope e type → Nullable env type →
      NullTest env records scope (.compare .equal e .null)
  | notEqual {e : Expr} {type : String} : PlaceTyped records scope e type → Nullable env type →
      NullTest env records scope (.compare .notEqual e .null)

/-! ### Blocks -/

/-- The variables in scope. -/
def Scope.names (scope : Scope) : List String := scope.map Prod.fst

/-- A block is well typed and leaves these variables in scope. A new variable has a name that no
variable in scope has. -/
inductive BlockTyped (env : Surroundings) (records : List (String × TypeDecl)) (returns : String) :
    Scope → Block → Scope → Prop
  | done {scope : Scope} : BlockTyped env records returns scope .done scope
  | bind {scope after : Scope} {name type : String} {value : Expr} {rest : Block} :
      name ∉ scope.names → ValueTyped env records scope value type →
      BlockTyped env records returns ((name, type) :: scope) rest after →
      BlockTyped env records returns scope (.step (.bind name value) rest) after
  /-- What is assigned has exactly the type of the place. -/
  | assign {scope after : Scope} {type : String} {target value : Expr} {rest : Block} :
      PlaceTyped records scope target type → ValueTyped env records scope value type →
      BlockTyped env records returns scope rest after →
      BlockTyped env records returns scope (.step (.assign target value) rest) after
  | evaluate {scope after : Scope} {type : String} {value : Expr} {rest : Block} :
      ValueTyped env records scope value type →
      BlockTyped env records returns scope rest after →
      BlockTyped env records returns scope (.step (.evaluate value) rest) after
  | leave {scope after : Scope} {value : Expr} {rest : Block} :
      ValueTyped env records scope value returns →
      BlockTyped env records returns scope rest after →
      BlockTyped env records returns scope (.step (.leave (some value)) rest) after
  | leaveNull {scope after : Scope} {rest : Block} : Nullable env returns →
      BlockTyped env records returns scope rest after →
      BlockTyped env records returns scope (.step (.leave (some .null)) rest) after
  | guarded {scope inner after : Scope} {condition : Expr} {body rest : Block} :
      NullTest env records scope condition →
      BlockTyped env records returns scope body inner →
      BlockTyped env records returns scope rest after →
      BlockTyped env records returns scope (.guarded condition body rest) after
  | counted {scope inner after : Scope} {index type : String} {bound : Expr} {body rest : Block} :
      index ∉ scope.names → type ∈ integerPrimitives → PlaceTyped records scope bound type →
      BlockTyped env records returns ((index, "int") :: scope) body inner →
      BlockTyped env records returns scope rest after →
      BlockTyped env records returns scope (.counted index bound body rest) after

/-- The last statement of a block leaves the method. -/
def Block.Leaves : Block → Prop
  | .done => False
  | .step (.leave _) .done => True
  | .step _ rest => rest.Leaves
  | .guarded _ _ rest => rest.Leaves
  | .counted _ _ _ rest => rest.Leaves

/-- A method is well typed: its parameters have distinct names, its body is well typed with them in
scope, and it leaves with a value unless it returns none. -/
inductive RoutineTyped (env : Surroundings) (records : List (String × TypeDecl)) : Member → Prop
  | intro {modifiers : String} {signature : Signature} {body : Block} {after : Scope} :
      (signature.params.map (·.name)).Nodup →
      BlockTyped env records signature.returns (signature.params.map fun p => (p.name, p.type))
        body after →
      (signature.returns ≠ "void" → body.Leaves) →
      RoutineTyped env records (.method modifiers signature body)

variable {env : Surroundings} {records : List (String × TypeDecl)} {returns : String}
  {scope middle larger after : Scope}

/-- More variables do no harm. -/
theorem PlaceTyped.weaken {e : Expr} {type : String} (subset : scope ⊆ larger)
    (typed : PlaceTyped records scope e type) : PlaceTyped records larger e type := by
  induction typed with
  | «variable» member => exact .variable (subset member)
  | field held member declared => exact .field held (subset member) declared
  | element _ _ array index => exact .element array index

/-! ### Blocks one after the other -/

/-- The second of two blocks has the variables of the first one in scope. -/
theorem BlockTyped.append {first second : Block}
    (typed : BlockTyped env records returns scope first middle)
    (follows : BlockTyped env records returns middle second after) :
    BlockTyped env records returns scope (first ++ second) after := by
  induction typed with
  | done => exact follows
  | bind fresh value _ ih => exact .bind fresh value (ih follows)
  | assign target value _ ih => exact .assign target value (ih follows)
  | evaluate value _ ih => exact .evaluate value (ih follows)
  | leave value _ ih => exact .leave value (ih follows)
  | leaveNull nullable _ ih => exact .leaveNull nullable (ih follows)
  | guarded condition body _ _ ih => exact .guarded condition body (ih follows)
  | counted fresh integer bound body _ _ ih => exact .counted fresh integer bound body (ih follows)

/-- Blocks that each leave no variable behind. -/
theorem BlockTyped.concat {blocks : List Block}
    (each : ∀ block ∈ blocks, BlockTyped env records returns scope block scope) :
    BlockTyped env records returns scope (.concat blocks) scope := by
  induction blocks with
  | nil => exact .done
  | cons block blocks ih =>
    exact (each block List.mem_cons_self).append
      (ih fun other member => each other (List.mem_cons_of_mem _ member))

end InteropGlue.CSharp
