import Mathlib.Algebra.Group.Int.Defs
import Mathlib.Algebra.Group.Nat.Defs
import Mathlib.Logic.Function.Basic
import InteropGlue.CSharp.Syntax
import InteropGlue.Surface
/-!
# Values of the generated language

A run of generated source handles numbers, truth values, handle objects, records and arrays. Values
of all other types are passed on as they are.

## Main Definitions

* `Framework` — what a run uses of the framework.
* `Value` — the values, each of which knows its type.
* `Value.member`, `Value.withMember`, `Value.element`, `Value.withElement` — the parts of a value.

## Main Results

* `Value.member_withMember`, `Value.withMember_member`, `Value.withMember_withMember` — a member of
  a record is a lens, and so is an element of an array.

## Design Notes

A record or array is a tree: every instance stands in one place, and no two places share one. The
instances still have an identity, so that an instance that is filled is told from one that is
replaced. A struct has none.
-/

namespace InteropGlue.CSharp

/-- What a run of generated source uses of the framework. -/
structure Framework where
  /-- Handle objects. -/
  Object : Type
  /-- The handle object for the key of a virtual machine and a native handle. -/
  handleObject : Int → Int → Object
  /-- The native handle of a handle object. -/
  nativeHandle : Object → Int
  /-- Values of the types that are neither generated nor computed with. -/
  Datum : Type
  /-- What a variable of such a type holds from the start, or `none` for no instance. -/
  initial? : String → Option Datum

/-- Which instance a record or array is. -/
inductive Identity
  /-- A struct, which is no instance. -/
  | inline
  /-- An instance that was there before the run. -/
  | known (index : Nat)
  /-- An instance that the run makes. -/
  | fresh
  deriving DecidableEq, Repr

/-- A value with its type. -/
inductive Value (F : Framework)
  /-- No instance of a type. -/
  | null (type : String)
  | number (type : String) (value : Int)
  | truth (value : Bool)
  | object (object : F.Object)
  | datum (type : String) (datum : F.Datum)
  | record (type : String) (identity : Identity) (field : String → Value F)
  | array (elementType : String) (identity : Identity) (length : Nat)
      (element : Fin length → Value F)

/-- The type of the literal `null`. -/
def nullType : String := "null"

/-- The length that an array cannot exceed. -/
def maxLength : Nat := 2147483647

namespace Value

variable {F : Framework}

/-- The type of a value. -/
def type : Value F → String
  | null type => type
  | number type _ => type
  | truth _ => "bool"
  | object _ => handleType
  | datum type _ => type
  | record type _ _ => type
  | array elementType _ _ _ => elementType ++ "[]"

/-- The value is no instance. -/
def isNull : Value F → Bool
  | null _ => true
  | _ => false

/-- A callee that is given the value may change it for its caller. -/
def isShared : Value F → Bool
  | record _ identity _ => identity != .inline
  | array _ _ _ _ => true
  | datum _ _ => true
  | _ => false

/-- The truth of a condition. -/
def truth? : Value F → Option Bool
  | truth value => some value
  | _ => none

/-- The position that an index stands for. -/
def index? : Value F → Option Nat
  | number _ (.ofNat position) => some position
  | _ => none

/-- A member of a value: a field of a record, the length of an array, the handle of an object. -/
def member : Value F → String → Option (Value F)
  | record _ _ field, name => some (field name)
  | array _ _ length _, name => if name = "Length" then some (number "int" length) else none
  | .object handle, name =>
    if name = "Handle" then some (number "long" (F.nativeHandle handle)) else none
  | _, _ => none

/-- A record with another value in a field. -/
def withMember : Value F → String → Value F → Option (Value F)
  | record type identity field, name, value =>
    some (record type identity (Function.update field name value))
  | _, _, _ => none

/-- An element of an array. -/
def element : Value F → Nat → Option (Value F)
  | array _ _ length element, position =>
    if inside : position < length then some (element ⟨position, inside⟩) else none
  | _, _ => none

/-- An array with another value at a position. -/
def withElement : Value F → Nat → Value F → Option (Value F)
  | array elementType identity length element, position, value =>
    if inside : position < length then
      some (array elementType identity length (Function.update element ⟨position, inside⟩ value))
    else none
  | _, _, _ => none

/-- The outcome of a comparison. Only numbers are compared with each other, and anything with
`null`. -/
def compare : Comparison → Value F → Value F → Option Bool
  | .equal, value, null _ => some value.isNull
  | .notEqual, value, null _ => some (!value.isNull)
  | .equal, number _ left, number _ right => some (left == right)
  | .notEqual, number _ left, number _ right => some (left != right)
  | .less, number _ left, number _ right => some (decide (left < right))
  | _, _, _ => none

/-- A value converted to an integer type that stands for a native handle. -/
def cast (type : String) : Value F → Option (Value F)
  | number _ value =>
    if type = Target.modern.handleName then some (number type (value.bmod (2 ^ 64)))
    else if type = Target.legacy.handleName then some (number type (value.bmod (2 ^ 32)))
    else none
  | _ => none

/-- A value returned from a method, whose type a literal takes. -/
def returnedAs (type : String) : Value F → Option (Value F)
  | null given => if given = type ∨ given = nullType then some (null type) else none
  | number given value =>
    if given = type ∨ given = "int" then some (number type value) else none
  | value => if value.type = type then some value else none

/-- The value of a variable whose content is replaced: the same instance, filled with another
content. A number or struct is a copy, which nobody else fills. -/
def filledWith : Value F → Value F → Value F
  | record type identity field, record _ _ content =>
    record type identity (if identity = .inline then field else content)
  | array elementType identity _ _, array _ _ length content =>
    array elementType identity length content
  | datum type _, datum _ content => datum type content
  | value, _ => value

/-! ### Parts -/

/-- What a value has if its parts have it, all values have. The parts of a record are its fields and
those of an array its elements. -/
theorem of_parts {P : Value F → Prop}
    (step : ∀ value : Value F,
      (∀ {type identity content}, value = record type identity content → ∀ name, P (content name)) →
      (∀ {elementType identity length content}, value = array elementType identity length content →
        ∀ position, P (content position)) → P value)
    (value : Value F) : P value := by
  induction value with
  | record type identity content ih =>
    refine step _ ?_ (by simp)
    intro _ _ _ same name
    cases same
    exact ih name
  | array elementType identity length content ih =>
    refine step _ (by simp) ?_
    intro _ _ _ _ same position
    cases same
    exact ih position
  | _ => exact step _ (by simp) (by simp)

/-! ### Indices -/

@[simp] theorem index?_number (type : String) (position : Nat) :
    (number type position : Value F).index? = some position := rfl

theorem eq_number_of_index? {value : Value F} {position : Nat}
    (isPosition : value.index? = some position) : ∃ type, value = number type position := by
  cases value with
  | number type value =>
    cases value with
    | ofNat natural =>
      obtain rfl : natural = position := by simpa [index?] using isPosition
      exact ⟨type, rfl⟩
    | negSucc natural => simp [index?] at isPosition
  | _ => simp [index?] at isPosition

/-! ### Returned values -/

/-- A value returned as a type is of this type. -/
theorem type_of_returnedAs {value returned : Value F} {type : String}
    (isReturned : value.returnedAs type = some returned) : returned.type = type := by
  cases value with
  | null | number =>
    simp only [returnedAs, Option.ite_none_right_eq_some, Option.some.injEq] at isReturned
    rw [← isReturned.2]
    rfl
  | _ =>
    simp only [returnedAs, Option.ite_none_right_eq_some, Option.some.injEq] at isReturned
    rw [← isReturned.2, isReturned.1]

/-- A value is returned as it is if it has the type. -/
theorem returnedAs_type {value : Value F} : value.returnedAs value.type = some value := by
  cases value <;> simp [returnedAs, type]

/-! ### Parts as lenses -/

variable {value part updated other : Value F} {name : String} {position : Nat}

theorem member_withMember (replaced : value.withMember name part = some updated) :
    updated.member name = some part := by
  cases value with
  | record type identity field =>
    obtain rfl := Option.some.inj replaced
    simp [member]
  | _ => simp [withMember] at replaced

theorem withMember_member {name : String} {type : String} {identity : Identity}
    {field : String → Value F} :
    (record type identity field).withMember name (field name) =
      some (record type identity field) := by
  simp [withMember]

theorem withMember_withMember (replaced : value.withMember name part = some updated) :
    updated.withMember name other = value.withMember name other := by
  cases value with
  | record type identity field =>
    obtain rfl := Option.some.inj replaced
    simp [withMember]
  | _ => simp [withMember] at replaced

theorem exists_withMember (replaced : value.withMember name part = some updated) (next : Value F) :
    ∃ other, value.withMember name next = some other := by
  cases value with
  | record type identity field => exact ⟨_, rfl⟩
  | _ => simp [withMember] at replaced

theorem element_withElement (replaced : value.withElement position part = some updated) :
    updated.element position = some part := by
  cases value with
  | array elementType identity length element =>
    simp only [withElement, Option.dite_none_right_eq_some, Option.some.injEq] at replaced
    obtain ⟨inside, rfl⟩ := replaced
    simp [Value.element, inside]
  | _ => simp [withElement] at replaced

theorem withElement_element (found : value.element position = some part) :
    value.withElement position part = some value := by
  cases value with
  | array elementType identity length element =>
    simp only [Value.element, Option.dite_none_right_eq_some, Option.some.injEq] at found
    obtain ⟨inside, rfl⟩ := found
    simp [withElement, inside]
  | _ => simp [Value.element] at found

theorem withElement_withElement (replaced : value.withElement position part = some updated) :
    updated.withElement position other = value.withElement position other := by
  cases value with
  | array elementType identity length element =>
    simp only [withElement, Option.dite_none_right_eq_some, Option.some.injEq] at replaced
    obtain ⟨inside, rfl⟩ := replaced
    simp [withElement, inside]
  | _ => simp [withElement] at replaced

theorem exists_withElement (replaced : value.withElement position part = some updated)
    (next : Value F) : ∃ other, value.withElement position next = some other := by
  cases value with
  | array elementType identity length element =>
    simp only [withElement, Option.dite_none_right_eq_some] at replaced
    obtain ⟨inside, -⟩ := replaced
    rw [withElement, dif_pos inside]
    exact ⟨_, rfl⟩
  | _ => simp [withElement] at replaced

end Value

end InteropGlue.CSharp
