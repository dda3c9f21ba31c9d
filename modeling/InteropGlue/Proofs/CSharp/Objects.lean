import InteropGlue.Proofs.CSharp.Multicast
/-!
# Objects with events

Objects of generated classes hold delegates and counts in their fields, handle each other's events,
and give callbacks to native code. What happens to them is what the accessors and methods of their
classes do.

## Main Definitions

* `Handler` — a method that an event calls.
* `World` — the fields of all objects, and the callbacks given to native code.
* `Assembly` — the classes of the objects, and which object has which at hand.
* `Frame` — a running accessor or method.
* `Assembly.exec`, `Assembly.access`, `Assembly.invoke` — the runs of blocks, accessors and methods.

## Main Results

* `World.combine?_iff`, `World.remove_of_not_infix` — what combining and removing change.
* `Assembly.exec_local` — a statement that calls no accessor or method.

## Design Notes

A run that ends without an outcome is one that throws or is not well formed. The fields of delegate
types and those that count are kept apart: which a name is read as shows at its use. All fields
start with the defaults of their types. Counts wrap like any `int`, and a delegate has no more
handlers than an array has elements.
-/

namespace InteropGlue.CSharp

/-- A method that is called when an event is raised. -/
inductive Handler (Object Other : Type)
  /-- A method of an object of a generated class. -/
  | own (object : Object) (method : String)
  | other (handler : Other)
  deriving DecidableEq

/-- A reference to a delegate, or `null`. -/
abbrev Reference (Object Other : Type) := Option (Multicast (Handler Object Other))

/-- A callback given to an entry point. -/
structure Registering (Object Other : Type) where
  entryPoint : String
  callback : Reference Object Other

/-- What objects hold, and the callbacks that native code has been given, in order. -/
structure World (Object Other : Type) where
  delegates : Object → String → Reference Object Other
  numbers : Object → String → Int
  given : List (Registering Object Other)
  /-- How many delegates have been made. -/
  made : Nat

variable {Object Other : Type}

/-! ### Changes of the world -/

namespace World

/-- The world before anything happens. -/
def start : World Object Other := ⟨fun _ _ => none, fun _ _ => 0, [], 0⟩

variable (w : World Object Other)

/-- The handlers in a field of an object. -/
def handlers (object : Object) (name : String) : List (Handler Object Other) :=
  Multicast.handlersOf (w.delegates object name)

/-- A callback given to native code. -/
def give (entryPoint : String) (callback : Reference Object Other) : World Object Other :=
  { w with given := w.given ++ [⟨entryPoint, callback⟩] }

/-- One more delegate made. -/
def making : World Object Other := { w with made := w.made + 1 }

variable [DecidableEq Object]

/-- Another delegate in a field. -/
def setDelegate (object : Object) (name : String) (d : Reference Object Other) :
    World Object Other :=
  { w with
    delegates := fun o n => if o = object ∧ n = name then d else w.delegates o n }

/-- Another number in a field. -/
def setNumber (object : Object) (name : String) (n : Int) : World Object Other :=
  { w with
    numbers := fun o m => if o = object ∧ m = name then n else w.numbers o m }

/-- A number in a field changed by an amount. -/
def count (object : Object) (name : String) (amount : Int) : World Object Other :=
  w.setNumber object name ((w.numbers object name + amount).bmod (2 ^ 32))

/-- A delegate combined into a field, unless that makes too many handlers. -/
def combine? (object : Object) (name : String) (added : Reference Object Other) :
    Option (World Object Other) :=
  if (w.handlers object name).length + (Multicast.handlersOf added).length ≤ maxLength then
    some (w.making.setDelegate object name
      (Multicast.combined w.made (w.delegates object name) added))
  else none

variable [DecidableEq Other]

/-- A delegate removed from a field. Nothing is made if there is nothing to remove. -/
def remove (object : Object) (name : String) (taken : Reference Object Other) :
    World Object Other :=
  let rest := Multicast.removed w.made (w.delegates object name) taken
  if rest = w.delegates object name then w else w.making.setDelegate object name rest

end World

/-! ### What changes leave as it is -/

namespace World

variable {w w' : World Object Other} {object : Object} {name : String}

@[simp] theorem delegates_give {entryPoint : String} {callback : Reference Object Other} :
    (w.give entryPoint callback).delegates = w.delegates := rfl

@[simp] theorem numbers_give {entryPoint : String} {callback : Reference Object Other} :
    (w.give entryPoint callback).numbers = w.numbers := rfl

@[simp] theorem delegates_making : w.making.delegates = w.delegates := rfl

@[simp] theorem numbers_making : w.making.numbers = w.numbers := rfl

@[simp] theorem given_making : w.making.given = w.given := rfl

variable [DecidableEq Object]

@[simp] theorem delegates_setDelegate {d : Reference Object Other} {o : Object} {n : String} :
    (w.setDelegate object name d).delegates o n =
      if o = object ∧ n = name then d else w.delegates o n := rfl

@[simp] theorem numbers_setDelegate {d : Reference Object Other} :
    (w.setDelegate object name d).numbers = w.numbers := rfl

@[simp] theorem given_setDelegate {d : Reference Object Other} :
    (w.setDelegate object name d).given = w.given := rfl

@[simp] theorem delegates_setNumber {number : Int} :
    (w.setNumber object name number).delegates = w.delegates := rfl

@[simp] theorem numbers_setNumber {number : Int} {o : Object} {n : String} :
    (w.setNumber object name number).numbers o n =
      if o = object ∧ n = name then number else w.numbers o n := rfl

@[simp] theorem given_setNumber {number : Int} :
    (w.setNumber object name number).given = w.given := rfl

@[simp] theorem delegates_count {amount : Int} :
    (w.count object name amount).delegates = w.delegates := rfl

@[simp] theorem numbers_count {amount : Int} {o : Object} {n : String} :
    (w.count object name amount).numbers o n =
      if o = object ∧ n = name then (w.numbers object name + amount).bmod (2 ^ 32)
      else w.numbers o n := rfl

@[simp] theorem given_count {amount : Int} : (w.count object name amount).given = w.given := rfl

/-- A combination that has an outcome. -/
theorem combine?_iff {added : Reference Object Other} :
    w.combine? object name added = some w' ↔
      (w.handlers object name).length + (Multicast.handlersOf added).length ≤ maxLength ∧
        w' = w.making.setDelegate object name
          (Multicast.combined w.made (w.delegates object name) added) := by
  rw [combine?, Option.ite_none_right_eq_some, Option.some.injEq, eq_comm (a := w')]

variable [DecidableEq Other]

@[simp] theorem delegates_remove {taken : Reference Object Other} {o : Object} {n : String} :
    (w.remove object name taken).delegates o n =
      if o = object ∧ n = name then Multicast.removed w.made (w.delegates object name) taken
      else w.delegates o n := by
  rw [remove]
  split
  · rename_i unchanged
    split
    · rename_i here
      rw [here.1, here.2, unchanged]
    · rfl
  · rfl

@[simp] theorem numbers_remove {taken : Reference Object Other} :
    (w.remove object name taken).numbers = w.numbers := by
  rw [remove]
  split <;> rfl

@[simp] theorem given_remove {taken : Reference Object Other} :
    (w.remove object name taken).given = w.given := by
  rw [remove]
  split <;> rfl

/-- A removal of what is not there changes nothing. -/
theorem remove_of_not_infix {taken : Multicast (Handler Object Other)}
    (notFound : ¬ taken.handlers <:+: w.handlers object name) :
    w.remove object name (some taken) = w :=
  if_pos (Multicast.removed_eq_self_iff.mpr notFound)

end World

/-! ### Classes of objects -/

namespace Member

/-- The name of a member. -/
def name : Member → String
  | .field _ _ _ name _ => name
  | .enumValue name _ => name
  | .abstractMethod signature => signature.name
  | .method _ signature _ => signature.name
  | .constructor type _ _ => type
  | .property _ name _ => name
  | .slot _ name => name
  | .abstractEvent _ name => name
  | .event _ _ name _ _ => name
  | .delegate declared => declared.signature.name

variable (name : String)

/-- The member is a field of a name. -/
def isField : Member → Bool
  | .field _ _ _ fieldName _ => fieldName == name
  | _ => false

/-- The member is a method of a name. -/
def isMethod : Member → Bool
  | .method _ signature _ => signature.name == name
  | _ => false

/-- The body of a method without parameters of a name. -/
def routineOf? : Member → Option Block
  | .method _ signature body =>
    if signature.name = name ∧ signature.params = [] then some body else none
  | _ => none

/-- The accessors of an event of a name. -/
def accessorsOf? : Member → Option (Block × Block)
  | .event _ _ eventName add remove => if eventName = name then some (add, remove) else none
  | _ => none

end Member

/-- The members of the objects, and the objects that their properties show. -/
structure Assembly (Object : Type) where
  members : Object → List Member
  shown? : Object → String → Option Object

namespace Assembly

variable (A : Assembly Object) (object : Object) (name : String)

/-- An object has a field of a name. -/
def hasField : Bool := (A.members object).any (Member.isField name)

/-- An object has a method of a name. -/
def hasMethod : Bool := (A.members object).any (Member.isMethod name)

/-- The body of the method without parameters of a name. -/
def routine? : Option Block := (A.members object).findSome? (Member.routineOf? name)

/-- The accessors of the event of a name. -/
def event? : Option (Block × Block) := (A.members object).findSome? (Member.accessorsOf? name)

end Assembly

/-! ### Running bodies -/

/-- A running body: the object it runs on, and its variables, which all hold delegates. -/
structure Frame (Object Other : Type) where
  self : Object
  locals : String → Option (Reference Object Other)
  world : World Object Other

namespace Frame

variable (A : Assembly Object) (φ : Frame Object Other)

/-- A name means a field of the object. -/
def meansField (name : String) : Bool := (φ.locals name).isNone && A.hasField φ.self name

/-- The delegate that an expression reads. -/
def read? : Expr → Option (Reference Object Other)
  | .null => some none
  | .name name =>
    match φ.locals name with
    | some d => some d
    | none => if A.hasField φ.self name then some (φ.world.delegates φ.self name) else none
  | _ => none

/-- The delegate that an expression gives, and the world after it. A method gives a new one. -/
def value? (e : Expr) : Option (Reference Object Other × World Object Other) :=
  match φ.read? A e, e with
  | some d, _ => some (d, φ.world)
  | none, .name name =>
    if A.hasMethod φ.self name then
      some (some (.single φ.world.made (.own φ.self name)), φ.world.making)
    else none
  | none, _ => none

section Reading

variable {A φ} {name : String} {d : Reference Object Other} {e : Expr}

theorem read?_local (isLocal : φ.locals name = some d) : φ.read? A (.name name) = some d := by
  rw [read?, isLocal]

theorem read?_field (isField : φ.meansField A name = true) :
    φ.read? A (.name name) = some (φ.world.delegates φ.self name) := by
  simp only [meansField, Bool.and_eq_true, Option.isNone_iff_eq_none] at isField
  rw [read?, isField.1]
  exact if_pos isField.2

theorem value?_of_read? (read : φ.read? A e = some d) : φ.value? A e = some (d, φ.world) := by
  simp only [value?, read]

/-- A method that no variable or field hides gives a delegate of its own. -/
theorem value?_method (noLocal : φ.locals name = none) (noField : A.hasField φ.self name = false)
    (isMethod : A.hasMethod φ.self name = true) :
    φ.value? A (.name name) =
      some (some (.single φ.world.made (.own φ.self name)), φ.world.making) := by
  have unread : φ.read? A (.name name) = none := by simp [read?, noLocal, noField]
  simp only [value?, unread, isMethod, if_true]

end Reading

variable [DecidableEq Object] [DecidableEq Other]

/-- The truth of a condition. -/
@[simp] def test? : Expr → Option Bool
  | .compare .equal e .null => (φ.read? A e).map Option.isNone
  | .compare .equal (.name name) (.number n) =>
    if φ.meansField A name then some (φ.world.numbers φ.self name = n) else none
  | .call (.name "ReferenceEquals") [.pass .byValue left, .pass .byValue right] => do
    some ((← φ.read? A left) = (← φ.read? A right))
  | _ => none

/-- The frame after a statement that runs no other body. -/
@[simp] def perform? : Step → Option (Frame Object Other)
  | .bind name e => do
    let (d, w) ← φ.value? A e
    if φ.locals name = none then
      some { φ with locals := Function.update φ.locals name (some d), world := w }
    else none
  | .assign (.name name) (.number n) =>
    if φ.meansField A name then some { φ with world := φ.world.setNumber φ.self name n } else none
  | .assign (.name name) e => do
    let (d, w) ← φ.value? A e
    if φ.meansField A name then some { φ with world := w.setDelegate φ.self name d } else none
  | .attach (.name name) e => do
    let (d, w) ← φ.value? A e
    let w ← w.combine? φ.self name d
    if φ.meansField A name then some { φ with world := w } else none
  | .detach (.name name) e => do
    let (d, w) ← φ.value? A e
    if φ.meansField A name then some { φ with world := w.remove φ.self name d } else none
  | .increment (.name name) =>
    if φ.meansField A name then some { φ with world := φ.world.count φ.self name 1 } else none
  | .decrement (.name name) =>
    if φ.meansField A name then some { φ with world := φ.world.count φ.self name (-1) } else none
  | .evaluate (.call (.member (.name "EntryPoints") entryPoint) [.pass .byValue e]) => do
    let (d, w) ← φ.value? A e
    some { φ with world := w.give entryPoint d }
  | _ => none

section Statements

variable {A φ} {name : String} {d other : Reference Object Other} {e left right : Expr}
  {w : World Object Other}

theorem test?_isNull (read : φ.read? A e = some d) :
    φ.test? A (.compare .equal e .null) = some d.isNone := by
  rw [test?, read]
  rfl

theorem test?_number {n : Nat} (isField : φ.meansField A name = true) :
    φ.test? A (.compare .equal (.name name) (.number n)) =
      some (decide (φ.world.numbers φ.self name = n)) := by
  rw [test?, if_pos isField]

theorem test?_same (readLeft : φ.read? A left = some d) (readRight : φ.read? A right = some other) :
    φ.test? A (.callOwn "ReferenceEquals" [left, right]) = some (decide (d = other)) := by
  simp only [Expr.callOwn, List.map_cons, List.map_nil, Arg.value, test?, readLeft, readRight,
    Option.bind_eq_bind, Option.bind_some]

theorem perform?_bind (new : φ.locals name = none) (valued : φ.value? A e = some (d, w)) :
    φ.perform? A (.bind name e) =
      some { φ with locals := Function.update φ.locals name (some d), world := w } := by
  simp [valued, new]

theorem perform?_assign_number {n : Nat} (isField : φ.meansField A name = true) :
    φ.perform? A (.assign (.name name) (.number n)) =
      some { φ with world := φ.world.setNumber φ.self name n } := by
  simp [isField]

theorem perform?_assign (isField : φ.meansField A name = true)
    (valued : φ.value? A e = some (d, w)) :
    φ.perform? A (.assign (.name name) e) =
      some { φ with world := w.setDelegate φ.self name d } := by
  cases e with
  | number n => simp [value?, read?] at valued
  | _ => simp [valued, isField]

theorem perform?_attach (isField : φ.meansField A name = true)
    (valued : φ.value? A e = some (d, w)) :
    φ.perform? A (.attach (.name name) e) =
      (w.combine? φ.self name d).map fun w => { φ with world := w } := by
  rw [perform?, valued, isField, Option.map_eq_bind]
  simp only [if_true]
  rfl

theorem perform?_detach (isField : φ.meansField A name = true)
    (valued : φ.value? A e = some (d, w)) :
    φ.perform? A (.detach (.name name) e) = some { φ with world := w.remove φ.self name d } := by
  simp [valued, isField]

theorem perform?_increment (isField : φ.meansField A name = true) :
    φ.perform? A (.increment (.name name)) =
      some { φ with world := φ.world.count φ.self name 1 } := by
  simp [isField]

theorem perform?_decrement (isField : φ.meansField A name = true) :
    φ.perform? A (.decrement (.name name)) =
      some { φ with world := φ.world.count φ.self name (-1) } := by
  simp [isField]

theorem perform?_give {entryPoint : String} (valued : φ.value? A e = some (d, w)) :
    φ.perform? A (.evaluate (.call (.member (.name "EntryPoints") entryPoint) [.value e])) =
      some { φ with world := w.give entryPoint d } := by
  simp [Arg.value, valued]

end Statements

end Frame

/-- What happens to an event. -/
inductive Change
  | add
  | remove
  deriving DecidableEq

/-- The accessor for a change. -/
def Change.accessor (change : Change) (bodies : Block × Block) : Block :=
  match change with
  | .add => bodies.1
  | .remove => bodies.2

namespace Assembly

variable [DecidableEq Object] [DecidableEq Other]

mutual

/-- The frame after a block, and whether the block came to its end. -/
def exec (A : Assembly Object) (φ : Frame Object Other) (block : Block) :
    Option (Bool × Frame Object Other) :=
  match block with
  | .done => some (true, φ)
  | .step (.leave none) _ => some (false, φ)
  | .step (.attach (.member (.name property) event) e) rest => do
    let object ← A.shown? φ.self property
    let (d, w) ← φ.value? A e
    let w ← A |>.access object event .add d w
    A |>.exec { φ with world := w } rest
  | .step (.detach (.member (.name property) event) e) rest => do
    let object ← A.shown? φ.self property
    let (d, w) ← φ.value? A e
    let w ← A |>.access object event .remove d w
    A |>.exec { φ with world := w } rest
  | .step (.evaluate (.call (.name method) [])) rest => do
    let w ← A |>.invoke φ.self method φ.world
    A |>.exec { φ with world := w } rest
  | .step step rest => do
    let φ ← φ.perform? A step
    A |>.exec φ rest
  | .guarded condition body rest => do
    let holds ← φ.test? A condition
    if holds then do
      let (ended, inner) ← A |>.exec φ body
      if ended then A |>.exec { inner with locals := φ.locals } rest else some (false, inner)
    else A |>.exec φ rest
  | .counted _ _ _ _ => none
partial_fixpoint

/-- The world after a change of an event of an object. -/
def access (A : Assembly Object) (object : Object) (event : String) (change : Change)
    (value : Reference Object Other) (w : World Object Other) : Option (World Object Other) := do
  let bodies ← A.event? object event
  let locals := fun name => if name = "value" then some value else none
  let (_, φ) ← A |>.exec ⟨object, locals, w⟩ (change.accessor bodies)
  some φ.world
partial_fixpoint

/-- The world after a call of a method of an object. -/
def invoke (A : Assembly Object) (object : Object) (method : String) (w : World Object Other) :
    Option (World Object Other) := do
  let body ← A.routine? object method
  let (_, φ) ← A |>.exec ⟨object, fun _ => none, w⟩ body
  some φ.world
partial_fixpoint

end

end Assembly

/-! ### Statements one by one -/

/-- A statement that runs no other body and does not leave its own. -/
def Step.isLocal : Step → Bool
  | .leave none => false
  | .attach (.member (.name _) _) _ => false
  | .detach (.member (.name _) _) _ => false
  | .evaluate (.call (.name _) []) => false
  | _ => true

namespace Assembly

variable [DecidableEq Object] [DecidableEq Other]
variable {A : Assembly Object} {φ : Frame Object Other} {rest : Block}

theorem exec_done : A.exec φ .done = some (true, φ) := by rw [exec]

theorem exec_leave : A.exec φ (.ofSteps [.leave none]) = some (false, φ) := by
  rw [Block.ofSteps, List.foldr_cons, exec]

theorem exec_local {step : Step} (isLocal : step.isLocal = true) :
    A.exec φ (.step step rest) = (φ.perform? A step).bind fun φ => A.exec φ rest := by
  rw [exec]
  · rfl
  -- The other forms of a statement are not local.
  all_goals
    intros
    subst step
    simp [Step.isLocal] at isLocal

theorem exec_attach_event {property event : String} {e : Expr} {object : Object}
    {d : Reference Object Other} {w : World Object Other}
    (shown : A.shown? φ.self property = some object) (valued : φ.value? A e = some (d, w)) :
    A.exec φ (.step (.attach (.member (.name property) event) e) rest) =
      (A.access object event .add d w).bind fun w => A.exec { φ with world := w } rest := by
  rw [exec, shown, valued]
  rfl

theorem exec_detach_event {property event : String} {e : Expr} {object : Object}
    {d : Reference Object Other} {w : World Object Other}
    (shown : A.shown? φ.self property = some object) (valued : φ.value? A e = some (d, w)) :
    A.exec φ (.step (.detach (.member (.name property) event) e) rest) =
      (A.access object event .remove d w).bind fun w => A.exec { φ with world := w } rest := by
  rw [exec, shown, valued]
  rfl

theorem exec_call {method : String} :
    A.exec φ (.step (.evaluate (.callOwn method [])) rest) =
      (A.invoke φ.self method φ.world).bind fun w => A.exec { φ with world := w } rest := by
  rw [Expr.callOwn, List.map_nil, exec]
  rfl

/-- A guarded body ends its variables. -/
theorem exec_guarded {condition : Expr} {body : Block} {holds : Bool}
    (tested : φ.test? A condition = some holds) :
    A.exec φ (.guarded condition body rest) =
      if holds then
        (A.exec φ body).bind fun (ended, inner) =>
          if ended then A.exec { inner with locals := φ.locals } rest else some (false, inner)
      else A.exec φ rest := by
  rw [exec, tested]
  rfl

/-- The variables with which an accessor starts. -/
def accessorLocals (value : Reference Object Other) (name : String) :
    Option (Reference Object Other) :=
  if name = "value" then some value else none

theorem access_eq {object : Object} {event : String} {change : Change} {bodies : Block × Block}
    {value : Reference Object Other} {w : World Object Other}
    (found : A.event? object event = some bodies) :
    A.access object event change value w =
      (A.exec ⟨object, accessorLocals value, w⟩ (change.accessor bodies)).map (·.2.world) := by
  rw [access, found]
  simp only [Option.bind_eq_bind, Option.bind_some, Option.map_eq_bind]
  rfl

theorem exists_of_access {object : Object} {event : String} {change : Change}
    {value : Reference Object Other} {w w' : World Object Other}
    (ran : A.access object event change value w = some w') :
    ∃ bodies, A.event? object event = some bodies := by
  rw [access] at ran
  cases found : A.event? object event with
  | none => simp [found] at ran
  | some bodies => exact ⟨bodies, rfl⟩

theorem invoke_eq {object : Object} {method : String} {body : Block} {w : World Object Other}
    (found : A.routine? object method = some body) :
    A.invoke object method w = (A.exec ⟨object, fun _ => none, w⟩ body).map (·.2.world) := by
  rw [invoke, found]
  simp only [Option.bind_eq_bind, Option.bind_some, Option.map_eq_bind]
  rfl

end Assembly

end InteropGlue.CSharp
