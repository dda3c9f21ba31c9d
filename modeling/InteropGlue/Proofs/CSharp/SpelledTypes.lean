import InteropGlue.CSharp.Syntax
/-!
# Spelled types

Types are named by their spelling, in the declarations of members and in the expressions that make
or cast values. All these names are in the syntax, in the order in which they are written.

## Main Definitions

* `Expr.spelled`, `Step.spelled`, `Block.spelled`, `Signature.spelled`, `Member.spelled`,
  `Declaration.spelled` — the types that are spelled.
* `Declaration.nested` — the delegate types that a declaration has inside.

## Main Results

* `Block.spelled_ofSteps`, `Block.spelled_append`, `Block.spelled_concat` — the types in sequences.
* `Expr.spelled_callOwn` — a call of an own method spells the types of its arguments.
-/

namespace InteropGlue.CSharp

mutual

/-- The types that an expression spells. -/
def Expr.spelled : Expr → List String
  | .name _ => []
  | .member owner _ => owner.spelled
  | .element array index => array.spelled ++ index.spelled
  | .null => []
  | .number _ => []
  | .compare _ left right => left.spelled ++ right.spelled
  | .choose condition yes no => condition.spelled ++ yes.spelled ++ no.spelled
  | .cast type value => type :: value.spelled
  | .call callee args => callee.spelled ++ Arg.spelledAll args
  | .create type args => type :: Arg.spelledAll args
  | .createArray elementType size => elementType :: size.spelled
termination_by structural e => e

/-- The types that an argument spells. -/
def Arg.spelled : Arg → List String
  | .pass _ value => value.spelled
termination_by structural a => a

/-- The types that arguments spell. -/
def Arg.spelledAll : List Arg → List String
  | [] => []
  | arg :: rest => arg.spelled ++ Arg.spelledAll rest
termination_by structural args => args

end

/-- The types that a statement without a body spells. -/
def Step.spelled : Step → List String
  | .declare type _ => [type]
  | .bind _ value => value.spelled
  | .assign target value => target.spelled ++ value.spelled
  | .attach target value => target.spelled ++ value.spelled
  | .detach target value => target.spelled ++ value.spelled
  | .increment target => target.spelled
  | .decrement target => target.spelled
  | .evaluate value => value.spelled
  | .leave none => []
  | .leave (some value) => value.spelled

/-- The types that statements spell. -/
def Block.spelled : Block → List String
  | .done => []
  | .step s rest => s.spelled ++ rest.spelled
  | .guarded condition body rest => condition.spelled ++ body.spelled ++ rest.spelled
  | .counted _ bound body rest => bound.spelled ++ body.spelled ++ rest.spelled

/-- The types that a signature spells. -/
def Signature.spelled (s : Signature) : List String := s.returns :: s.params.map (·.type)

/-- The types that a member spells. -/
def Member.spelled : Member → List String
  | .field _ _ type _ (some value) => type :: value.spelled
  | .field _ _ type _ none => [type]
  | .enumValue _ _ => []
  | .abstractMethod s => s.spelled
  | .method _ s body => s.spelled ++ body.spelled
  | .constructor _ params body => params.map (·.type) ++ body.spelled
  | .property type _ value => type :: value.spelled
  | .slot type _ => [type]
  | .abstractEvent type _ => [type]
  | .event _ type _ add remove => type :: add.spelled ++ remove.spelled
  | .delegate d => d.signature.spelled

/-- The types that a declaration spells inside. -/
def Declaration.spelled : Declaration → List String
  | .type decl => decl.members.flatMap Member.spelled
  | .delegate d => d.signature.spelled

/-- The delegate type that a member is. -/
def Member.delegateName? : Member → Option String
  | .delegate d => some d.signature.name
  | _ => none

/-- The names of the delegate types inside a declaration. -/
def Declaration.nested : Declaration → List String
  | .type decl => decl.members.filterMap Member.delegateName?
  | .delegate _ => []

/-- The declaration is a type that derives from another one. -/
def Declaration.derives : Declaration → Bool
  | .type decl => decl.base.isSome
  | .delegate _ => false

/-- The names that a chapter declares. -/
def Chapter.names (chapter : Chapter) : List String := chapter.declarations.map Declaration.name

/-! ### Expressions and statements -/

theorem Arg.spelledAll_eq (args : List Arg) : Arg.spelledAll args = args.flatMap Arg.spelled := by
  induction args with
  | nil => rfl
  | cons arg args ih => rw [spelledAll, ih, List.flatMap_cons]

/-- A call of an own method spells the types of its arguments. -/
@[simp] theorem Expr.spelled_callOwn (method : String) (args : List Expr) :
    (Expr.callOwn method args).spelled = args.flatMap Expr.spelled := by
  rw [callOwn, spelled, spelled, Arg.spelledAll_eq, List.nil_append, List.flatMap_map]
  rfl

namespace Block

@[simp] theorem spelled_append (block next : Block) :
    (block ++ next).spelled = block.spelled ++ next.spelled := by
  change (block.append next).spelled = _
  induction block with
  | done => rfl
  | step s rest ih => simp [append, spelled, ih]
  | guarded condition body rest _ ih => simp [append, spelled, ih]
  | counted index bound body rest _ ih => simp [append, spelled, ih]

@[simp] theorem spelled_ofSteps (steps : List Step) :
    (ofSteps steps).spelled = steps.flatMap Step.spelled := by
  induction steps with
  | nil => rfl
  | cons s steps ih => rw [List.flatMap_cons, ← ih]; rfl

@[simp] theorem spelled_concat (blocks : List Block) :
    (concat blocks).spelled = blocks.flatMap spelled := by
  induction blocks with
  | nil => rfl
  | cons block blocks ih => rw [List.flatMap_cons, ← ih, ← spelled_append]; rfl

@[simp] theorem spelled_ifHolds (condition : Expr) (body : Block) :
    (ifHolds condition body).spelled = condition.spelled ++ body.spelled := by
  rw [ifHolds, spelled, spelled, List.append_nil]

end Block

end InteropGlue.CSharp
