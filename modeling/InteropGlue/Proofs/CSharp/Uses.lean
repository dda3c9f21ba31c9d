import InteropGlue.CSharp.Syntax
/-!
# Uses of a collaborator

A body reaches a collaborator by a name, such as a property of its class, and uses members of it.
Every such use is in the syntax, whatever is done with it.

## Main Definitions

* `Expr.uses`, `Step.uses`, `Block.uses`, `Member.uses` — the members that are used, in order.

## Main Results

* `Block.uses_ofSteps`, `Block.uses_append`, `Block.uses_concat` — uses of sequences.
* `Expr.uses_callOwn` — the uses of a call of an own method are those of its arguments.
-/

namespace InteropGlue.CSharp

/-- An expression is a name. -/
def Expr.isName (owner : String) : Expr → Bool
  | .name text => text == owner
  | _ => false

mutual

/-- The members of `owner` that an expression uses. -/
def Expr.uses (owner : String) : Expr → List String
  | .name _ => []
  | .member object name => (if object.isName owner then [name] else []) ++ object.uses owner
  | .element array index => array.uses owner ++ index.uses owner
  | .null => []
  | .number _ => []
  | .compare _ left right => left.uses owner ++ right.uses owner
  | .choose condition yes no => condition.uses owner ++ yes.uses owner ++ no.uses owner
  | .cast _ value => value.uses owner
  | .call callee args => callee.uses owner ++ Arg.usesAll owner args
  | .create _ args => Arg.usesAll owner args
  | .createArray _ size => size.uses owner
termination_by structural e => e

/-- The members of `owner` that an argument uses. -/
def Arg.uses (owner : String) : Arg → List String
  | .pass _ value => value.uses owner
termination_by structural a => a

/-- The members of `owner` that arguments use. -/
def Arg.usesAll (owner : String) : List Arg → List String
  | [] => []
  | arg :: rest => arg.uses owner ++ Arg.usesAll owner rest
termination_by structural args => args

end

variable (owner : String)

/-- The members of `owner` that a statement without a body uses. -/
def Step.uses : Step → List String
  | .declare _ _ => []
  | .bind _ value => value.uses owner
  | .assign target value => target.uses owner ++ value.uses owner
  | .attach target value => target.uses owner ++ value.uses owner
  | .detach target value => target.uses owner ++ value.uses owner
  | .increment target => target.uses owner
  | .decrement target => target.uses owner
  | .evaluate value => value.uses owner
  | .leave none => []
  | .leave (some value) => value.uses owner

/-- The members of `owner` that statements use. -/
def Block.uses : Block → List String
  | .done => []
  | .step s rest => s.uses owner ++ rest.uses
  | .guarded condition body rest => condition.uses owner ++ body.uses ++ rest.uses
  | .counted _ bound body rest => bound.uses owner ++ body.uses ++ rest.uses

/-- The members of `owner` that a member of a type uses. -/
def Member.uses : Member → List String
  | .field _ _ _ _ (some value) => value.uses owner
  | .method _ _ body => body.uses owner
  | .constructor _ _ body => body.uses owner
  | .property _ _ value => value.uses owner
  | .event _ _ _ add remove => add.uses owner ++ remove.uses owner
  | .field _ _ _ _ none | .enumValue _ _ | .abstractMethod _ | .slot _ _ | .abstractEvent _ _
  | .delegate _ => []

/-- The members of `owner` that a type uses. -/
def TypeDecl.uses (decl : TypeDecl) : List String := decl.members.flatMap (Member.uses owner)

variable {owner}

theorem Arg.usesAll_eq (args : List Arg) :
    Arg.usesAll owner args = args.flatMap (Arg.uses owner) := by
  induction args with
  | nil => rfl
  | cons arg args ih => rw [usesAll, ih, List.flatMap_cons]

/-- The uses of a call of an own method are those of its arguments. -/
@[simp] theorem Expr.uses_callOwn (method : String) (args : List Expr) :
    (Expr.callOwn method args).uses owner = args.flatMap (Expr.uses owner) := by
  rw [callOwn, uses, uses, Arg.usesAll_eq, List.nil_append, List.flatMap_map]
  rfl

namespace Block

@[simp] theorem uses_append (block next : Block) :
    (block ++ next).uses owner = block.uses owner ++ next.uses owner := by
  change (block.append next).uses owner = _
  induction block with
  | done => rfl
  | step s rest ih => simp [append, uses, ih]
  | guarded condition body rest _ ih => simp [append, uses, ih]
  | counted index bound body rest _ ih => simp [append, uses, ih]

@[simp] theorem uses_ofSteps (steps : List Step) :
    (ofSteps steps).uses owner = steps.flatMap (Step.uses owner) := by
  induction steps with
  | nil => rfl
  | cons s steps ih => rw [List.flatMap_cons, ← ih]; rfl

@[simp] theorem uses_concat (blocks : List Block) :
    (concat blocks).uses owner = blocks.flatMap (uses owner) := by
  induction blocks with
  | nil => rfl
  | cons block blocks ih => rw [List.flatMap_cons, ← ih, ← uses_append]; rfl

end Block

end InteropGlue.CSharp
