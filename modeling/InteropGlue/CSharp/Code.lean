import InteropGlue.CSharp.Sink
/-!
# Laid-out code

Code between its syntax and its text: lines, blank lines, blocks and regions, in order. Blocks and
regions hold code, so what they open they also close, whatever is inside.

## Main Definitions

* `Code` — a sequence of layout elements.
* `Code.ofLines`, `Code.concat` — code from lines, and the join of pieces of code.
* `Code.write` — the effect of code on a sink.

## Design Notes

An element carries the code after it, so a sequence of elements is itself code and every function on
it is one recursion.
-/

namespace InteropGlue.CSharp

/-- A sequence of layout elements, each followed by the rest of the sequence. -/
inductive Code
  | done
  | line (text : String) (rest : Code)
  | blank (rest : Code)
  /-- A header, and the code between its braces. -/
  | block (header : String) (body rest : Code)
  /-- A title, and the code between the two region lines. -/
  | region (title : String) (body rest : Code)
  deriving DecidableEq, Repr, Inhabited

namespace Code

/-- One piece of code after another. -/
def append : Code → Code → Code
  | done, next => next
  | line text rest, next => line text (append rest next)
  | blank rest, next => blank (append rest next)
  | block header body rest, next => block header body (append rest next)
  | region title body rest, next => region title body (append rest next)

instance : Append Code := ⟨append⟩

/-- Pieces of code in order. -/
def concat (pieces : List Code) : Code := pieces.foldr (· ++ ·) done

/-- Lines in order. -/
def ofLines (lines : List String) : Code := lines.foldr line done

/-- A single line. -/
def ofLine (text : String) : Code := line text done

/-- Code written to a sink. -/
def write : Code → Sink → Sink
  | done, sink => sink
  | line text rest, sink => rest.write (sink.writeLine text)
  | blank rest, sink => rest.write sink.blankLine
  | block header body rest, sink => rest.write (body.write (sink.openBlock header)).closeBlock
  | region title body rest, sink => rest.write (body.write (sink.beginRegion title)).endRegion

/-- The text of code that starts at the margin. -/
def text (code : Code) : String := (code.write Sink.empty).text

end Code

end InteropGlue.CSharp
