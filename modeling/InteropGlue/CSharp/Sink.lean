/-!
# The text sink

Generated text is written line by line. The sink keeps the text and the current indentation, which
opening a block widens by two spaces and closing one narrows again, never below nothing.

## Main Definitions

* `Sink` — the text written so far and the indentation of the next line.
* `Sink.writeLine` — one line; an empty one gets no indentation.
* `Sink.openBlock`, `Sink.closeBlock` — the two lines around a block.
* `Sink.beginRegion`, `Sink.endRegion` — the two lines around a region, which is not indented.
-/

namespace InteropGlue.CSharp

/-- The spaces of one level of indentation. -/
def indentWidth : Nat := 2

/-- The text written so far and the indentation of the next line. -/
structure Sink where
  text : String
  indentation : Nat
  deriving DecidableEq, Repr

namespace Sink

/-- The sink before anything is written. -/
def empty : Sink := { text := "", indentation := 0 }

/-- One level deeper. -/
def indent (sink : Sink) : Sink := { sink with indentation := sink.indentation + indentWidth }

/-- One level less deep, or at the margin. -/
def outdent (sink : Sink) : Sink := { sink with indentation := sink.indentation - indentWidth }

/-- One line at the current indentation. An empty line has no trailing spaces. -/
def writeLine (sink : Sink) (line : String) : Sink :=
  if line.isEmpty then { sink with text := sink.text.push '\n' }
  else { sink with text := (sink.text.pushn ' ' sink.indentation ++ line).push '\n' }

/-- An empty line. -/
def blankLine (sink : Sink) : Sink := { sink with text := sink.text.push '\n' }

/-- The line that opens a block. -/
def openBlock (sink : Sink) (header : String) : Sink := (sink.writeLine (header ++ " \x7b")).indent

/-- The line that closes a block. -/
def closeBlock (sink : Sink) : Sink := sink.outdent.writeLine "\x7d"

/-- The line that begins a region. -/
def beginRegion (sink : Sink) (title : String) : Sink := sink.writeLine ("#region " ++ title)

/-- The line that ends a region. -/
def endRegion (sink : Sink) : Sink := sink.writeLine "#endregion"

end Sink

end InteropGlue.CSharp
