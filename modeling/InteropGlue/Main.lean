import InteropGlue.CommandLine
/-!
# The executable

The programs on the files of the machine. One executable serves as both: it acts as the program
whose name it was given.
-/

namespace InteropGlue

/-- The number of an error, which some operations give negated. -/
def errorNumber (code : UInt32) : Nat := code.toInt32.toInt.natAbs

/-- The fault that an error of the machine stands for. -/
def FileFault.ofError : IO.Error → FileFault
  | .noFileOrDirectory .. => .notFound
  | .alreadyExists .. => .alreadyExists
  | .inappropriateType _ code reason =>
    match errorNumber code with
    | 20 => .notDirectory
    | 21 => .isDirectory
    | number => .refused number reason
  | .permissionDenied _ code reason | .resourceExhausted _ code reason
  | .invalidArgument _ code reason | .noSuchThing _ code reason | .interrupted _ code reason
  | .resourceBusy code reason | .resourceVanished code reason | .hardwareFault code reason
  | .unsupportedOperation code reason | .unsatisfiedConstraints code reason
  | .illegalOperation code reason | .protocolError code reason | .timeExpired code reason
  | .otherError code reason => .refused (errorNumber code) reason
  | .unexpectedEof => .refused 0 "Unexpected end of file"
  | .userError reason => .refused 0 reason

/-- An action whose error is an answer. -/
def attempt {α : Type} (action : IO α) : IO (Except FileFault α) := do
  match ← action.toBaseIO with
  | .ok value => return .ok value
  | .error error => return .error (.ofError error)

/-- Programs run on the files of the machine. -/
instance : FileSystem IO where
  read path := attempt (IO.FS.readBinFile path)
  write path content := attempt (IO.FS.writeBinFile path content)
  makeDirectory path := attempt (IO.FS.createDir path)
  isDirectory path := do
    match ← attempt (IO.FS.realPath path) with
    | .ok location => location.isDir
    | .error _ => return false

/-- The program that an executable of some name serves as. -/
def Program.ofName (name : String) : Program :=
  if name == Program.accessBridge.name then .accessBridge else .generator

end InteropGlue

open InteropGlue in
/-- Runs the program that the executable is named for. -/
def main (args : List String) : IO UInt32 := do
  let program := Program.ofName ((← IO.appPath).fileStem.getD "")
  let { report, .. } ← program.execute args
  IO.print report.stdout
  IO.eprint report.stderr
  return report.code.toUInt32
