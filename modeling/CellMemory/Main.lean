import CellMemory.CommandLine
import CellMemory.Document.Decoder

/-! The program reads the files that its arguments name and leaves the rest to the command line. -/

namespace CellMemory.CommandLine

def usage : String := "usage: cell-memory GRAPH [--config SETTINGS]"

def readFile (path : String) : IO File := do
  match ← (IO.FS.readFile path).toBaseIO with
  | .ok text => return ⟨path, .ok text⟩
  | .error (.noFileOrDirectory ..) => return ⟨path, .error .missing⟩
  | .error failure => return ⟨path, .error (.other failure.toString)⟩

def documents : Decoder :=
  Document.decoder (fun _ => "the text is not a settings document")
    fun _ => "the text is not a graph document"

def execute (arguments : Arguments) : IO UInt32 := do
  let settings ← arguments.settings.mapM readFile
  let graph ← readFile arguments.graph
  let outcome := run documents graph settings
  IO.print outcome.output
  IO.eprint outcome.exit.errors
  return outcome.exit.code

end CellMemory.CommandLine

def main (arguments : List String) : IO UInt32 := do
  match CellMemory.CommandLine.Arguments.read arguments with
  | some files => CellMemory.CommandLine.execute files
  | none =>
    IO.eprintln CellMemory.CommandLine.usage
    return 2
