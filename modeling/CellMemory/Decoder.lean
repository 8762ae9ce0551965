import CellMemory.Graph.Source
import CellMemory.Settings

/-! Decoding of the texts that a run is given. Which texts are refused, and how a refusal is worded, is
up to the decoder. -/

namespace CellMemory

structure Decoder where
  settings : String → Except String Settings
  source : String → Except String Graph.Source

def Settings.ofText (decoder : Decoder) (text : String) : Except Fault Settings :=
  match decoder.settings text with
  | .error reason => .error (.invalidSettings (.unreadable reason))
  | .ok settings =>
    match settings.check with
    | .error fault => .error fault
    | .ok _ => .ok settings

end CellMemory
