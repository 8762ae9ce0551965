import CellMemory.Decoder
import CellMemory.Document.Graph
import CellMemory.Document.Settings

/-! The decoder of documents. It fixes which texts are refused and leaves open how that is worded. -/

namespace CellMemory.Document

def decode {α : Type} (read? : Value → Option α) (reason : String → String) (text : String) :
    Except String α :=
  match (read text).bind read? with
  | some found => .ok found
  | none => .error (reason text)

/-- The reasons are those given for refusing a text as settings and as a graph. -/
def decoder (settingsReason sourceReason : String → String) : Decoder where
  settings := decode settings? settingsReason
  source := decode source? sourceReason

end CellMemory.Document
