import ConsentGate.Idna.Direction
import ConsentGate.Idna.Label

namespace ConsentGate.Idna

def toAscii? (s : List Char) : Option (List Char) := do
  let t ← prepare? s
  let labels ← (Text.pieces (· == '.') t).mapM Label.read?
  let name := ['.'].intercalate (labels.map Label.ascii)
  if directionsFit (labels.map Label.unicode) && !name.any isDenied then some name else none

end ConsentGate.Idna
