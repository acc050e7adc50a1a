import ConsentGate.Collection.TextSet
import ConsentGate.Text.Blank
import ConsentGate.Text.Cut

namespace ConsentGate.ParameterList

def isSeparator (c : Char) : Bool :=
  Text.isBlank c || c == ','

def parse (value : String) : TextSet :=
  .ofList (((Text.pieces isSeparator value.toList).filter (!·.isEmpty)).map String.ofList)

def format (items : TextSet) : String :=
  " ".intercalate items.toList

end ConsentGate.ParameterList
