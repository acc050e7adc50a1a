import ConsentGate.Hash.Sha256
import ConsentGate.Text.Hex
import ConsentGate.Text.Utf8

namespace ConsentGate.SessionState

def digested (subjectId clientId origin salt : String) : String :=
  clientId ++ " " ++ origin ++ " " ++ subjectId ++ " " ++ salt

/-- The digest in hexadecimal, a point, and the salt. -/
def calculate (subjectId clientId origin salt : String) : String :=
  String.ofList (Text.Hex.ofBytes (Sha256.digest
    (Text.Utf8.encode (digested subjectId clientId origin salt).toList))) ++ "." ++ salt

end ConsentGate.SessionState
