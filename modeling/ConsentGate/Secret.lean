import ConsentGate.Text.Base64Url
import ConsentGate.Text.Hex

namespace ConsentGate.Secret

def credential (bytes : List UInt8) : String :=
  String.ofList (Text.Base64Url.encode bytes)

def saltBytes : Nat := 16

def salt (bytes : List UInt8) : String :=
  String.ofList (Text.Hex.ofBytes bytes)

end ConsentGate.Secret
