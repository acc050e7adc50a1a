import ConsentGate.Collection.TextSet
import ConsentGate.Timestamp

namespace ConsentGate

structure Token where
  value : String
  idToken : Option String
  expiration : Timestamp
  tokenType : String
  scope : TextSet
  deriving DecidableEq

def Token.expiresIn (t : Token) (now : Timestamp) : Nat :=
  ((t.expiration.instant - now.instant) / 1000000000).toNat

end ConsentGate
