import ConsentGate.Request

namespace ConsentGate

structure IssuedCode where
  request : Request
  subjectId : String
  issuedAt : Timestamp

structure CodeStore where
  codes : TextMap IssuedCode

namespace CodeStore

def empty : CodeStore := ⟨.empty⟩

def put (s : CodeStore) (code : String) (issued : IssuedCode) : CodeStore :=
  ⟨s.codes.insert code issued⟩

/-- What a code was issued for, unless it is `age` nanoseconds old or older; the code is gone after
that. There is no answer where the clock does not reach back so far. -/
def redeemWithin? (s : CodeStore) (now : Timestamp) (age : Int) (code : String) :
    Option (Option IssuedCode × CodeStore) :=
  (now.earlier? age).map fun cutoff =>
    ((s.codes.get? code).filter (cutoff < ·.issuedAt.instant), ⟨s.codes.erase code⟩)

def redeem? (s : CodeStore) (now : Timestamp) (maxAge : Int) (code : String) :
    Option (Option IssuedCode × CodeStore) :=
  s.redeemWithin? now (maxAge * 1000000000) code

/-- Forgets the codes that are `age` nanoseconds old or older, and counts them. There is no answer
where the clock does not reach back so far. -/
def cleanupWithin? (s : CodeStore) (now : Timestamp) (age : Int) : Option (Nat × CodeStore) :=
  (now.earlier? age).map fun cutoff =>
    let left := s.codes.filter fun _ c => cutoff < c.issuedAt.instant
    (s.codes.size - left.size, ⟨left⟩)

def cleanup? (s : CodeStore) (now : Timestamp) (maxAge : Int) : Option (Nat × CodeStore) :=
  s.cleanupWithin? now (maxAge * 1000000000)

def size (s : CodeStore) : Nat := s.codes.size

end CodeStore

end ConsentGate
