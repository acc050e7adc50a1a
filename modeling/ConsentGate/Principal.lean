namespace ConsentGate

structure Principal where
  subjectId : String
  username : String
  sessionId : Option String
  deriving DecidableEq, Repr

end ConsentGate
