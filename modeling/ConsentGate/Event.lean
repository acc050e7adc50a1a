import ConsentGate.AuthError
import ConsentGate.GrantType
import ConsentGate.Timestamp
import ConsentGate.Uuid

namespace ConsentGate

inductive EventKind where
  | approvalRequested (snapshotId : Uuid)
  | autoApproved
  | codeIssued (grant : GrantType)
  | tokenIssued (grant : GrantType)
  | accessDenied
  | tamperDetected
  | requestRejected (error : ErrorCode)
  deriving DecidableEq, Repr

structure Event where
  kind : EventKind
  clientId : String
  subjectId : Option String
  timestamp : Timestamp
  deriving DecidableEq, Repr

end ConsentGate
