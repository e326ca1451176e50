import CredentialBroker.Time.Span

namespace CredentialBroker

/-!
# Refusals and failures of the cluster

A call to the cluster can be refused by the cluster or fail on the way.  Each cause has one
wording.
-/

/-- Why no answer was got from the cluster. -/
inductive TransportFault where
  /-- The request could not be made or sent, or no answer came. -/
  | request (detail : String)
  /-- A file could not be read. -/
  | file (path reason : String)
  /-- The bundle of certificates could not be used. -/
  | caBundle (detail : String)
  /-- The client for requests could not be made. -/
  | clientSetup (detail : String)
  /-- The helper program could not be run. -/
  | helperStart (reason : String)
  /-- The helper program ended badly. -/
  | helperExit (status : String)
  /-- The helper program printed something else than a credential. -/
  | helperOutput (detail : String)
  /-- The answer to an operation is no document of the expected form. -/
  | answer (operation detail : String)
  /-- The octets of a secret are not written in base64. -/
  | secretEncoding (key detail : String)
deriving DecidableEq

/-- The fault in words. -/
def TransportFault.message : TransportFault → String
  | .request detail => detail
  | .file path reason => "failed to read " ++ path ++ ": " ++ reason
  | .caBundle detail => "invalid CA bundle: " ++ detail
  | .clientSetup detail => "failed to build HTTP client: " ++ detail
  | .helperStart reason => "exec helper failed: " ++ reason
  | .helperExit status => "exec helper exited with " ++ status
  | .helperOutput detail => "bad exec credential: " ++ detail
  | .answer operation detail => operation ++ ": invalid response: " ++ detail
  | .secretEncoding key detail => "secret key " ++ key ++ " is not valid base64: " ++ detail

/-- Why a call to the cluster did not succeed. -/
inductive ClusterError where
  /-- There is no such object. -/
  | notFound (kind name : String)
  /-- There is such an object already. -/
  | alreadyExists (kind name : String)
  /-- The object was changed since it was read. -/
  | conflict (kind name : String)
  /-- The caller may not do this. -/
  | forbidden (reason : String)
  /-- The caller is not known. -/
  | unauthorized
  /-- No answer came in time. -/
  | timeout (operation : String) (after : Span)
  /-- No answer was got. -/
  | transport (fault : TransportFault)
  /-- The cluster answered with another status. -/
  | api (status : Nat) (message : String)
deriving DecidableEq

namespace ClusterError

/-- The error in words. -/
def message : ClusterError → String
  | .notFound kind name => kind ++ " " ++ name ++ " not found"
  | .alreadyExists kind name => kind ++ " " ++ name ++ " already exists"
  | .conflict kind name => "Conflict writing " ++ kind ++ " " ++ name ++ ": object was modified"
  | .forbidden reason => "Forbidden: " ++ reason
  | .unauthorized => "Unauthorized: credential rejected by the cluster"
  | .timeout operation after => operation ++ " timed out after " ++ after.text
  | .transport fault => "Transport error: " ++ fault.message
  | .api status message => "Cluster API returned " ++ toString status ++ ": " ++ message

/-- The name of the cause. -/
def label : ClusterError → String
  | .notFound .. => "NotFound"
  | .alreadyExists .. => "AlreadyExists"
  | .conflict .. => "Conflict"
  | .forbidden _ => "Forbidden"
  | .unauthorized => "Unauthorized"
  | .timeout .. => "Timeout"
  | .transport _ => "Transport"
  | .api .. => "Api"

/-- Whether there is no such object. -/
def isNotFound : ClusterError → Bool
  | .notFound .. => true
  | _ => false

/-- Whether there is such an object already. -/
def isAlreadyExists : ClusterError → Bool
  | .alreadyExists .. => true
  | _ => false

/-- Whether the object was changed since it was read. -/
def isConflict : ClusterError → Bool
  | .conflict .. => true
  | _ => false

end ClusterError

end CredentialBroker
