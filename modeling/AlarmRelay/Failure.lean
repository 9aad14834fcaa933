import AlarmRelay.Alarm

/-!
# Failures

What can go wrong in a listener, in the alarm source and in the hub itself, each
cause with its one wording.  Listener and source failures are absorbed by the
hub: they are logged and counted, never handed to the producer.
-/

set_option autoImplicit false

namespace AlarmRelay

/-- What a panicking call leaves behind. -/
inductive PanicPayload where
  /-- A fixed message. -/
  | fixedText (text : String)
  /-- A message built at run time. -/
  | builtText (text : String)
  /-- Anything that is not a message. -/
  | other
  deriving DecidableEq, Repr

def PanicPayload.message : PanicPayload → String
  | .fixedText text => text
  | .builtText text => text
  | .other => "unknown panic payload"

/-- Why a listener did not accept a notification. -/
inductive ListenerError where
  | rejected (text : String)
  | unavailable (text : String)
  | panicked (text : String)
  | other (text : String)
  deriving DecidableEq, Repr

def ListenerError.message : ListenerError → String
  | .rejected text => "Listener rejected notification: " ++ text
  | .unavailable text => "Listener unavailable: " ++ text
  | .panicked text => "Listener panicked: " ++ text
  | .other text => text

/-- Why a scan of the alarm source failed. -/
inductive SourceError where
  | unavailable (text : String)
  /-- The transaction wrapping the scan failed. -/
  | transaction (text : String)
  | query (text : String)
  deriving DecidableEq, Repr

def SourceError.message : SourceError → String
  | .unavailable text => "Alarm source unavailable: " ++ text
  | .transaction text => "Transaction failed: " ++ text
  | .query text => "Query failed: " ++ text

/-- Why the hub itself refuses. -/
inductive HubError where
  | invalidConfig (reason : String)
  /-- There is no runtime to run the snapshot scheduler on. -/
  | noRuntime
  deriving DecidableEq, Repr

def HubError.message : HubError → String
  | .invalidConfig reason => "Invalid hub configuration: " ++ reason
  | .noRuntime => "No tokio runtime available to run the snapshot scheduler"

/-- How one listener call ended. -/
inductive CallOutcome where
  | accepted
  | failed (error : ListenerError)
  | panicked (payload : PanicPayload)
  deriving DecidableEq, Repr

/-- The error a call counts as; a panic counts as an error of its own kind. -/
def CallOutcome.error? : CallOutcome → Option ListenerError
  | .accepted => none
  | .failed error => some error
  | .panicked payload => some (.panicked payload.message)

/-- How one scan of the alarm source ended. -/
inductive ScanOutcome where
  | alarms (alarms : List Alarm)
  | failed (error : SourceError)
  | panicked (payload : PanicPayload)
  deriving DecidableEq, Repr

end AlarmRelay
