import Curation.Chain.Word
import Curation.Decode.Checked
import Curation.Json.Reader
import Curation.Pattern.Syntax
import Curation.Time.Span
import Curation.Remote.Fault

/-!
Everything that can go wrong, by cause, and the words for it. Some causes call for another try
later; the others need a configuration, a request or a remote service to be put right.
-/
namespace Curation

/-- Why a rule cannot be used as configured. -/
inductive ConfigurationFault where
  | malformed (issues : List Decode.Issue)
  | unknownCheck (name : String)
  | invalidPattern (pattern : String) (fault : Pattern.Fault)
  | misplaced (check category : String)
  | missing (check argument : String)
  | explained (reason : String)
  | notWhole (check argument : String)
  | repeated (check : String)
  deriving Repr

/-- Why an action cannot be carried out. -/
inductive ActionFault where
  | requiresCast (action : String)
  | noRole (role channel : String)
  | notPending (action : String)
  deriving DecidableEq, Repr

/-- Why an event is turned away. -/
inductive EventFault where
  | type
  | channel
  | cast
  deriving DecidableEq, Repr

/-- Why the store refuses a change. -/
inductive StoreFault where
  | absent (column : String)
  | duplicate (columns : String)
  | tooLarge
  deriving DecidableEq, Repr

inductive Failure where
  | configuration (fault : ConfigurationFault)
  | pending (fid status : String)
  | overran (limit : Number)
  | noTimeLeft
  | action (fault : ActionFault)
  | noChannel (id : String)
  | noLog (id : String)
  | event (fault : EventFault)
  | remote (fault : RemoteFault)
  | word (fault : Chain.WordFault)
  | misuse (cause : Misuse)
  | invalid (issues : List Decode.Issue)
  | notJson (fault : Json.Fault) (text : String)
  | link
  | span (fault : Span.Fault)
  | dateOutOfRange
  | store (fault : StoreFault)
  | noConcurrency
  deriving Repr

def ConfigurationFault.message : ConfigurationFault → String
  | .malformed _ => "Malformed rule tree"
  | .unknownCheck name => s!"No function for rule {name}"
  | .invalidPattern pattern fault => s!"Invalid pattern {pattern}: {fault.message}"
  | .misplaced check category => s!"\"{check}\" can only be used in {category} rules"
  | .missing check argument => s!"\"{check}\" requires {argument}"
  | .explained reason => reason
  | .notWhole check argument => s!"\"{check}\" expects a whole number for {argument}"
  | .repeated check => s!"\"{check}\" can only be used once per rule set"

def ActionFault.message : ActionFault → String
  | .requiresCast action => s!"Action {action} requires a cast"
  | .noRole role channel => s!"Role {role} not found in /{channel}"
  | .notPending action => s!"Cannot approve a {action} decision"

def EventFault.message : EventFault → String
  | .type => "Invalid webhook type"
  | .channel => "Invalid channel name"
  | .cast => "Invalid cast payload"

def StoreFault.message : StoreFault → String
  | .absent column => s!"NOT NULL constraint failed: {column}"
  | .duplicate columns => s!"UNIQUE constraint failed: {columns}"
  | .tooLarge => "Python int too large to convert to SQLite INTEGER"

def Span.Fault.message : Span.Fault → String
  | .notANumber => "cannot convert float NaN to integer"
  | .endless => "cannot convert float infinity to integer"
  | .tooLong days =>
    if -0x80000000 ≤ days ∧ days < 0x80000000 then
      s!"days={days}; must have magnitude <= {Span.greatestDays}"
    else "Python int too large to convert to C int"

def Decimal.UnitFault.message : Decimal.UnitFault → String
  | .shiftTooLarge => "[<class 'decimal.InvalidOperation'>]"
  | .signalingNaN => "[<class 'decimal.InvalidOperation'>]"
  | .notANumber => "cannot convert NaN to integer"
  | .endless => "cannot convert Infinity to integer"
  | .tooLarge => "[<class 'decimal.Overflow'>]"

def Chain.WordFault.message : Chain.WordFault → String
  | .invalidAddress text => s!"Invalid address: {text}"
  | .invalidAmount text => s!"Invalid token amount: {text}"
  | .tokenRequired => "ERC-1155 balance requires a token id"
  | .notHex text => (Misuse.notWholeText (.str text) 16).message
  | .notTokenId cause => cause.message
  | .amount fault => fault.message

namespace Failure

def message : Failure → String
  | .configuration fault => fault.message
  | .pending fid status => s!"Bot or not status for fid #{fid}: {status}"
  | .overran limit => "Rule evaluation exceeded " ++ limit.text "inf" "nan" ++ "s"
  | .noTimeLeft => "Rule evaluation deadline exceeded"
  | .action fault => fault.message
  | .noChannel id => s!"Moderated channel not found: {id}"
  | .noLog id => s!"Moderation log not found: {id}"
  | .event fault => fault.message
  | .remote fault => fault.message
  | .word fault => fault.message
  | .misuse cause => cause.message
  | .invalid issues => s!"{issues.length} validation errors"
  | .notJson fault text => fault.message text
  | .link => "Invalid IPv6 URL"
  | .span fault => fault.message
  | .dateOutOfRange => "date value out of range"
  | .store fault => fault.message
  | .noConcurrency => "max_concurrency must be at least 1"

/-- Whether the same event may go through when it is tried again later. -/
def isTransient : Failure → Bool
  | .pending .. | .overran _ | .noTimeLeft => true
  | _ => false

/-- Whether a stored rule has to be put right first. -/
def isConfiguration : Failure → Bool
  | .configuration _ => true
  | _ => false

end Failure

end Curation
