import SqlGateway.Engine
import SqlGateway.Failure
import SqlGateway.Text.Digit

/-!
# Failures of the drivers

PostgreSQL and MySQL share one client (`ClientFault`); SQL Server speaks the TDS protocol
(`TdsFault`) through a pool of its own (`TdsPoolFault`). Each fault becomes a `Failure` with the
advice that fits it.
-/

namespace SqlGateway

inductive IntegerProblem where
  | empty
  | digit
  | tooLarge
  | tooSmall
deriving DecidableEq, Repr

namespace IntegerProblem

def message : IntegerProblem → String
  | .empty => "cannot parse integer from empty string"
  | .digit => "invalid digit found in string"
  | .tooLarge => "number too large to fit in target type"
  | .tooSmall => "number too small to fit in target type"

/-- The problem of a text, if it has one. Digits are read from the left, so a range that is left
before a wrong digit is reported first. -/
def find? (text : String) : Option IntegerProblem :=
  let scan (negative : Bool) (digits : List Char) : Option IntegerProblem :=
    (digits.foldl (fun (state : Nat × Option IntegerProblem) digit =>
      match state with
      | (_, some problem) => (0, some problem)
      | (total, none) =>
        if !digit.isDigit then (0, some .digit)
        else
          let next := total * 10 + Text.digitValue digit
          if negative then (if 2147483648 < next then (0, some .tooSmall) else (next, none))
          else if 2147483648 ≤ next then (0, some .tooLarge)
          else (next, none)) (0, none)).2
  match text.toList with
  | [] => some .empty
  | ['+'] | ['-'] => some .digit
  | '-' :: rest => scan true rest
  | '+' :: rest => scan false rest
  | digits => scan false digits

example : find? "-2147483648" = none := by decide
example : find? "2147483648" = some .tooLarge := by decide

end IntegerProblem

/-- What the client of PostgreSQL and MySQL reports. -/
inductive ClientFault where
  | configuration (message : String)
  | invalidArgument (message : String)
  | server (message : String) (code : Option String)
  | io (message : String)
  | tls (message : String)
  | protocol (message : String)
  | noRow
  | typeNotFound (name : String)
  | columnIndex (index length : Nat)
  | columnNotFound (name : String)
  | columnDecode (index problem : String)
  | encode (problem : String)
  | decode (problem : String)
  | poolTimeout
  | poolClosed
  | workerCrashed
  | nestedTransaction
  | beginFailed
deriving DecidableEq, Repr

namespace ClientFault

def message : ClientFault → String
  | .configuration message => "error with configuration: " ++ message
  | .invalidArgument message => message
  | .server message _ => "error returned from database: " ++ message
  | .io message => "error communicating with database: " ++ message
  | .tls message =>
    "error occurred while attempting to establish a TLS connection: " ++ message
  | .protocol message => "encountered unexpected or invalid data: " ++ message
  | .noRow => "no rows returned by a query that expected to return at least one row"
  | .typeNotFound name => "type named " ++ name ++ " not found"
  | .columnIndex index length =>
    "column index out of bounds: the len is " ++ toString length ++ ", but the index is " ++
      toString index
  | .columnNotFound name => "no column found for name: " ++ name
  | .columnDecode index problem =>
    "error occurred while decoding column " ++ index ++ ": " ++ problem
  | .encode problem => "error occurred while encoding a value: " ++ problem
  | .decode problem => "error occurred while decoding: " ++ problem
  | .poolTimeout => "pool timed out while waiting for an open connection"
  | .poolClosed => "attempted to acquire a connection on a closed pool"
  | .workerCrashed => "attempted to communicate with a crashed background worker"
  | .nestedTransaction =>
    "attempted to call begin_with at non-zero transaction depth"
  | .beginFailed =>
    "got unexpected connection status after attempting to begin transaction"

end ClientFault

def statementAdvice : String := "Check the SQL syntax and referenced objects"

def networkAdvice : String := "Check network connectivity and database server status"

/-- The activity named when no pooled session becomes free, and how long is waited for one. -/
def poolAcquireTimeout : Failure := .timeout "connection pool acquire" 30

def ClientFault.toFailure (fault : ClientFault) : Failure :=
  match fault with
  | .configuration message =>
    .connection message "Check the host, port and credentials of the connection"
  | .server message code => .statement message code statementAdvice
  | .noRow =>
    .statement "No rows returned" none "Verify the query conditions match existing data"
  | .poolTimeout => poolAcquireTimeout
  | .poolClosed =>
    .connection "Connection pool is closed"
      "The connection was updated or removed; retry the operation"
  | .io message => .connection ("I/O error: " ++ message) networkAdvice
  | .tls message =>
    .connection ("TLS error: " ++ message) "Verify TLS configuration and certificates"
  | .protocol message =>
    .connection ("Protocol error: " ++ message) "Check database server compatibility"
  | .columnNotFound name => .object ("Column not found: " ++ name) name
  | .columnDecode index problem =>
    .internal ("Failed to decode column " ++ index ++ ": " ++ problem)
  | .decode problem => .internal ("Decode error: " ++ problem)
  | .workerCrashed => .internal "Database worker crashed"
  | .invalidArgument _ | .typeNotFound _ | .columnIndex .. | .encode _ | .nestedTransaction
  | .beginFailed => .internal ("Unknown database error: " ++ fault.message)

/-- What the TDS client reports. -/
inductive TdsFault where
  | server (message : String) (number : Nat)
  | io (kind message : String)
  | tls (message : String)
  | routing (host : String) (port : Nat)
  | protocol (message : String)
  | conversion (message : String)
  | encoding (message : String)
  | utf8
  | utf16
  | integer (problem : IntegerProblem)
  | bulkInput (message : String)
deriving DecidableEq, Repr

namespace TdsFault

/-- The client's own text for the faults that have no treatment of their own. -/
def plainMessage? : TdsFault → Option String
  | .encoding message => some ("Encoding error: " ++ message)
  | .utf8 => some "UTF-8 error"
  | .utf16 => some "UTF-16 error"
  | .integer problem => some ("Error parsing an integer: " ++ problem.message)
  | .bulkInput message => some ("BULK UPLOAD input failure: " ++ message)
  | _ => none

def toFailure (fault : TdsFault) : Failure :=
  match fault with
  | .server message number => .statement message (some (toString number)) statementAdvice
  | .io kind message =>
    .connection ("I/O error (" ++ kind ++ "): " ++ message) networkAdvice
  | .tls message =>
    .connection ("TLS error: " ++ message)
      "Set trust_cert=true for self-signed certificates or disable encryption"
  | .routing host port =>
    .connection ("Server requested a redirect to " ++ host ++ ":" ++ toString port)
      "Connect to the redirected host directly"
  | .protocol message =>
    .connection ("Protocol error: " ++ message) "Check database server compatibility"
  | .conversion message => .internal ("Failed to convert value: " ++ message)
  | .encoding _ | .utf8 | .utf16 | .integer _ | .bulkInput _ =>
    .statement (fault.plainMessage?.getD "") none statementAdvice

end TdsFault

/-- What the pool of TDS sessions reports. -/
inductive TdsPoolFault where
  | session (fault : TdsFault)
  | line (message : String)
  | timeout
deriving DecidableEq, Repr

def TdsPoolFault.toFailure : TdsPoolFault → Failure
  | .session fault => fault.toFailure
  | .line message => .connection message networkAdvice
  | .timeout => poolAcquireTimeout

/-! ## Advice for a connection that cannot be opened -/

inductive ConnectTrouble where
  | refused
  | credentials
  | database
  | encryption
  | unclear
deriving DecidableEq, Repr

namespace ConnectTrouble

def ofText (text : String) : ConnectTrouble :=
  let mentions (words : List String) : Bool :=
    words.any fun word => Text.occursIgnoringCase word text
  if mentions ["connection refused"] then .refused
  else if mentions ["authentication", "password", "login failed"] then .credentials
  else if mentions ["does not exist", "unknown database", "cannot open database"] then .database
  else if mentions ["tls", "ssl", "certificate"] then .encryption
  else .unclear

def advice (engine : Engine) : ConnectTrouble → String
  | .refused =>
    "Check that the " ++ engine.displayName ++ " server is running and accessible"
  | .credentials => "Verify the username and password of the connection"
  | .database => "Check that the database name exists"
  | .encryption =>
    match engine with
    | .sqlServer => "Set trust_cert=true for self-signed certificates or disable ssl"
    | .postgres | .mySql => "Check TLS/SSL configuration or try disabling it"
  | .unclear =>
    "Verify the connection string format: " ++ engine.name ++ "://user:pass@host:" ++
      toString engine.defaultPort.toNat ++ "/db"

end ConnectTrouble

def connectFailure (engine : Engine) (text : String) : Failure :=
  .connection ("Failed to connect: " ++ text) ((ConnectTrouble.ofText text).advice engine)

end SqlGateway
