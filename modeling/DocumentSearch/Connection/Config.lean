import DocumentSearch.Call
import DocumentSearch.Dialect
import DocumentSearch.Text.Blank
import DocumentSearch.Value.Number

/-!
# Settings of a connection

Settings name the hosts, how to identify oneself to them and how requests are made. They are given
one by one or taken from an environment, and checked in a fixed order.
-/
namespace DocumentSearch

structure Config where
  hosts : Value
  username : Value
  password : Value
  apiKey : Value
  bearerToken : Value
  caCerts : Value
  verifyCerts : Value
  maxRetries : Number
  retryOnTimeout : Value
  requestTimeout : Option Number
  httpCompress : Value
  indexSuffix : Value
  scrollTimeout : Value
  scrollSize : Number
  bulkErrorLimit : Number

namespace Config

/-- The names in a list separated by commas, without blanks around them and without empty ones. -/
def commaSeparated (s : String) : List String :=
  ((s.splitOn ",").map Text.strip).filter (fun host => host ≠ "")

def hostsOf : Value → Value
  | .str s => Value.ofStrings (commaSeparated s)
  | v => v

def check (holds : Bool) (fault : ConfigFault) : Except Error Unit :=
  if holds then .ok () else .error (.config fault)

def optionalNumber : Value → Except Error (Option Number)
  | .null => .ok none
  | v => do return some (← v.number)

def read : Signature Value (Except Error Config) := do
  let hosts ← Signature.withDefault "hosts" (Value.ofStrings ["http://localhost:9200"])
  let username ← Signature.withDefault "username" .null
  let password ← Signature.withDefault "password" .null
  let apiKey ← Signature.withDefault "api_key" .null
  let bearerToken ← Signature.withDefault "bearer_token" .null
  let caCerts ← Signature.withDefault "ca_certs" .null
  let verifyCerts ← Signature.withDefault "verify_certs" (.bool true)
  let maxRetries ← Signature.withDefault "max_retries" (.int 3)
  let retryOnTimeout ← Signature.withDefault "retry_on_timeout" (.bool true)
  let requestTimeout ← Signature.withDefault "request_timeout" .null
  let httpCompress ← Signature.withDefault "http_compress" (.bool true)
  let indexSuffix ← Signature.withDefault "index_suffix" (.str "")
  let scrollTimeout ← Signature.withDefault "scroll_timeout" (.str "30s")
  let scrollSize ← Signature.withDefault "scroll_size" (.int 100)
  let bulkErrorLimit ← Signature.withDefault "bulk_error_limit" (.int defaultErrorLimit)
  return do
    let hosts := hostsOf hosts
    check hosts.truthy .noHosts
    let maxRetries ← maxRetries.number
    check (!maxRetries.lt (.int 0)) (.negativeRetries maxRetries)
    let requestTimeout ← optionalNumber requestTimeout
    match requestTimeout with
    | some timeout => check (!timeout.lt (.int 0)) (.negativeTimeout timeout)
    | none => pure ()
    let scrollSize ← scrollSize.number
    check (!scrollSize.lt (.int 1)) (.scrollSize scrollSize)
    let bulkErrorLimit ← bulkErrorLimit.number
    check (!bulkErrorLimit.lt (.int 1)) (.errorLimit bulkErrorLimit)
    return {
      hosts := hosts
      username := username
      password := password
      apiKey := apiKey
      bearerToken := bearerToken
      caCerts := caCerts
      verifyCerts := verifyCerts
      maxRetries := maxRetries
      retryOnTimeout := retryOnTimeout
      requestTimeout := requestTimeout
      httpCompress := httpCompress
      indexSuffix := if indexSuffix.isNull then .str "" else indexSuffix
      scrollTimeout := scrollTimeout
      scrollSize := scrollSize
      bulkErrorLimit := bulkErrorLimit }

def of (given : Table String Value) : Except Error Config := do
  (← read.read ⟨[], given⟩)

def standard : Config where
  hosts := Value.ofStrings ["http://localhost:9200"]
  username := .null
  password := .null
  apiKey := .null
  bearerToken := .null
  caCerts := .null
  verifyCerts := .bool true
  maxRetries := .int 3
  retryOnTimeout := .bool true
  requestTimeout := none
  httpCompress := .bool true
  indexSuffix := .str ""
  scrollTimeout := .str "30s"
  scrollSize := .int 100
  bulkErrorLimit := .int defaultErrorLimit

theorem of_nil : of [] = .ok standard := rfl

/-- A variable of the environment without blanks around it; a blank one counts as missing. -/
def setting? (env : Entries) (name : String) : Except Misuse (Option Value) :=
  match Value.under env ("ELASTICSEARCH_" ++ name) with
  | .str s => .ok (if Text.strip s = "" then none else some (.str (Text.strip s)))
  | .bytes bs => .ok (if bs.all Text.isBlankByte then none else some (.bytes (Text.stripBytes bs)))
  | v => if v.truthy then .error .illTyped else .ok none

def namesIn : Value → Except Misuse (List String)
  | .str s => .ok (commaSeparated s)
  | _ => .error .illTyped

def endpointOf (given : Value) : Except Error Int :=
  match given.whole with
  | .ok endpoint => .ok endpoint
  | .error _ => .error (.config (.endpoint given.text))

/-- Full addresses are taken as they are; otherwise one is made for each host. Endpoint 443 is the
secure one. -/
def hostsFrom (env : Entries) : Except Error (List String) := do
  match ← setting? env "HOSTS" with
  | some hosts => namesIn hosts
  | none =>
    let endpoint ← endpointOf ((← setting? env "PORT").getD "9200")
    let scheme ← if endpoint = 443 then pure none else Misuse.lift (setting? env "SCHEME")
    let scheme := (scheme.getD (if endpoint = 443 then "https" else "http")).text
    let hosts ← namesIn ((← setting? env "HOST").getD "localhost")
    return hosts.map (fun host => scheme ++ "://" ++ host ++ ":" ++ toString endpoint)

def timeoutFrom (env : Entries) : Except Error Value := do
  match ← setting? env "REQUEST_TIMEOUT" with
  | none => return .null
  | some given =>
    match given.real? with
    | some x => return .float x
    | none => throw (.config (.timeout given.text))

def ofEnvironment (env : Entries) : Except Error Config := do
  let hosts ← hostsFrom env
  let timeout ← timeoutFrom env
  let username ← setting? env "USERNAME"
  let password ← setting? env "PASSWORD"
  let suffix ← setting? env "INDEX_SUFFIX"
  of [("hosts", Value.ofStrings hosts), ("username", username.getD .null),
    ("password", password.getD .null), ("index_suffix", suffix.getD ""),
    ("request_timeout", timeout)]

/-- The timeout of requests, if it is set and not zero. -/
def timeout? (c : Config) : Option Number :=
  match c.requestTimeout with
  | some n => if n.isZero then none else some n
  | none => none

/-- The dialect of a connection that is given none. -/
def dialect (c : Config) : Dialect := { Dialect.standard with suffix := c.indexSuffix }

def entryIfTrue (condition : Bool) (key : String) (v : Value) : Entries :=
  if condition then [(.str key, v)] else []

def clientArguments (c : Config) : Entries :=
  ("hosts", c.hosts) :: ("max_retries", .ofNumber c.maxRetries) ::
    ("retry_on_timeout", c.retryOnTimeout) :: ("http_compress", c.httpCompress) ::
    ("verify_certs", c.verifyCerts) ::
    (entryIfTrue c.timeout?.isSome "request_timeout" (.ofOption c.timeout?) ++
      entryIfTrue (c.username.truthy && c.password.truthy) "basic_auth"
        (.tuple [c.username, c.password]) ++
      entryIfTrue c.apiKey.truthy "api_key" c.apiKey ++
      entryIfTrue c.bearerToken.truthy "bearer_auth" c.bearerToken ++
      entryIfTrue c.caCerts.truthy "ca_certs" c.caCerts)

def fields (c : Config) : List (String × Value) :=
  [("hosts", c.hosts), ("username", c.username), ("password", c.password), ("api_key", c.apiKey),
    ("bearer_token", c.bearerToken), ("ca_certs", c.caCerts), ("verify_certs", c.verifyCerts),
    ("max_retries", .ofNumber c.maxRetries), ("retry_on_timeout", c.retryOnTimeout),
    ("request_timeout", .ofOption c.requestTimeout), ("http_compress", c.httpCompress),
    ("index_suffix", c.indexSuffix), ("scroll_timeout", c.scrollTimeout),
    ("scroll_size", .ofNumber c.scrollSize), ("bulk_error_limit", .ofNumber c.bulkErrorLimit)]

def value (c : Config) : Value := .entity "ConnectionConfig" c.fields

end Config

end DocumentSearch
