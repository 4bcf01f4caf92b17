import EventGateway.Net.Url
import EventGateway.Text.Percent

/-!
# The address of a remote transport

Messages may go between processes by way of a server whose address is given as a URL: a host, possibly
with a port and credentials, and the number of a database as its path. A server on the same machine may
be named by the path of its socket instead, and the database then by a parameter. The version of the
protocol is a parameter of both. An address that cannot be used is refused with the reason.
-/

namespace EventGateway

open Net (Url)

/-- Why a remote transport cannot be used. -/
inductive RemoteFault where
  | notAnAddress
  | noHost
  | noSocketPath
  | noEncryption
  | wrongDatabase
  | wrongUsername
  | wrongPassword
  | wrongProtocol (version : List Char)
  /-- The path of a socket has a zero byte in it. -/
  | zeroInPath
  | pathTooLong
  /-- There is no socket at the path. -/
  | noSocket
  /-- Nobody answers at the address. -/
  | refused
  deriving DecidableEq, Repr, Inhabited

namespace RemoteFault

/-- What is said about a setting that is wrong. -/
def invalid (s : String) : String := s ++ "- InvalidClientConfig"

/-- The reason without the kind of transport. -/
def reason : RemoteFault → String
  | .notAnAddress => invalid "Redis URL did not parse"
  | .noHost => invalid "Missing hostname"
  | .noSocketPath => invalid "Missing path"
  | .noEncryption => invalid "can't connect with TLS, the feature is not enabled"
  | .wrongDatabase => invalid "Invalid database number"
  | .wrongUsername => invalid "Username is not valid UTF-8 string"
  | .wrongPassword => invalid "Password is not valid UTF-8 string"
  | .wrongProtocol version => invalid "Invalid protocol version " ++ ": " ++ String.ofList version
  | .zeroInPath => "paths must not contain interior null bytes"
  | .pathTooLong => "path must be shorter than SUN_LEN"
  | .noSocket => "No such file or directory (os error 2)"
  | .refused => "Connection refused (os error 111)"

end RemoteFault

/-- Why a transport, of whatever kind, does not do what it is asked. -/
inductive TransportFault where
  | remote (fault : RemoteFault)
  deriving DecidableEq, Repr, Inhabited

namespace TransportFault

def message : TransportFault → String
  | .remote fault => "redis: " ++ fault.reason

end TransportFault

namespace Remote

/-! ### Settings in a URL -/

def hostSchemes : List String := ["redis", "rediss"]

def encryptedScheme : String := "rediss"

/-- The schemes of servers that are reached by a socket on the same machine. -/
def socketSchemes : List String := ["redis+unix", "unix"]

/-- The last value that a query gives to a parameter. -/
def parameter? (url : Url) (name : String) : Option (List Char) :=
  ((Text.queryPairs url.query).reverse.find? (·.1 = name.toList)).map Prod.snd

def isDatabase (cs : List Char) : Bool := (Text.signed? (Nat.pow 2 63) cs).isSome

/-- The versions of the protocol, in both spellings. -/
def protocols : List String := ["2", "resp2", "3", "resp3"]

def isEncodedText (cs : List Char) : Bool := (Text.ofUtf8? (Text.percentDecode cs)).isSome

/-- What is wrong with the version of the protocol, if one is given. -/
def protocolFault? (url : Url) : Option RemoteFault :=
  (parameter? url "protocol").bind fun version =>
    if String.ofList version ∈ protocols then none else some (.wrongProtocol version)

/-! ### A server at a host -/

/-- The path without the slashes around it. -/
def databaseName (url : Url) : List Char :=
  match url.path with
  | .whole text => text
  | .segments segments =>
    let trimStart := List.dropWhile fun c : Char => c = '/'
    (trimStart (trimStart (['/'].intercalate segments)).reverse).reverse

def connectHost (url : Url) : RemoteFault :=
  if url.host.isNone then .noHost
  else if url.scheme = encryptedScheme.toList then .noEncryption
  else if !(databaseName url).isEmpty ∧ !isDatabase (databaseName url) then .wrongDatabase
  else if !isEncodedText url.username then .wrongUsername
  else if url.password.any (!isEncodedText ·) then .wrongPassword
  else (protocolFault? url).getD .refused

/-! ### A server at a socket -/

/-- The bytes of the path of a socket, if the URL has a path on the same machine. -/
def socketPath? (url : Url) : Option (List UInt8) :=
  match url.path with
  | .segments (segment :: segments) =>
    if url.host.all (· = "localhost".toList) then
      some ((segment :: segments).flatMap fun s => Text.utf8 ['/'] ++ Text.percentDecode s)
    else none
  | _ => none

def greatestPathLength : Nat := 107

def connectPath (path : List UInt8) : RemoteFault :=
  if path.contains 0 then .zeroInPath
  else if greatestPathLength < path.length then .pathTooLong
  else if path.all (Text.utf8 ['/']).contains then .refused
  else .noSocket

def connectSocket (url : Url) : RemoteFault :=
  match socketPath? url with
  | none => .noSocketPath
  | some path =>
    if (parameter? url "db").any (!isDatabase ·) then .wrongDatabase
    else (protocolFault? url).getD (connectPath path)

/-! ### All together -/

/-- What comes of connecting to the transport of a URL when no server answers. -/
def connect (url : String) : TransportFault :=
  match Url.ofText? url.toList with
  | none => .remote .notAnAddress
  | some url =>
    let scheme := String.ofList url.scheme
    if scheme ∈ hostSchemes then .remote (connectHost url)
    else if scheme ∈ socketSchemes then .remote (connectSocket url)
    else .remote .notAnAddress

end Remote

end EventGateway
