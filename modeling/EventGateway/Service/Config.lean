import EventGateway.Data.Checked
import EventGateway.Text.Numeral

/-!
# Settings

The settings of the service, from variables of the environment. Two of them have to be there; for the
others a value that is missing or cannot be read is replaced by a default.
-/

namespace EventGateway

/-- The settings of the service. Times are in milliseconds. -/
structure Config where
  databaseUrl : String := ""
  /-- Where messages go between processes; without it they stay in this one. -/
  redisUrl : Option String := none
  /-- The secret that tokens are signed under. -/
  jwtSecret : String
  port : UInt16 := 0
  /-- How long an authorization or authentication may take. -/
  authzTimeout : UInt64 := 500
  /-- The interval of heartbeats that clients are told. -/
  heartbeatInterval : UInt64 := 30000
  /-- Does publishing a name of no event stop the program? -/
  strictEventNames : Bool := true
  /-- The version that the status reports. -/
  apiVersion : UInt32 := 2
  deriving DecidableEq, Repr, Inhabited

namespace Config

/-- The message about a variable that is not there. -/
def missingMessage (name : String) : String := name ++ " env var is required"

/-- A truth value as it is written in a variable. -/
def readBool? (s : String) : Option Bool :=
  if s = "true" then some true else if s = "false" then some false else none

/-- A natural number as it is written in a variable. -/
def readNat? (limit : Nat) (s : String) : Option Nat := Text.unsigned? limit s.toList

def ofEnvironment (var? : String → Option String) : Except String Config :=
  let required (name : String) : Except String String :=
    match var? name with
    | some value => .ok value
    | none => .error (missingMessage name)
  let number (name : String) (limit default : Nat) : Nat :=
    ((var? name).bind (readNat? limit)).getD default
  do
    let databaseUrl ← required "DATABASE_URL"
    let jwtSecret ← required "JWT_SECRET"
    return {
      databaseUrl
      redisUrl := (var? "REDIS_URL").filter (!·.isEmpty)
      jwtSecret
      port := .ofNat (number "PORT" (Nat.pow 2 16) 4100)
      authzTimeout := .ofNat (number "AUTHZ_TIMEOUT_MS" (Nat.pow 2 64) 1500)
      heartbeatInterval := .ofNat (number "HEARTBEAT_INTERVAL_MS" (Nat.pow 2 64) 30000)
      strictEventNames := ((var? "STRICT_EVENT_NAMES").bind readBool?).getD false
      apiVersion := .ofNat (number "API_VERSION" (Nat.pow 2 32) 2) }

/-- The settings of tests and tools: short times, and nothing outside this process. -/
def forLocal (jwtSecret : String) : Config := { jwtSecret }

/-- How long a client may go without a heartbeat: one and a half intervals. Three intervals may be more
than can be told, and then there is no session to count the time for. -/
def checkedGrace (c : Config) : Except Overflow UInt64 := (mulChecked c.heartbeatInterval 3).map (· / 2)

/-- The grace of a session that there is. -/
def heartbeatGrace (c : Config) : UInt64 := c.checkedGrace.toOption.getD 0

theorem checkedGrace_of_lt {c : Config} (h : c.heartbeatInterval.toNat * 3 < UInt64.size) :
    c.checkedGrace = .ok (c.heartbeatInterval * 3 / 2) := by
  have hfits : mulChecked c.heartbeatInterval 3 = .ok (c.heartbeatInterval * 3) := if_pos h
  rw [checkedGrace, hfits]
  rfl

theorem checkedGrace_of_le {c : Config} (h : UInt64.size ≤ c.heartbeatInterval.toNat * 3) :
    c.checkedGrace = .error .multiply := by
  have hfails : mulChecked c.heartbeatInterval 3 = .error .multiply := if_neg (Nat.not_lt.2 h)
  rw [checkedGrace, hfails]
  rfl

theorem toNat_heartbeatGrace {c : Config} (h : c.heartbeatInterval.toNat * 3 < UInt64.size) :
    c.heartbeatGrace.toNat = c.heartbeatInterval.toNat * 3 / 2 := by
  have hfits : mulChecked c.heartbeatInterval 3 = .ok (c.heartbeatInterval * 3) := if_pos h
  have hproduct : (c.heartbeatInterval * 3).toNat = c.heartbeatInterval.toNat * 3 :=
    mulChecked_eq_ok_iff.1 hfits
  rw [heartbeatGrace, checkedGrace_of_lt h]
  show (c.heartbeatInterval * 3 / 2).toNat = _
  rw [UInt64.toNat_div, hproduct]
  rfl

end Config

end EventGateway
