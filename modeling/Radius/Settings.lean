import Radius.Number.Numeral
import Radius.Value.Printer

/-!
# Settings

The settings come from variables of the environment (`Settings.ofEnvironment`). A timeout is a
number of seconds, and none if the variable is unset, blank or the word `none`; the port is an
integer. A `SettingsError` names the variable or the text that is no number. `Launch` holds what
the control service is started with.
-/

namespace Radius

/-- The variables of an environment by name. -/
abbrev Environment := List (String × String)

namespace Environment

/-- The value of a variable, or a default if it is unset. -/
def get (env : Environment) (name default : String) : String := (env.lookup name).getD default

end Environment

/-- Why the settings cannot be read. -/
inductive SettingsError where
  | notSeconds (name value : String)
  | notInteger (value : String)
  /-- The text starts with more digits than an integer is read from. -/
  | tooManyDigits (count : Nat)
  deriving DecidableEq, Repr

/-- A quoted text that is shown in a message is cut at this length. -/
def SettingsError.maxShown : Nat := 200

/-- What is said of settings that cannot be read. -/
def SettingsError.message : SettingsError → String
  | notSeconds name value =>
    name ++ " must be a number of seconds, got " ++ (Value.text value).quoted
  | notInteger value => "invalid literal for int() with base 10: " ++
      String.ofList ((Value.text value).quoted.toList.take maxShown)
  | tooManyDigits count =>
    "Exceeds the limit (" ++ toString Numeral.maxDigits ++
      " digits) for integer string conversion: value has " ++ toString count ++
      " digits; use sys.set_int_max_str_digits() to increase the limit"

/-- What the environment settles: the two timeouts of a client in seconds, where the control service
is found, and where the simulator listens and with which secret. -/
structure Settings where
  connectionTimeout : Option Binary64
  socketTimeout : Option Binary64
  controlUrl : String
  udpHost : String
  udpPort : Int
  secret : String
  deriving DecidableEq

namespace Settings

/-- The seconds a variable gives. -/
def seconds (env : Environment) (name : String) : Except SettingsError (Option Binary64) :=
  let cs := Text.trim Text.isSpace (env.get name "").toList
  if cs.isEmpty || String.ofList (cs.map Char.toLower) == "none" then .ok none
  else
    let value := String.ofList cs
    match Numeral.readReal? value with
    | some x => .ok (some x)
    | none => .error (.notSeconds name value)

/-- The integer a text is. -/
def integer (value : String) : Except SettingsError Int :=
  let digits := Numeral.leadingDigits value
  if Numeral.maxDigits < digits then .error (.tooManyDigits digits)
  else match Numeral.readInteger? value with
    | some n => .ok n
    | none => .error (.notInteger value)

/-- The settings of an environment; of several unreadable variables the first one counts. -/
def ofEnvironment (env : Environment) : Except SettingsError Settings := do
  let connectionTimeout ← seconds env "RADCLIENT_CONNECTION_TIMEOUT_S"
  let socketTimeout ← seconds env "RADCLIENT_SOCKET_TIMEOUT_S"
  let udpPort ← integer (env.get "SIM_UDP_PORT" "1812")
  return {
    connectionTimeout, socketTimeout, udpPort
    controlUrl := env.get "SIM_HTTP" "http://127.0.0.1:8000"
    udpHost := env.get "SIM_UDP_HOST" "127.0.0.1"
    secret := env.get "SIM_SECRET" "testing123" }

end Settings

/-- What the control service is started with. -/
structure Launch where
  settings : Settings
  host : String
  port : Int
  reload : Bool

namespace Launch

/-- The title of the control service. -/
def title : String := "RADIUS Responder Simulator"

/-- The version of the control service. -/
def version : String := "0.1.0"

/-- The variables a launch depends on. -/
def variableNames : List String := ["RADCLIENT_CONNECTION_TIMEOUT_S", "RADCLIENT_SOCKET_TIMEOUT_S",
  "SIM_HTTP", "SIM_UDP_HOST", "SIM_UDP_PORT", "SIM_SECRET", "SIM_HTTP_HOST", "SIM_HTTP_PORT"]

/-- The launch of an environment. The settings are read before the address to listen on. -/
def ofEnvironment (env : Environment) : Except SettingsError Launch := do
  let settings ← Settings.ofEnvironment env
  let port ← Settings.integer (env.get "SIM_HTTP_PORT" "8000")
  return ⟨settings, env.get "SIM_HTTP_HOST" "127.0.0.1", port, false⟩

/-- What is launched, and the addresses it listens on. -/
def summary (l : Launch) : String :=
  title ++ " " ++ version ++ ": control at " ++ l.host ++ ":" ++ toString l.port ++
    ", datagrams at " ++ l.settings.udpHost ++ ":" ++ toString l.settings.udpPort

end Launch

end Radius
