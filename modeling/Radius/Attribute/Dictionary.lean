/-!
# The attribute dictionary

The attribute types a packet of this library is built and read with, and the values of the
attribute that tells the status of an accounting session, under their names.
-/

namespace Radius.Dictionary

def userName : Nat := 1
def userPassword : Nat := 2
def nasIpAddress : Nat := 4
def nasPort : Nat := 5
def replyMessage : Nat := 18
def state : Nat := 24
def serviceClass : Nat := 25
def sessionTimeout : Nat := 27
def calledStationId : Nat := 30
def callingStationId : Nat := 31
def nasIdentifier : Nat := 32
def acctStatusType : Nat := 40
def acctSessionId : Nat := 44
def messageAuthenticator : Nat := 80

def acctStatusStart : Nat := 1
def acctStatusStop : Nat := 2
def acctStatusInterim : Nat := 3

/-- Every entry with its name. -/
def entries : List (String × Nat) := [
  ("USER_NAME", userName), ("USER_PASSWORD", userPassword), ("NAS_IP_ADDRESS", nasIpAddress),
  ("NAS_PORT", nasPort), ("REPLY_MESSAGE", replyMessage), ("STATE", state), ("CLASS", serviceClass),
  ("SESSION_TIMEOUT", sessionTimeout), ("CALLED_STATION_ID", calledStationId),
  ("CALLING_STATION_ID", callingStationId), ("NAS_IDENTIFIER", nasIdentifier),
  ("ACCT_STATUS_TYPE", acctStatusType), ("ACCT_SESSION_ID", acctSessionId),
  ("MESSAGE_AUTHENTICATOR", messageAuthenticator), ("ACCT_STATUS_START", acctStatusStart),
  ("ACCT_STATUS_STOP", acctStatusStop), ("ACCT_STATUS_INTERIM", acctStatusInterim)]

end Radius.Dictionary
