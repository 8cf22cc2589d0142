import DumpReplay.Host.Action
import DumpReplay.Url

/-!
# Requests

Files are fetched from the artifact store by requests.  A request is only sent to an address of the
web; an answer counts if its status is a success.
-/

namespace DumpReplay.Action

/-- Send a request, if its address is one that a request can be sent to. -/
def request (method : Method) (address : String) : Action Reply := do
  match Url.forRequest address with
  | .error cause => return .refused cause
  | .ok url =>
    let host ← get
    set { host with requests := host.requests + 1 }
    return (← read).reply host.requests method url

/-- Whether there is a file at an address; a request without an answer finds none. -/
def isAvailable (address : String) : Action Bool := do
  match ← request .head address with
  | .refused _ => return false
  | .answered _ success _ | .brokenOff _ success _ => return success

/-- Fetch the file at an address.  What was written of a body that broke off is removed. -/
def download (address : String) (target : Path) : Action Unit := do
  inform ("Downloading: " ++ address)
  match ← request .get address with
  | .refused cause => fail (.request cause)
  | .answered status success body =>
    if !success then fail (.badAnswer address status)
    else
      writeBytes target body
      inform ("Downloaded to: " ++ target.text)
  | .brokenOff status success cause =>
    if !success then fail (.badAnswer address status)
    else
      writeBytes target ByteArray.empty
      let location ← ofIo (← look fun files here => files.locate here target)
      setFiles ((← files).removeBelow location)
      fail (.request cause)

end DumpReplay.Action
