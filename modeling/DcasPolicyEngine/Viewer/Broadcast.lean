import Mathlib.Algebra.Order.Ring.Rat
import DcasPolicyEngine.Json.Text
import DcasPolicyEngine.Machine.Stuttering

/-!
# The broadcasts of the web viewer

`DCASWebViewer` relays camera frames and statuses to the browsers, each kind at a limited rate and
only while a client is connected. Three subscriber threads feed it, and each of them has a limit of
its own, so that their calls are taken one at a time. What a call reads from elsewhere is its input:
the clock, the number of clients, the encoded picture and the text for the timestamp.
-/

namespace DcasPolicyEngine

/-- `_frame_interval`, in seconds. -/
def frameInterval : ℚ := 1 / 30

/-- `_status_interval`, in seconds. -/
def statusInterval : ℚ := 0.2

/-- `LKAS_CHANNEL`. -/
def lkasChannel : UInt8 := 1

/-- `DRIVER_CHANNEL`. -/
def driverChannel : UInt8 := 2

/-- The times of `DCASWebViewer`, in seconds. -/
structure DCASWebViewer where
  lastLkasTime : ℚ := 0
  lastDriverTime : ℚ := 0
  lastStatusTime : ℚ := 0

/-- What a call passes to the WebSocket server. -/
inductive ViewerMessage where
  | binary (data : List UInt8)
  | text (message : List Char)

/-- A call of the viewer by one of its subscribers, with what it reads: the clock, the number of
clients, the picture that the encoder makes of the frame if it succeeds, the received text and the
time of day. -/
inductive ViewerCall where
  | lkasFrame (now : ℚ) (clientCount : ℕ) (encoded : Option (List UInt8))
  | driverFrame (now : ℚ) (clientCount : ℕ) (encoded : Option (List UInt8))
  | status (now : ℚ) (clientCount : ℕ) (raw clock : List Char)

/-- `_encode_frame`, from what the encoder returns. -/
def encodeFrame (encoded : Option (List UInt8)) (channel : UInt8) : Option (List UInt8) :=
  encoded.map fun buf => channel :: buf

/-- What `broadcast_lkas_frame` and `broadcast_driver_frame` have in common: the message and the
time of the last one. -/
def broadcastFrame (channel : UInt8) (lastTime now : ℚ) (clientCount : ℕ)
    (encoded : Option (List UInt8)) : Option ViewerMessage × ℚ :=
  if now - lastTime < frameInterval then (none, lastTime)
  else if clientCount = 0 then (none, lastTime)
  else
    -- the data is never empty, as it starts with the channel
    match encodeFrame encoded channel with
    | some data => (some (.binary data), now)
    | none => (none, lastTime)

/-- The members that `broadcast_status` adds. -/
def stampStatus (status : List (List Char × Json)) (clock : List Char) :
    List (List Char × Json) :=
  let status := Json.set "type".toList (.string "status".toList) status
  if "timestamp".toList ∈ status.map Prod.fst then status
  else Json.set "timestamp".toList (.string clock) status

namespace DCASWebViewer

/-- `broadcast_lkas_frame`. -/
def broadcastLkasFrame (self : DCASWebViewer) (now : ℚ) (clientCount : ℕ)
    (encoded : Option (List UInt8)) : Option ViewerMessage × DCASWebViewer :=
  let (message, lastTime) := broadcastFrame lkasChannel self.lastLkasTime now clientCount encoded
  (message, { self with lastLkasTime := lastTime })

/-- `broadcast_driver_frame`. -/
def broadcastDriverFrame (self : DCASWebViewer) (now : ℚ) (clientCount : ℕ)
    (encoded : Option (List UInt8)) : Option ViewerMessage × DCASWebViewer :=
  let (message, lastTime) :=
    broadcastFrame driverChannel self.lastDriverTime now clientCount encoded
  (message, { self with lastDriverTime := lastTime })

/-- `broadcast_status`. Anything but an object raises an error in the first assignment, which comes
after the time has been taken. -/
def broadcastStatus (self : DCASWebViewer) (now : ℚ) (clientCount : ℕ) (status : Json)
    (clock : List Char) : Option ViewerMessage × DCASWebViewer :=
  if now - self.lastStatusTime < statusInterval then (none, self)
  else if clientCount = 0 then (none, self)
  else
    let self := { self with lastStatusTime := now }
    match status with
    | .object members =>
        (some (.text (Json.render .spaced (.object (stampStatus members clock)))), self)
    | _ => (none, self)

/-- The loop body of `DCASStatusSubscriber`, which drops texts that are no JSON and goes on after
every error. `json.loads` also takes the names `NaN` and `Infinity`, which no status of the bridge
has; a text with one of them counts as no JSON here. -/
def receiveStatus (self : DCASWebViewer) (now : ℚ) (clientCount : ℕ) (raw clock : List Char) :
    Option ViewerMessage × DCASWebViewer :=
  match Json.parse raw with
  | some data => self.broadcastStatus now clientCount data clock
  | none => (none, self)

/-- A call. -/
def call (self : DCASWebViewer) : ViewerCall → Option ViewerMessage × DCASWebViewer
  | .lkasFrame now clientCount encoded => self.broadcastLkasFrame now clientCount encoded
  | .driverFrame now clientCount encoded => self.broadcastDriverFrame now clientCount encoded
  | .status now clientCount raw clock => self.receiveStatus now clientCount raw clock

end DCASWebViewer

/-- The viewer as a machine. -/
def viewer : Machine DCASWebViewer ViewerCall (Option ViewerMessage) := ⟨DCASWebViewer.call⟩

end DcasPolicyEngine
