import Mathlib.Data.Finset.Sort
import Mathlib.Logic.Function.Basic
import DcasPolicyEngine.Viewer.Broadcast

/-!
# The WebSocket server of the viewer

The subscriber threads broadcast, and the thread of the loop runs the handlers of the connections
and the sends. `_lock` guards the set of clients, but not `_send_futures`, which the handlers change
without it. `webSocketServer` is the machine of the single statements, and a list of actions is one
interleaving: an action that has to wait for the lock, or whose turn it is not, changes nothing. A
connection is named by its `id`, which may be used again for a later one.
-/

namespace DcasPolicyEngine

/-- Where the handler of a connection is: before it adds the client, in its receive loop, between
the two statements of its `finally`, or nowhere. -/
inductive HandlerPhase where
  | absent
  | entered
  | serving
  | discarded
  deriving DecidableEq

/-- A send that the loop has been handed and has not finished. -/
structure ClientSend where
  future : ℕ
  client : ℕ
  message : ViewerMessage

/-- Where a broadcast is: at the head of its loop, before it hands a send to the loop, or before it
keeps the future of one. -/
inductive BroadcastPhase where
  | next
  | handing (client : ℕ)
  | keeping (client future : ℕ)

/-- A broadcast that holds the lock: the clients that it has yet to come to, and `dead`. -/
structure Broadcast where
  message : ViewerMessage
  todo : Finset ℕ
  dead : Finset ℕ := ∅
  phase : BroadcastPhase := .next

/-- The server, while its loop runs. -/
structure DCASWebSocketServer where
  clients : Finset ℕ := ∅
  lock : Option Broadcast := none
  sendFutures : ℕ → Option ℕ := fun _ => none
  handlers : ℕ → HandlerPhase := fun _ => .absent
  sends : List ClientSend := []
  createdFutures : ℕ := 0

/-- A statement of one of the threads. -/
inductive ServerAction where
  | accept (client : ℕ)
  | add (client : ℕ)
  | discard (client : ℕ)
  | pop (client : ℕ)
  | acquire (message : ViewerMessage)
  | visit (client : ℕ)
  | hand (raises : Bool)
  | keep
  | release
  | complete (future : ℕ) (succeeds : Bool)
  | shutdown

/-- What a statement does that others see: a broadcast has begun, or a message has been sent. -/
inductive ServerOutput where
  | silent
  | began (message : ViewerMessage)
  | sent (client : ℕ) (message : ViewerMessage)

/-- The message is a frame, which `broadcast_binary` sends. -/
def ViewerMessage.IsBinary : ViewerMessage → Prop
  | .binary _ => True
  | .text _ => False

instance (message : ViewerMessage) : Decidable message.IsBinary := by
  cases message <;> unfold ViewerMessage.IsBinary <;> infer_instance

namespace DCASWebSocketServer

/-- A future is done when the loop has finished its send. -/
def Done (self : DCASWebSocketServer) (future : ℕ) : Prop :=
  ∀ send ∈ self.sends, send.future ≠ future

instance (self : DCASWebSocketServer) (future : ℕ) : Decidable (self.Done future) :=
  inferInstanceAs (Decidable (∀ send ∈ self.sends, send.future ≠ future))

/-! ## `_ws_handler` -/

/-- A browser connects. The `id` of an object is that of no other one that is still in use, and a
send uses the connection that it goes to. -/
def accept (self : DCASWebSocketServer) (client : ℕ) : DCASWebSocketServer :=
  if self.handlers client = .absent ∧ ∀ send ∈ self.sends, send.client ≠ client then
    { self with handlers := Function.update self.handlers client .entered }
  else self

/-- `self.clients.add(websocket)`. -/
def add (self : DCASWebSocketServer) (client : ℕ) : DCASWebSocketServer :=
  if self.lock.isNone ∧ self.handlers client = .entered then
    { self with
      clients := insert client self.clients
      handlers := Function.update self.handlers client .serving }
  else self

/-- `self.clients.discard(websocket)`. -/
def discard (self : DCASWebSocketServer) (client : ℕ) : DCASWebSocketServer :=
  if self.lock.isNone ∧ self.handlers client = .serving then
    { self with
      clients := self.clients.erase client
      handlers := Function.update self.handlers client .discarded }
  else self

/-- `self._send_futures.pop(id(websocket), None)`, without the lock. -/
def pop (self : DCASWebSocketServer) (client : ℕ) : DCASWebSocketServer :=
  if self.handlers client = .discarded then
    { self with
      sendFutures := Function.update self.sendFutures client none
      handlers := Function.update self.handlers client .absent }
  else self

/-! ## `broadcast_binary` and `broadcast_text` -/

/-- A broadcast takes the lock. -/
def acquire (self : DCASWebSocketServer) (message : ViewerMessage) :
    ServerOutput × DCASWebSocketServer :=
  if self.lock.isNone then
    (.began message, { self with lock := some { message := message, todo := self.clients } })
  else (.silent, self)

/-- The loop comes to a client. A frame is not for a client whose last one has not been sent. -/
def visit (self : DCASWebSocketServer) (client : ℕ) : DCASWebSocketServer :=
  match self.lock with
  | some ⟨message, todo, dead, .next⟩ =>
      if client ∈ todo then
        if message.IsBinary ∧ ∃ prev, self.sendFutures client = some prev ∧ ¬ self.Done prev then
          { self with lock := some ⟨message, todo.erase client, dead, .next⟩ }
        else { self with lock := some ⟨message, todo.erase client, dead, .handing client⟩ }
      else self
  | _ => self

/-- `run_coroutine_threadsafe`, which may raise an error. -/
def hand (self : DCASWebSocketServer) (raises : Bool) : DCASWebSocketServer :=
  match self.lock with
  | some ⟨message, todo, dead, .handing client⟩ =>
      if raises then { self with lock := some ⟨message, todo, insert client dead, .next⟩ }
      else
        let future := self.createdFutures
        { self with
          lock := some ⟨message, todo, dead,
            -- `broadcast_text` drops the future
            if message.IsBinary then .keeping client future else .next⟩
          sends := ⟨future, client, message⟩ :: self.sends
          createdFutures := future + 1 }
  | _ => self

/-- `self._send_futures[cid] = future`. -/
def keep (self : DCASWebSocketServer) : DCASWebSocketServer :=
  match self.lock with
  | some ⟨message, todo, dead, .keeping client future⟩ =>
      { self with
        lock := some ⟨message, todo, dead, .next⟩
        sendFutures := Function.update self.sendFutures client (some future) }
  | _ => self

/-- The end of a broadcast. Only `broadcast_binary` pops the futures of the dead clients. -/
def release (self : DCASWebSocketServer) : DCASWebSocketServer :=
  match self.lock with
  | some ⟨message, todo, dead, .next⟩ =>
      if todo = ∅ then
        { self with
          clients := self.clients \ dead
          lock := none
          sendFutures := fun client =>
            if message.IsBinary ∧ client ∈ dead then none else self.sendFutures client }
      else self
  | _ => self

/-! ## The loop -/

/-- The loop finishes a send, which may have failed. -/
def complete (self : DCASWebSocketServer) (future : ℕ) (succeeds : Bool) :
    ServerOutput × DCASWebSocketServer :=
  (match self.sends.find? fun send => send.future = future with
    | some send => if succeeds then .sent send.client send.message else .silent
    | none => .silent,
  { self with sends := self.sends.filter fun send => send.future ≠ future })

/-- `_shutdown` forgets the clients before it closes their connections. -/
def shutdown (self : DCASWebSocketServer) : DCASWebSocketServer :=
  if self.lock.isNone then { self with clients := ∅ } else self

end DCASWebSocketServer

/-- The threads as one machine. -/
def webSocketServer : Machine DCASWebSocketServer ServerAction ServerOutput where
  step
    | self, .accept client => (.silent, self.accept client)
    | self, .add client => (.silent, self.add client)
    | self, .discard client => (.silent, self.discard client)
    | self, .pop client => (.silent, self.pop client)
    | self, .acquire message => self.acquire message
    | self, .visit client => (.silent, self.visit client)
    | self, .hand raises => (.silent, self.hand raises)
    | self, .keep => (.silent, self.keep)
    | self, .release => (.silent, self.release)
    | self, .complete future succeeds => self.complete future succeeds
    | self, .shutdown => (.silent, self.shutdown)

end DcasPolicyEngine
