import Ads.Client.Communicate
import Ads.Client.Reader
import Ads.Transition.Run

/-!
# Concurrent calls and the reader thread

The shared state of a client, any number of `communicate` calls in progress, and
the reader thread, as one labelled transition system.  A step is what one thread
does between two points at which another can interfere: a section under a mutex,
an atomic increment, a socket operation or an operation on a oneshot channel.
-/

namespace Ads.Client

open Ads.Control Ads.Notif

/-- A message on the channel of a call: a reply frame, or the reader's error. -/
abbrev Message := Except Error (AdsHeader × List UInt8)

/-- A oneshot channel. -/
inductive Channel
  /-- The sender exists and has not sent. -/
  | empty
  /-- The message waits for the receiver. -/
  | full (message : Message)
  /-- The receiver has taken the message. -/
  | taken (message : Message)
  /-- The sender was dropped without sending. -/
  | disconnected

/-- The messages a channel was ever sent. -/
def Channel.messages : Channel → List Message
  | empty => []
  | full message => [message]
  | taken message => [message]
  | disconnected => []

/-- Where a `communicate` call stands. -/
inductive Stage
  /-- It has its invoke id and its assembled request. -/
  | numbered (requestBuf : List UInt8)
  /-- Its sender is in the pending map. -/
  | registered (requestBuf : List UInt8)
  /-- Its request is written, and it waits for the channel. -/
  | waiting
  /-- It will discard its pending entry and return the error. -/
  | givingUp (error : Error)
  /-- It has returned, and dropped its receiver. -/
  | done (result : Outcome Error Received)

/-- Whether the call has returned. -/
def Stage.isDone : Stage → Bool
  | done _ => true
  | _ => false

/-- A `communicate` call. -/
structure Call where
  request : Request
  invokeId : UInt32
  stage : Stage
  channel : Channel

namespace Call

/-- The sender is dropped. -/
def disconnect (call : Call) : Call :=
  match call.channel with
  | .empty => { call with channel := .disconnected }
  | _ => call

/-- The message is sent. -/
def deliver (message : Message) (call : Call) : Call :=
  { call with channel := .full message }

/-- The call proceeds. -/
def proceed (stage : Stage) (call : Call) : Call :=
  { call with stage }

/-- The call takes the message off its channel: a reply is validated and makes it
return, an error makes it give up. -/
def take (message : Message) (call : Call) : Call :=
  { call with
    channel := .taken message
    stage := match message with
      | .ok (header, payload) => .done (settleReply call.request call.invokeId header payload)
      | .error error => .givingUp error }

end Call

/-- Where the reader thread stands. -/
inductive ReaderStage
  | running
  /-- `reader_work` has returned its error. -/
  | returned (error : Error)
  /-- The socket is shut down. -/
  | shutDown (error : Error)
  /-- All pending requests have been sent the error. -/
  | drained (error : Error)
  | panicked
  deriving DecidableEq

/-- A message that was sent into a call's channel; for a reply, with the number
of the frame it came in. -/
structure Delivery where
  call : CallId
  message : Message
  frame : Option Nat

/-- The state of a client.  The last four fields are history, which no step
reads. -/
structure World where
  source : AmsAddr
  /-- Whether calls have a read timeout. -/
  readTimeout : Bool
  invokeId : UInt32
  /-- All calls, in the order in which they took their invoke ids. -/
  calls : List Call
  pending : PendingMap
  reader : ReaderStage
  socketOpen : Bool
  /-- The bytes that the reader has yet to read. -/
  incoming : List UInt8
  /-- The bytes written to the socket. -/
  sent : List UInt8
  /-- The calls whose requests were written, in that order. -/
  written : List CallId
  /-- The number of frames that the reader has gone past. -/
  turns : Nat
  deliveries : List Delivery
  notifications : List Notification

/-- A step, with the choices that the environment makes in it. -/
inductive Label
  /-- A call takes an invoke id and assembles its request. -/
  | start (request : Request)
  /-- `insert_pending_request`. -/
  | insert (call : CallId)
  /-- The request is written, in full or up to a failure. -/
  | write (call : CallId) (failure : Option (Nat × IoErrorKind))
  /-- The wait on the channel ends with a message, or for want of a sender. -/
  | receive (call : CallId)
  /-- The wait on the channel times out. -/
  | timeout (call : CallId)
  /-- `discard_pending_request`, and the return behind it. -/
  | discard (call : CallId)
  /-- Bytes arrive from the peer. -/
  | arrive (bytes : List UInt8)
  /-- A turn of `reader_work`, whose reads fail when they run out of bytes and
  the socket has an error for them. -/
  | turn (socketEnd : Option IoErrorKind)
  /-- The reader shuts the socket down. -/
  | shutdown
  /-- The reader fails all pending requests. -/
  | drain

namespace World

/-- The state before the first call. -/
def initial (source : AmsAddr) (readTimeout : Bool) : World where
  source := source
  readTimeout := readTimeout
  invokeId := 1
  calls := []
  pending := ∅
  reader := .running
  socketOpen := true
  incoming := []
  sent := []
  written := []
  turns := 0
  deliveries := []
  notifications := []

/-- Whether a call still holds its receiver. -/
def receiving (world : World) (call : CallId) : Bool :=
  match world.calls[call]? with
  | some call => !call.stage.isDone
  | none => false

/-- Change one call. -/
def modifyCall (world : World) (call : CallId) (change : Call → Call) : World :=
  { world with calls := world.calls.modify call change }

/-- Drop the sender that is registered under an invoke id. -/
def dropSender (world : World) (invokeId : UInt32) : World :=
  { world with
    calls := match world.pending.lookup invokeId with
      | some call => world.calls.modify call Call.disconnect
      | none => world.calls }

/-- A call takes the next invoke id and assembles its request. -/
def start (world : World) (request : Request) : World :=
  { world with
    invokeId := world.invokeId + 1
    calls := world.calls ++ [{
      request
      invokeId := world.invokeId
      stage := match assembleRequest world.source request world.invokeId with
        | .ok requestBuf => .numbered requestBuf
        | .error error => .done (.err error)
      channel := .empty }] }

/-- Insert the call's sender into the pending map, in place of any sender that is
registered under the same invoke id. -/
def insert (world : World) (call : CallId) : Option World :=
  match world.calls[call]? with
  | some { invokeId, stage := .numbered requestBuf, .. } =>
      some { (world.dropSender invokeId).modifyCall call (.proceed (.registered requestBuf)) with
             pending := world.pending.insert invokeId call }
  | _ => none

/-- Write the request.  No write succeeds on a socket that is shut down. -/
def write (world : World) (call : CallId) (failure : Option (Nat × IoErrorKind)) :
    Option World :=
  match world.calls[call]? with
  | some { stage := .registered requestBuf, .. } =>
      match failure with
      | none =>
          if world.socketOpen then
            some { world.modifyCall call (.proceed .waiting) with
                   sent := world.sent ++ requestBuf
                   written := world.written ++ [call] }
          else none
      | some (count, kind) =>
          some { world.modifyCall call (.proceed
                   (.done (.err (.io "dispatching assembled command payload" kind)))) with
                 sent := world.sent ++ requestBuf.take count }
  | _ => none

/-- The wait ends with the channel's message, or because its sender is gone. -/
def receive (world : World) (call : CallId) : Option World :=
  match world.calls[call]? with
  | some { stage := .waiting, channel := .full message, .. } =>
      some (world.modifyCall call (.take message))
  | some { invokeId, stage := .waiting, channel := .disconnected, .. } =>
      some (world.modifyCall call (.proceed (.givingUp
        (.ioSync "waiting for response to dispatched request" "response channel was closed"
          invokeId))))
  | _ => none

/-- The wait ends with the read timeout. -/
def timeout (world : World) (call : CallId) : Option World :=
  match world.calls[call]? with
  | some { stage := .waiting, channel := .empty, .. } =>
      if world.readTimeout then
        some (world.modifyCall call (.proceed (.givingUp
          (.io "waiting for response to dispatched request" .timedOut))))
      else none
  | _ => none

/-- Remove whatever entry is registered under the call's invoke id, and return
the error. -/
def discard (world : World) (call : CallId) : Option World :=
  match world.calls[call]? with
  | some { invokeId, stage := .givingUp error, .. } =>
      some { (world.dropSender invokeId).modifyCall call (.proceed (.done (.err error))) with
             pending := world.pending.erase invokeId }
  | _ => none

/-- Do what a turn of the reader sends. -/
def apply (world : World) : Effect → World
  | .nothing => world
  | .replied call header payload =>
      { world.modifyCall call (.deliver (.ok (header, payload))) with
        deliveries := world.deliveries ++ [⟨call, .ok (header, payload), some world.turns⟩] }
  | .notified notification =>
      { world with notifications := world.notifications ++ [notification] }

/-- A turn of the reader. -/
def turn (world : World) (socketEnd : Option IoErrorKind) : Option World :=
  if world.reader = .running then
    match readerTurn world.source world.pending world.receiving socketEnd world.incoming with
    | .blocked => none
    | .continued rest pending effect =>
        some { world.apply effect with incoming := rest, pending, turns := world.turns + 1 }
    | .returned error pending => some { world with reader := .returned error, pending }
    | .panicked => some { world with reader := .panicked }
  else none

/-- The reader shuts the socket down, in both directions. -/
def shutdown (world : World) : Option World :=
  match world.reader with
  | .returned error => some { world with reader := .shutDown error, socketOpen := false }
  | _ => none

/-- The calls in the pending map that still hold their receiver. -/
def waiters (world : World) : List CallId :=
  (world.pending.entries.map Sigma.snd).filter world.receiving

/-- The reader takes every sender off the pending map and sends it the error. -/
def drain (world : World) : Option World :=
  match world.reader with
  | .shutDown error =>
      some { world with
        reader := .drained error
        calls := world.calls.mapIdx fun call state =>
          if call ∈ world.waiters then state.deliver (.error error) else state
        pending := ∅
        deliveries := world.deliveries ++
          world.waiters.map fun call => ⟨call, .error error, none⟩ }
  | _ => none

/-- One step of the client. -/
def step (world : World) : Label → Option World
  | .start request => some (world.start request)
  | .insert call => world.insert call
  | .write call failure => world.write call failure
  | .receive call => world.receive call
  | .timeout call => world.timeout call
  | .discard call => world.discard call
  | .arrive bytes => some { world with incoming := world.incoming ++ bytes }
  | .turn socketEnd => world.turn socketEnd
  | .shutdown => world.shutdown
  | .drain => world.drain

end World

end Ads.Client
