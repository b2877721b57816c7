import Lcm.Crc
import Lcm.Heap
import Lcm.Run.Basic
import Mathlib.Data.List.FinRange

/-!
# The JSON transmit queues

`SendJSONPacket` puts a JSON string into a free slot of `JSONTransmitMessage`, marks the sockets
it is for in the slot's `socketBitmask` and sends the index of the slot to the queue of every
socket that is to transmit it.  `JSONTransmit_Task`, one task for each socket, takes an index from
its queue, hands the string of the slot to the socket and clears its bit; who clears the last bit
frees the string.  `ShutdownSocket` clears the bits of a socket that is closed.

`SendJSONPacket` runs under `JSONTransmitMutex` and `ShutdownSocket` does not wait, so each is one
step.  `JSONTransmit_Task` is split where it waits: for a message, in `Socket_send`, in
`_time_delay` before it tries again, and for the mutex.

The model numbers strings and connections in the order in which they appear, and remembers for
each string what its slot said when it was built, which the code does not do.

## Main definitions

* `JsonState` : the sockets, the slots, the queues and the tasks.
* `shutdownSocket`, `addToTransmitSocketQueue`, `sendJSONPacket` : the functions of the source.
* `receiveMessage`, `sendReturns`, `delayExpires`, `resendReturns`, `finishMessage` : the parts of
  `JSONTransmit_Task`.
* `jsonTransmit` : all of it as a machine.
-/

namespace Lcm

namespace Json

/-- `MAX_NUMBER_OF_INCOMING_JSON_CONNECTIONS` -/
abbrev maxNumberOfIncomingJsonConnections : ℕ := 7

/-- `NUMBER_OF_JSON_TRANSMIT_MESSAGES_IN_QUEUE` -/
abbrev numberOfJsonTransmitMessagesInQueue : ℕ := 11

/-- An index of `jsonSockets`. -/
abbrev SocketIndex := Fin maxNumberOfIncomingJsonConnections

/-- An index of `JSONTransmitMessage`. -/
abbrev SlotIndex :=
  Fin (maxNumberOfIncomingJsonConnections * numberOfJsonTransmitMessagesInQueue)

/-- `JSA_MASK_JSON_ENABLED` -/
def jsaMaskJsonEnabled : Byte := 0x80

/-- `JSA_MASK_JSON_LIMITED` -/
def jsaMaskJsonLimited : Byte := 0x40

/-- `JSA_STATE_START` -/
def jsaStateStart : Byte := 0x01

/-- `JSA_STATE_AUTH_DEFEATED` -/
def jsaStateAuthDefeated : Byte := 0x06 ||| jsaMaskJsonEnabled

/-- `JSA_STATE_AUTH_VALID` -/
def jsaStateAuthValid : Byte := 0x07 ||| jsaMaskJsonEnabled

/-! ### The state -/

/-- An entry of `jsonSockets`, with its `jsonSocketTimer`. -/
structure JsonSocket where
  /-- The connection, numbered from one in the order of the accepts, or zero when closed. -/
  JSONSocketConnection : ℕ
  /-- `httpSocket` -/
  httpSocket : Bool
  /-- `WatchSocket` -/
  WatchSocket : Bool
  /-- `jsa_state` -/
  jsaState : Byte
  /-- Whether `jsonReceiveMessage` is allocated. -/
  jsonReceiveMessage : Bool
  /-- `jsonSocketTimer` of the socket. -/
  jsonSocketTimer : Word

/-- An entry of `JSONTransmitMessage`. -/
structure TransmitMessage where
  /-- The string, or `none` for the null pointer. -/
  messageStringPtr : Option ℕ
  /-- The sockets that have not yet transmitted it. -/
  socketBitmask : Dword
  /-- The length of the string with its terminator. -/
  messageLength : Word

/-- Where the transmit task of a socket is. -/
inductive TransmitTask
  /-- It waits for a message. -/
  | receiving
  /-- It is in `Socket_send` for the message in slot `m`, on the given connection, with the given
  string in `httpStr`. -/
  | sending (m : SlotIndex) (string : Option ℕ) (connection : ℕ)
  /-- It waits to send the rest after `result` bytes. -/
  | delaying (m : SlotIndex) (result : ℕ) (string : Option ℕ) (connection : ℕ)
  /-- It is in the second `Socket_send`, after `result` bytes. -/
  | resending (m : SlotIndex) (result : ℕ)
  /-- It is about to clear its bit. -/
  | clearing (m : SlotIndex)

/-- What the slot of a string said when the string was put into it. -/
structure Build where
  /-- The bitmask of the slot. -/
  socketBitmask : Dword
  /-- The connections of the sockets. -/
  connection : SocketIndex → ℕ

/-- A call of `Socket_send`. -/
structure Send where
  /-- The socket. -/
  socketIndex : SocketIndex
  /-- The connection it is handed to; zero when the socket is closed. -/
  connection : ℕ
  /-- The string in the buffer. -/
  string : Option ℕ

/-- The state of the JSON transmission. -/
structure JsonState where
  /-- `jsonSockets` -/
  jsonSockets : SocketIndex → JsonSocket
  /-- `JSONTransmitMessage` -/
  JSONTransmitMessage : SlotIndex → TransmitMessage
  /-- `currentMessageIndex` -/
  currentMessageIndex : SlotIndex
  /-- The message queues of the transmit tasks. -/
  queue : SocketIndex → List SlotIndex
  /-- The transmit tasks. -/
  task : SocketIndex → TransmitTask
  /-- The string in the buffer `httpStr`, which all transmit tasks share. -/
  httpStr : Option ℕ
  /-- `globalCount` -/
  globalCount : Word
  /-- `manufacturingTestModeFlag` -/
  manufacturingTestModeFlag : Bool
  /-- The strings that `json_dumps` allocated. -/
  heap : Heap
  /-- The number of connections accepted so far. -/
  connections : ℕ
  /-- What the slot of a string said when the string was built. -/
  builds : ℕ → Build
  /-- The calls of `Socket_send` so far, the last one first. -/
  sends : List Send
  /-- Some string was read that is not live. -/
  deadRead : Bool

/-- `0x00000001 << socketIndex` -/
def socketBit (s : SocketIndex) : Dword := 1#32 <<< s.val

/-- The state after the initialisation. -/
def JsonState.start : JsonState where
  jsonSockets _ := ⟨0, false, false, 0, false, 0⟩
  JSONTransmitMessage _ := ⟨none, 0, 0⟩
  currentMessageIndex := 0
  queue _ := []
  task _ := .receiving
  httpStr := none
  globalCount := 0
  manufacturingTestModeFlag := false
  heap := ⟨0, fun _ => 0⟩
  connections := 0
  builds _ := ⟨0, fun _ => 0⟩
  sends := []
  deadRead := false

/-- Replace one socket. -/
def JsonState.setSocket (st : JsonState) (s : SocketIndex) (socket : JsonSocket) : JsonState :=
  { st with jsonSockets := Function.update st.jsonSockets s socket }

/-- Replace one slot. -/
def JsonState.setSlot (st : JsonState) (m : SlotIndex) (message : TransmitMessage) : JsonState :=
  { st with JSONTransmitMessage := Function.update st.JSONTransmitMessage m message }

/-- `jsonp_free(string); globalCount--;` -/
def JsonState.freeString (st : JsonState) (string : ℕ) : JsonState :=
  { st with heap := st.heap.free string, globalCount := st.globalCount - 1 }

/-! ### Closing a socket -/

/-- Clear the bit of a socket in a slot and free the string if it was the last bit. -/
def clearSocketBit (st : JsonState) (s : SocketIndex) (m : SlotIndex) : JsonState :=
  let message := st.JSONTransmitMessage m
  let mask := message.socketBitmask &&& ~~~socketBit s
  if mask = 0 then
    match message.messageStringPtr with
    | some string =>
      (st.setSlot m { message with socketBitmask := mask, messageStringPtr := none }).freeString
        string
    | none => st.setSlot m { message with socketBitmask := mask }
  else st.setSlot m { message with socketBitmask := mask }

/-- The body of the loop of `ShutdownSocket`. -/
def shutdownSlot (s : SocketIndex) (st : JsonState) (m : SlotIndex) : JsonState :=
  if (st.JSONTransmitMessage m).socketBitmask &&& socketBit s ≠ 0 then clearSocketBit st s m
  else st

/-- The receive buffer of a socket is freed, and with it what was received about the socket. -/
def freeReceiveMessage (socket : JsonSocket) : JsonSocket :=
  if socket.jsonReceiveMessage then
    { socket with jsonReceiveMessage := false, httpSocket := false, WatchSocket := false }
  else socket

/-- `ShutdownSocket` -/
def shutdownSocket (st : JsonState) (s : SocketIndex) : JsonState :=
  let socket := freeReceiveMessage (st.jsonSockets s)
  let st := (List.finRange _).foldl (shutdownSlot s) (st.setSocket s socket)
  st.setSocket s { socket with JSONSocketConnection := 0 }

/-! ### Sending a packet -/

/-- The loop of `GetNextCurrentMessageSlot` from `i` on: the first free slot, or `start` again. -/
def searchSlot (st : JsonState) (start : SlotIndex) : (fuel : ℕ) → SlotIndex → SlotIndex
  | 0, i => i
  | fuel + 1, i =>
    if (st.JSONTransmitMessage i).socketBitmask ≠ 0 ∧ start ≠ i then searchSlot st start fuel (i + 1)
    else i

/-- `GetNextCurrentMessageSlot`: the state, and whether `currentMessageIndex` is a free slot. -/
def getNextCurrentMessageSlot (st : JsonState) : JsonState × Bool :=
  let localMessageIndex := st.currentMessageIndex
  if (st.JSONTransmitMessage localMessageIndex).socketBitmask ≠ 0 then
    let i := searchSlot st localMessageIndex
      (maxNumberOfIncomingJsonConnections * numberOfJsonTransmitMessagesInQueue)
      (localMessageIndex + 1)
    ({ st with currentMessageIndex := i }, localMessageIndex ≠ i)
  else (st, true)

/-- `BuildMessagePacket` -/
def buildMessagePacket (st : JsonState) (string : ℕ) (messageLength : Word)
    (socketBitmask : Dword) : JsonState :=
  { st.setSlot st.currentMessageIndex ⟨some string, socketBitmask, messageLength⟩ with
    builds := Function.update st.builds string
      ⟨socketBitmask, fun s => (st.jsonSockets s).JSONSocketConnection⟩ }

/-- The time since the last successful transmission is over the limit. -/
def timedOut (st : JsonState) (s : SocketIndex) : Bool :=
  (st.jsonSockets s).jsonSocketTimer > 10000

/-- `AddToTransmitSocketQueue`: the state, and whether the index could not be sent. -/
def addToTransmitSocketQueue (sendFails : SocketIndex → Bool) (st : JsonState) (s : SocketIndex) :
    JsonState × Bool :=
  let st := if timedOut st s then shutdownSocket st s else st
  if sendFails s then (st, true)
  else
    ({ st with queue := Function.update st.queue s (st.queue s ++ [st.currentMessageIndex]) }, false)

/-- The socket is active and authorized. -/
def Authorized (socket : JsonSocket) : Prop :=
  socket.JSONSocketConnection ≠ 0 ∧
    (socket.jsaState = jsaStateAuthDefeated ∨ socket.jsaState = jsaStateAuthValid)

instance : DecidablePred Authorized := fun _ => inferInstanceAs (Decidable (_ ∧ _))

/-- The socket is to get broadcasts: active, authorized, and neither http nor a watch. -/
def Addressed (socket : JsonSocket) : Prop :=
  Authorized socket ∧ socket.httpSocket = false ∧ socket.WatchSocket = false

instance : DecidablePred Addressed := fun _ => inferInstanceAs (Decidable (_ ∧ _))

/-- Give up the current slot: clear it and free the string. -/
def dropMessage (st : JsonState) (string : ℕ) : JsonState :=
  (st.setSlot st.currentMessageIndex
    { st.JSONTransmitMessage st.currentMessageIndex with
      socketBitmask := 0, messageStringPtr := none }).freeString string

/-- The part of `SendJSONPacket` for one socket, with a slot found. -/
def sendToSocket (sendFails : SocketIndex → Bool) (st : JsonState) (string : ℕ)
    (messageLength : Word) (s : SocketIndex) : JsonState :=
  if Authorized (st.jsonSockets s) then
    let st := buildMessagePacket st string messageLength (socketBit s)
    let (st, errorFlag) := addToTransmitSocketQueue sendFails st s
    if errorFlag then dropMessage st string else st
  else st.freeString string

/-- The bitmask of a broadcast. -/
def broadcastBitmask (st : JsonState) : Dword :=
  (List.finRange _).foldl
    (fun mask s => if Addressed (st.jsonSockets s) then mask ||| socketBit s else mask) 0

/-- Broadcasts are not queued for the socket: it is limited or a watch, outside manufacturing
test mode. -/
def Suppressed (st : JsonState) (s : SocketIndex) : Prop :=
  ((st.jsonSockets s).jsaState &&& jsaMaskJsonLimited ≠ 0 ∨ (st.jsonSockets s).WatchSocket) ∧
    ¬ st.manufacturingTestModeFlag

instance (st : JsonState) : DecidablePred (Suppressed st) := fun _ =>
  inferInstanceAs (Decidable (_ ∧ _))

/-- The body of the loop of `SendJSONPacket` that queues a broadcast. -/
def queueBroadcast (sendFails : SocketIndex → Bool) (st : JsonState) (s : SocketIndex) :
    JsonState :=
  if (st.jsonSockets s).JSONSocketConnection ≠ 0 ∧ ¬ Suppressed st s then
    let (st, errorFlag) := addToTransmitSocketQueue sendFails st s
    if errorFlag then
      let message := st.JSONTransmitMessage st.currentMessageIndex
      st.setSlot st.currentMessageIndex
        { message with socketBitmask := message.socketBitmask &&& ~~~socketBit s }
    else st
  else st

/-- The part of `SendJSONPacket` for a broadcast, with a slot found. -/
def sendToAll (sendFails : SocketIndex → Bool) (st : JsonState) (string : ℕ)
    (messageLength : Word) : JsonState :=
  let socketBitmask := broadcastBitmask st
  if socketBitmask ≠ 0 then
    let st := buildMessagePacket st string messageLength socketBitmask
    let st := (List.finRange _).foldl (queueBroadcast sendFails) st
    if (st.JSONTransmitMessage st.currentMessageIndex).socketBitmask = 0 then
      dropMessage st string
    else st
  else st.freeString string

/-- `SendJSONPacket`, once `json_dumps` has allocated the string. -/
def sendJSONPacket (sendFails : SocketIndex → Bool) (st : JsonState) (messageLength : Word)
    (socketIndex : Byte) : JsonState :=
  let string := st.heap.next
  let st := { st with heap := st.heap.alloc, globalCount := st.globalCount + 1 }
  let (st, foundSlotFlag) := getNextCurrentMessageSlot st
  if foundSlotFlag then
    if h : socketIndex.toNat < maxNumberOfIncomingJsonConnections then
      sendToSocket sendFails st string messageLength ⟨socketIndex.toNat, h⟩
    else sendToAll sendFails st string messageLength
  else st.freeString string

/-! ### The transmit task -/

/-- Move the task of a socket. -/
def JsonState.setTask (st : JsonState) (s : SocketIndex) (task : TransmitTask) : JsonState :=
  { st with task := Function.update st.task s task }

/-- The transmission ended after `result` bytes: a success clears the timer, and makes an http
socket a regular one. -/
def endTransmission (st : JsonState) (s : SocketIndex) (m : SlotIndex) (result : ℕ) : JsonState :=
  let st :=
    if result = (st.JSONTransmitMessage m).messageLength.toNat then
      let socket := { st.jsonSockets s with jsonSocketTimer := 0 }
      st.setSocket s
        (if socket.httpSocket then { socket with httpSocket := false, WatchSocket := false }
          else socket)
    else st
  st.setTask s (.clearing m)

/-- Hand `httpStr` to the connection of the socket. -/
def JsonState.socketSend (st : JsonState) (s : SocketIndex) : JsonState :=
  { st with sends := ⟨s, (st.jsonSockets s).JSONSocketConnection, st.httpStr⟩ :: st.sends }

/-- Print the string of a slot into `httpStr`, with the http header if the socket is http. -/
def formatMessage (st : JsonState) (s : SocketIndex) (m : SlotIndex) : JsonState :=
  let message := st.JSONTransmitMessage m
  let st :=
    { st with
      httpStr := message.messageStringPtr
      deadRead := st.deadRead || message.messageStringPtr.any fun x => ¬ st.heap.Live x }
  if (st.jsonSockets s).httpSocket then
    st.setSlot m { message with messageLength := message.messageLength + 92 }
  else st

/-- The task has taken slot `m` from its queue, and runs until it calls `Socket_send` or is done
with the transmission. -/
def startTransmission (st : JsonState) (s : SocketIndex) (m : SlotIndex) : JsonState :=
  if (st.jsonSockets s).JSONSocketConnection ≠ 0 then
    let st := formatMessage st s m
    if (st.jsonSockets s).jsaState &&& jsaMaskJsonEnabled ≠ 0 then
      (st.socketSend s).setTask s
        (.sending m st.httpStr (st.jsonSockets s).JSONSocketConnection)
    else endTransmission st s m (st.JSONTransmitMessage m).messageLength.toNat
  else st.setTask s (.clearing m)

/-- The task receives the next message of its queue. -/
def receiveMessage (st : JsonState) (s : SocketIndex) : Option JsonState :=
  match st.task s, st.queue s with
  | .receiving, m :: rest =>
    some (startTransmission { st with queue := Function.update st.queue s rest } s m)
  | _, _ => none

/-- The first `Socket_send` returns. -/
def sendReturns (st : JsonState) (s : SocketIndex) (result : ℤ) : Option JsonState :=
  match st.task s with
  | .sending m string connection =>
    if result.toNat < (st.JSONTransmitMessage m).messageLength.toNat then
      some (st.setTask s (.delaying m result.toNat string connection))
    else some (endTransmission st s m result.toNat)
  | _ => none

/-- The delay is over, and the task sends the rest of `httpStr`. -/
def delayExpires (st : JsonState) (s : SocketIndex) : Option JsonState :=
  match st.task s with
  | .delaying m result _ _ => some ((st.socketSend s).setTask s (.resending m result))
  | _ => none

/-- The second `Socket_send` returns. -/
def resendReturns (st : JsonState) (s : SocketIndex) (retryResult : ℤ) : Option JsonState :=
  match st.task s with
  | .resending m result => some (endTransmission st s m (result + retryResult.toNat))
  | _ => none

/-- The task has the mutex, clears its bit and waits for the next message. -/
def finishMessage (st : JsonState) (s : SocketIndex) : Option JsonState :=
  match st.task s with
  | .clearing m =>
    let st := if (st.JSONTransmitMessage m).socketBitmask ≠ 0 then clearSocketBit st s m else st
    some (st.setTask s .receiving)
  | _ => none

/-! ### The machine -/

/-- `JSONAccept_Task` accepts a connection on the first closed socket, if there is one. -/
def acceptConnection (st : JsonState) (watch : Bool) : JsonState :=
  match (List.finRange _).find? fun s => (st.jsonSockets s).JSONSocketConnection = 0 with
  | some s =>
    let socket :=
      { st.jsonSockets s with
        jsonSocketTimer := 0, jsaState := jsaStateStart, JSONSocketConnection := st.connections + 1 }
    { st.setSocket s
        (if watch then { socket with WatchSocket := true }
          else { socket with WatchSocket := false, httpSocket := false }) with
      connections := st.connections + 1 }
  | none => st

/-- What can happen. -/
inductive Event
  /-- A task calls `SendJSONPacket`; `sendFails` says for which sockets no message can be
  allocated or sent. -/
  | sendJSONPacket (sendFails : SocketIndex → Bool) (messageLength : Word) (socketIndex : Byte)
  /-- A transmit task receives a message. -/
  | receiveMessage (s : SocketIndex)
  /-- Its `Socket_send` returns. -/
  | sendReturns (s : SocketIndex) (result : ℤ)
  /-- Its delay is over. -/
  | delayExpires (s : SocketIndex)
  /-- Its second `Socket_send` returns. -/
  | resendReturns (s : SocketIndex) (retryResult : ℤ)
  /-- It clears its bit. -/
  | finishMessage (s : SocketIndex)
  /-- A task calls `ShutdownSocket`. -/
  | shutdownSocket (s : SocketIndex)
  /-- A connection arrives, on the watch port or the other one. -/
  | accept (watch : Bool)
  /-- The authentication state of a socket changes. -/
  | setJsaState (s : SocketIndex) (jsaState : Byte)
  /-- The receiving task finds http on a socket, or allocates or frees its receive buffer. -/
  | setReceive (s : SocketIndex) (httpSocket jsonReceiveMessage : Bool)
  /-- The timers of the open sockets advance. -/
  | tick (tickCount : Word)
  /-- Manufacturing test mode is switched. -/
  | setManufacturingTestMode (flag : Bool)

/-- One step. -/
def jsonStep (st : JsonState) : Event → Option JsonState
  | .sendJSONPacket sendFails messageLength socketIndex =>
    some (sendJSONPacket sendFails st messageLength socketIndex)
  | .receiveMessage s => receiveMessage st s
  | .sendReturns s result => sendReturns st s result
  | .delayExpires s => delayExpires st s
  | .resendReturns s retryResult => resendReturns st s retryResult
  | .finishMessage s => finishMessage st s
  | .shutdownSocket s => some (shutdownSocket st s)
  | .accept watch => some (acceptConnection st watch)
  | .setJsaState s jsaState =>
    some (st.setSocket s { st.jsonSockets s with jsaState := jsaState })
  | .setReceive s httpSocket jsonReceiveMessage =>
    some (st.setSocket s
      { st.jsonSockets s with
        httpSocket := httpSocket, jsonReceiveMessage := jsonReceiveMessage })
  | .tick tickCount =>
    some { st with
      jsonSockets := fun s =>
        let socket := st.jsonSockets s
        if socket.JSONSocketConnection ≠ 0 then
          { socket with jsonSocketTimer := socket.jsonSocketTimer + tickCount }
        else socket }
  | .setManufacturingTestMode flag => some { st with manufacturingTestModeFlag := flag }

/-- The JSON transmission from the initialisation on. -/
def jsonTransmit : Machine JsonState Event where
  init st := st = JsonState.start
  step := jsonStep

end Json

end Lcm
