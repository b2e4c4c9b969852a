import StoryServer.Server

/-!
# Channels

A channel is a stream of events that a client keeps open.  The first event of a stream
names the address for messages, and every response to a message that was sent for the
channel is an event after it, in order.  A channel that was closed is found no more.  It may
have been closed while a message for it was processed: the response is put into it all the
same, and the client does not read it.

The stream closes its channel when it ends, and what is done at its end is part of it: a
stream of which no event was ever taken ends without it, and its channel is found for ever
(`Hub.endStream`).

A `Hub` is a server together with its channels.
-/

namespace StoryServer

/-- An event of a channel. -/
inductive ChannelEvent where
  /-- The address for messages, of the channel with an id. -/
  | endpoint (id : String)
  | message (response : Json)
  deriving DecidableEq, Repr

namespace ChannelEvent

/-- The name of an event. -/
def name : ChannelEvent → String
  | .endpoint _ => "endpoint"
  | .message _ => "message"

/-- The data of an event, which are one line. -/
def data : ChannelEvent → Except Fault String
  | .endpoint id => .ok s!"/message?sessionId={id}"
  | .message response => writeJson .spaced response

/-- An event as it is sent. -/
def frame (e : ChannelEvent) : Except Fault String := do
  return s!"event: {e.name}\r\ndata: " ++ (← e.data) ++ "\r\n\r\n"

end ChannelEvent

/-- How far a stream is. -/
inductive StreamState where
  /-- No event was taken of it. -/
  | fresh
  | begun
  | ended
  deriving DecidableEq, Repr

/-- A stream that was asked for an event. -/
def StreamState.asked : StreamState → StreamState
  | .fresh => .begun
  | state => state

/-- A channel. -/
structure Channel where
  id : String
  isOpen : Bool := true
  /-- The events that were not read, oldest first. -/
  pending : List ChannelEvent := []
  stream : StreamState := .fresh
  deriving DecidableEq, Repr

/-- A server and its channels. -/
structure Hub (ε : Type) where
  server : Server ε
  /-- All channels that were opened, oldest first; no two have the same id. -/
  channels : List Channel := []
  ids : IdSupply

namespace Hub

variable {ε α : Type}

/-- An action on the server. -/
def onServer (act : Act (Server ε) α) : Act (Hub ε) α :=
  act.within Hub.server fun h server => { h with server }

/-- The channel with an id, if it is open. -/
def openChannel? (h : Hub ε) (id : String) : Option Channel :=
  h.channels.find? fun c => c.id == id && c.isOpen

/-- How many channels are open. -/
def openCount (h : Hub ε) : Nat := (h.channels.filter (·.isOpen)).length

/-- The channel with an id changed. -/
def update (id : String) (change : Channel → Channel) : Act (Hub ε) Unit :=
  modify fun h => { h with
    channels := h.channels.map fun c => if c.id == id then change c else c }

/-- How much of an id the log shows. -/
def shownLength : Nat := 8

/-- Notes what became of a channel. -/
def note (id what : String) : Act (Hub ε) Unit :=
  onServer (Server.note ("[inky] SSE channel " ++ Text.first shownLength id ++ " " ++ what))

def openChannel : Act (Hub ε) String := do
  let h ← get
  let (id, ids) := h.ids.next
  let channel : Channel := { id }
  set { h with channels := h.channels ++ [channel], ids }
  note id "opened"
  return id

/-- An event added to a channel. -/
def push (id : String) (event : ChannelEvent) : Act (Hub ε) Unit :=
  update id fun c => { c with pending := c.pending ++ [event] }

/-- Opens a channel as a stream. -/
def openStream : Act (Hub ε) String := do
  let id ← openChannel
  push id (.endpoint id)
  return id

/-- Closes a channel, and tells whether it was open. -/
def closeChannel (id : String) : Act (Hub ε) Bool := do
  let found := ((← get).openChannel? id).isSome
  update id fun c => { c with isOpen := false }
  if found then note id "closed"
  return found

/-! ## Streams -/

/-- The channel with an id, if its stream did not end. -/
def streamed? (h : Hub ε) (id : String) : Option Channel :=
  h.channels.find? fun c => c.id == id && c.stream != .ended

/-- Takes the next event of a stream, if there is one. -/
def readEvent (id : String) : Act (Hub ε) (Option ChannelEvent) := do
  match (← get).streamed? id with
  | none => return none
  | some c =>
    update id fun c => { c with pending := c.pending.tail, stream := .begun }
    return c.pending.head?

/-- Ends a stream, and tells whether there was one to end.  Only a stream that has begun
closes its channel. -/
def endStream (id : String) : Act (Hub ε) Bool := do
  match (← get).streamed? id with
  | none => return false
  | some c =>
    if c.stream == .begun then let _ ← closeChannel id
    update id fun c => { c with stream := .ended }
    return true

/-- Takes all events of a channel that were not read. -/
def takeEvents (id : String) : Act (Hub ε) (List ChannelEvent) := do
  let events := (((← get).channels.find? (·.id == id)).map (·.pending)).getD []
  update id fun c =>
    if c.pending.isEmpty then c else { c with pending := [], stream := c.stream.asked }
  return events

end Hub

end StoryServer
