import InterClusterFabric.CoreTime
import InterClusterFabric.LibraryLifecycle
import InterClusterFabric.LibraryOrdMap
import InterClusterFabric.NetOutbound

/-! The event loop. It owns the connections, the timers and the listeners, and calls their handlers. A handler may do
with the loop and its connections what it likes, except to run the loop from within; a connection that is closed stays
until the next sweep, which reports it and erases it. -/
namespace InterClusterFabric.NetEventLoop
open CoreStatus CoreBytes CoreTime LibraryLifecycle LibraryOrdMap WireFrame NetOutbound
open NetReactor (Socket fill maxFramesPerIteration)

def kMaxConnections : ℕ := 512
def maxAcceptBurst : ℕ := 64
def maxListeners : ℕ := 4

abbrev SocketHandle := Int64

def invalidSocket : SocketHandle := -1

/-- A connection that the loop owns: its sending side, which also holds the reason for which it was closed, its parser,
and whether it was given handlers. The serial number tells it from every other one, also from one with the same id. -/
structure Connection where
  id : UInt64
  handle : SocketHandle
  outbound : Outbound
  parser : FrameParser
  answers : Bool
  watched : Bool
  idleDeadline : Duration
  lastActivity : Timestamp
  closeReported : Bool := false
  serial : ℕ

namespace Connection

def isClosed (connection : Connection) : Bool := connection.outbound.closed.isSome

def hasOutput (connection : Connection) : Bool := 0 < connection.outbound.queuedBytes

/-- A method of the connection is called. -/
def perform (connection : Connection) (event : Event) : Connection :=
  { connection with outbound := (Trace.step ⟨connection.outbound, []⟩ event).connection }

/-- Every call of `close` is entered in the journal. -/
def entry (connection : Connection) : Event → Option (Entry ℕ Status)
  | .close reason => some (.closed connection.serial reason)
  | _ => none

/-- Closing shuts the socket, which cannot be read from then on. -/
def reading (connection : Connection) (socket : Socket) : Socket :=
  if connection.isClosed then ⟨[], .failed (Status.invalid "receive on a closed socket")⟩ else socket

end Connection

structure Listener where
  handle : SocketHandle
  answers : Bool

def Listener.valid (listener : Listener) : Bool := listener.handle ≠ invalidSocket

/-- What `adopt` is called with. -/
structure Offer where
  handle : SocketHandle
  config : Config
  idleDeadline : Duration := ⟨15000000000⟩
  answers : Bool
  watched : Bool

/-- What a handler can do. Its own connection is one of those that it finds by their ids. -/
inductive Action
  | addListener (listener : Listener)
  | adopt (offer : Offer)
  | perform (id : UInt64) (event : Event)
  | fill (id : UInt64) (socket : Socket)
  | schedule (deadline : Timestamp)
  | cancel (timerId : UInt64)
  | setMaxConnections (limit : ℕ)
  | stop

/-- What a handler is called for. -/
inductive Occasion
  | timer (timerId : UInt64)
  | accepted (handle : SocketHandle)
  | frame (id : UInt64) (frame : Frame)
  | closed (id : UInt64) (reason : Status)

structure Reaction where
  actions : List Action
  verdict : Result Unit

structure PollItem where
  handle : SocketHandle
  wantRead : Bool := true
  wantWrite : Bool := false
  readable : Bool := false
  writable : Bool := false
  failed : Bool := false

def PollItem.ready (item : PollItem) : Bool := item.readable || item.writable || item.failed

/-- The flags of the item at each place, where the call does not end in an error. -/
inductive Polled
  | interrupted
  | failed (status : Status)
  | answered (flags : ℕ → Bool × Bool × Bool)

/-- What the surroundings answer at one moment: the clock, the handler that is called, the sockets and the kernel. -/
structure Moment where
  now : Timestamp
  reaction : Occasion → Reaction
  socket : Socket
  replies : List Reply
  accepted : Result SocketHandle
  polled : List PollItem → ℤ → Polled

def pollSockets (items : List PollItem) (timeout : ℤ) (polled : List PollItem → ℤ → Polled) :
    Result (List PollItem × ℕ) :=
  if kMaxConnections + 4 < items.length then
    .error (Status.invalid "poll set exceeds the maximum number of connections")
  else if items = [] then .ok ([], 0)
  else
    match polled items timeout with
    | .interrupted => .ok (items, 0)
    | .failed status => .error status
    | .answered flags =>
      let marked := items.mapIdx fun place item =>
        { item with readable := (flags place).1, writable := (flags place).2.1, failed := (flags place).2.2 }
      .ok (marked, marked.countP PollItem.ready)

/-- The loop, with the answers that are still to come from its surroundings, the number of connections that it has
taken in so far, and a journal of them: when each was taken in, called on to close, reported and erased. -/
structure EventLoop where
  moments : ℕ → Moment
  drawn : ℕ := 0
  listeners : List Listener := []
  connections : OrdMap UInt64 Connection := ∅
  pendingErase : List UInt64 := []
  timers : List (Int64 × UInt64) := []
  nextConnectionId : UInt64 := 1
  nextTimerId : UInt64 := 1
  maxConnections : ℕ := kMaxConnections
  running : Bool := false
  iterations : UInt64 := 0
  adoptions : ℕ := 0
  journal : List (Entry ℕ Status) := []

/-- `timers_.emplace`: the timers are in the order of their deadlines and ids. -/
def emplaceTimer (timer : Int64 × UInt64) : List (Int64 × UInt64) → List (Int64 × UInt64)
  | [] => [timer]
  | first :: rest =>
    if timer = first then first :: rest
    else if timer.1 < first.1 ∨ timer.1 = first.1 ∧ timer.2 < first.2 then timer :: first :: rest
    else first :: emplaceTimer timer rest

/-- The loop of `compute_timeout`; there is no delay if a timer is due. -/
def soonest (now : Int64) : Int64 → List (Int64 × UInt64) → Option Int64
  | best, [] => some best
  | best, timer :: timers =>
    let delta := timer.1 - now
    if delta ≤ 0 then none
    else soonest now (if best < 0 ∨ delta < best then delta else best) timers

namespace EventLoop

def moment (loop : EventLoop) : Moment := loop.moments loop.drawn

def pass (loop : EventLoop) : EventLoop := { loop with drawn := loop.drawn + 1 }

def find (loop : EventLoop) (id : UInt64) : Option Connection := loop.connections[id]?

/-- A connection is changed in place. -/
def put (loop : EventLoop) (id : UInt64) (connection : Connection) (entry : Option (Entry ℕ Status)) : EventLoop :=
  { loop with connections := loop.connections.insert id connection, journal := loop.journal ++ entry.toList }

def perform (loop : EventLoop) (id : UInt64) (event : Event) : EventLoop :=
  match loop.find id with
  | none => loop
  | some connection => loop.put id (connection.perform event) (connection.entry event)

def addListener (loop : EventLoop) (listener : Listener) : Result Unit × EventLoop :=
  if listener.valid = false then (.error (Status.invalid "listener is not bound"), loop)
  else if maxListeners ≤ loop.listeners.length then
    (.error (Status.make .capacityExceeded (ascii "too many listeners registered")), loop)
  else (.ok (), { loop with listeners := loop.listeners ++ [listener] })

/-- `connections_.emplace`; an id that is in use keeps its connection. -/
def emplace (loop : EventLoop) (id : UInt64) (connection : Connection) : EventLoop :=
  if id ∈ loop.connections then loop
  else
    { loop with
      connections := loop.connections.insert id connection
      adoptions := loop.adoptions + 1
      journal := loop.journal ++ [.opened connection.serial connection.watched] }

def adopt (loop : EventLoop) (offer : Offer) : Result UInt64 × EventLoop :=
  if offer.handle = invalidSocket then
    (.error (Status.invalid "cannot adopt an invalid socket"), loop)
  else if loop.maxConnections ≤ loop.connections.size then
    (.error (Status.make .capacityExceeded (ascii "connection limit reached")), loop)
  else
    let id := loop.nextConnectionId
    let connection : Connection :=
      { id, handle := offer.handle, outbound := { config := offer.config },
        parser := FrameParser.make offer.config.maxPayload.toNat, answers := offer.answers, watched := offer.watched,
        idleDeadline := offer.idleDeadline, lastActivity := loop.moment.now, serial := loop.adoptions }
    (.ok id, { loop.pass with nextConnectionId := id + 1 }.emplace id connection)

def fillConnection (loop : EventLoop) (id : UInt64) (socket : Socket) : Result Unit × EventLoop :=
  match loop.find id with
  | none => (.ok (), loop)
  | some connection =>
    let filled := fill connection.parser (connection.reading socket)
    (filled.1, loop.put id { connection with parser := filled.2 } none)

def schedule (loop : EventLoop) (deadline : Timestamp) : UInt64 × EventLoop :=
  let id := loop.nextTimerId
  (id, { loop with nextTimerId := id + 1, timers := emplaceTimer (deadline.unixNanos, id) loop.timers })

def cancel (loop : EventLoop) (timerId : UInt64) : EventLoop :=
  { loop with timers := loop.timers.filter fun timer => timer.2 ≠ timerId }

def act (loop : EventLoop) : Action → EventLoop
  | .addListener listener => (loop.addListener listener).2
  | .adopt offer => (loop.adopt offer).2
  | .perform id event => loop.perform id event
  | .fill id socket => (loop.fillConnection id socket).2
  | .schedule deadline => (loop.schedule deadline).2
  | .cancel timerId => loop.cancel timerId
  | .setMaxConnections limit => { loop with maxConnections := limit }
  | .stop => { loop with running := false }

/-- A handler is called. -/
def call (loop : EventLoop) (occasion : Occasion) : Result Unit × EventLoop :=
  let reaction := loop.moment.reaction occasion
  (reaction.verdict, reaction.actions.foldl act loop.pass)

/-! Timers. -/

/-- In milliseconds; with a negative timeout the poll waits until something happens. -/
def computeTimeout (loop : EventLoop) : ℤ :=
  match soonest loop.moment.now.unixNanos (if loop.connections.isEmpty then -1 else 1000000000) loop.timers with
  | none => 0
  | some best =>
    if best < 0 then -1
    else
      let millis := (best / 1000000).toInt
      if millis = 0 then 1 else min millis 1000

def fireDueTimers (loop : EventLoop) : EventLoop :=
  let isDue (timer : Int64 × UInt64) : Bool := timer.1 ≤ loop.moment.now.unixNanos
  (loop.timers.takeWhile isDue).foldl (fun loop timer => (loop.call (.timer timer.2)).2)
    { loop.pass with timers := loop.timers.dropWhile isDue }

/-! Sweeping. -/

/-- A connection is queued for erasing. -/
def defer (loop : EventLoop) (ids : List UInt64) : EventLoop := { loop with pendingErase := loop.pendingErase ++ ids }

/-- A connection is closed and queued for erasing. -/
def drop (loop : EventLoop) (id : UInt64) (reason : Status) : EventLoop :=
  (loop.perform id (.close reason)).defer [id]

/-- A turn of the first loop of `report_and_erase`. -/
def report (loop : EventLoop) (id : UInt64) : EventLoop :=
  match loop.find id with
  | none => loop
  | some connection =>
    match connection.outbound.closed with
    | none => loop
    | some reason =>
      if connection.closeReported then loop
      else if connection.watched then
        ((loop.put id { connection with closeReported := true } (some (.reported connection.serial reason))).call
          (.closed id reason)).2
      else loop.put id { connection with closeReported := true } none

/-- A turn of its second loop. -/
def erase (loop : EventLoop) (id : UInt64) : EventLoop :=
  match loop.find id with
  | none => loop
  | some connection =>
    { loop with connections := loop.connections.erase id, journal := loop.journal ++ [.removed connection.serial] }

def reportAndErase (loop : EventLoop) : EventLoop :=
  let reported := loop.pendingErase.foldl report loop
  { reported.pendingErase.foldl erase reported with pendingErase := [] }

/-- A turn of the loop of `sweep_connections`: what is closed is queued, and what was idle for too long is closed. -/
def expire (now : Timestamp) (loop : EventLoop) (id : UInt64) : EventLoop :=
  match loop.find id with
  | none => loop
  | some connection =>
    if connection.isClosed then loop.defer [id]
    else if 0 < connection.idleDeadline.nanos ∧ connection.lastActivity ≠ .zero ∧
        connection.idleDeadline.nanos < (now.since connection.lastActivity).nanos then
      loop.drop id (Status.make .unreachable (ascii "connection idle deadline expired"))
    else loop

def sweepConnections (loop : EventLoop) : EventLoop :=
  let swept := loop.reportAndErase
  (swept.connections.keys.foldl (expire swept.moment.now) swept.pass).reportAndErase

/-! Input and output. -/

/-- The loop of `Connection::dispatch`; the key is read anew for every frame. -/
def dispatchLoop (id : UInt64) : ℕ → EventLoop → Result Unit × EventLoop
  | 0, loop => (.ok (), loop)
  | left + 1, loop =>
    match loop.find id with
    | none => (.ok (), loop)
    | some connection =>
      match connection.parser.next connection.outbound.config.verifyKey with
      | .error status => (.error status, loop)
      | .ok none => (.ok (), loop)
      | .ok (some (frame, parser)) =>
        let taken := loop.put id { connection with parser } none
        if connection.answers = false then
          (.error (Status.internalError "connection has no frame handler"), taken)
        else
          let handled := taken.call (.frame id frame)
          match handled.1 with
          | .error status => (.error status, handled.2)
          | .ok () =>
            if (handled.2.find id).any Connection.isClosed then (.ok (), handled.2)
            else dispatchLoop id left handled.2

def dispatch (loop : EventLoop) (id : UInt64) : Result Unit × EventLoop := dispatchLoop id maxFramesPerIteration loop

def touch (loop : EventLoop) (id : UInt64) : EventLoop :=
  match loop.find id with
  | none => loop
  | some connection => loop.pass.put id { connection with lastActivity := loop.moment.now } none

/-- A connection is read dry and its frames are handed over, even if the reading ended in an error. -/
def read (loop : EventLoop) (id : UInt64) : Result Unit × EventLoop :=
  let filled := loop.pass.fillConnection id loop.moment.socket
  let dispatched := (filled.2.touch id).dispatch id
  match dispatched.1 with
  | .error status => (.error status, dispatched.2)
  | .ok () => (filled.1, dispatched.2)

def flush (loop : EventLoop) (id : UInt64) : Result Unit × EventLoop :=
  match loop.find id with
  | none => (.ok (), loop)
  | some connection =>
    let flushed := connection.outbound.flush loop.moment.replies
    (flushed.1, loop.pass.put id { connection with outbound := flushed.2 } none)

/-- The flush of a connection; an error closes it. The flag says whether to go on with it. -/
def flushOrDrop (loop : EventLoop) (id : UInt64) : Bool × EventLoop :=
  let flushed := loop.flush id
  match flushed.1 with
  | .error status => (false, flushed.2.drop id status)
  | .ok () => (true, flushed.2)

def hasOutput (loop : EventLoop) (id : UInt64) : Bool := (loop.find id).any Connection.hasOutput

def write (loop : EventLoop) (id : UInt64) (item : PollItem) : EventLoop :=
  let first := if loop.hasOutput id ∧ (item.writable ∨ item.readable) then loop.flushOrDrop id else (true, loop)
  if first.1 ∧ first.2.hasOutput id ∧ item.writable = false then (first.2.flushOrDrop id).2 else first.2

/-- What `pump` does for a connection that was polled. What can be read comes before an error of its socket. -/
def serve (loop : EventLoop) (id : UInt64) (item : PollItem) : EventLoop :=
  match loop.find id with
  | none => loop
  | some _ =>
    let received := if item.readable then loop.read id else (.ok (), loop)
    match received.1 with
    | .error status => received.2.drop id status
    | .ok () =>
      if item.failed then
        received.2.drop id (Status.make .unreachable (ascii "socket reported an error condition"))
      else received.2.write id item

def acceptLoop (listener : Listener) : ℕ → EventLoop → EventLoop
  | 0, loop => loop
  | left + 1, loop =>
    match loop.moment.accepted with
    | .error _ => loop.pass
    | .ok handle =>
      acceptLoop listener left (if listener.answers then (loop.pass.call (.accepted handle)).2 else loop.pass)

/-- What `pump` does for a listener that was polled. -/
def accept (loop : EventLoop) (item : PollItem) : EventLoop :=
  if item.readable = false ∧ item.failed = false then loop
  else (loop.listeners.filter fun listener => listener.handle = item.handle).foldl
    (fun loop listener => acceptLoop listener maxAcceptBurst loop) loop

def pump (loop : EventLoop) (timeout : ℤ) : Result Unit × EventLoop :=
  let listening := loop.listeners.filter Listener.valid
  let gone := loop.connections.toList.filter fun entry => entry.2.isClosed
  let polling := loop.connections.toList.filter fun entry => !entry.2.isClosed
  let items : List PollItem := listening.map (fun listener => { handle := listener.handle }) ++
    polling.map fun entry => { handle := entry.2.handle, wantWrite := entry.2.hasOutput }
  let waited := (loop.defer (gone.map Prod.fst)).pass
  match pollSockets items timeout loop.moment.polled with
  | .error status => (.error status, waited)
  | .ok (items, readyCount) =>
    if readyCount = 0 then (.ok (), waited)
    else
      let accepted := (items.take listening.length).foldl accept waited
      (.ok (), ((polling.map Prod.fst).zip (items.drop listening.length)).foldl
        (fun loop polled => loop.serve polled.1 polled.2) accepted)

/-- `EventLoop::run`, for that many turns at most. -/
def runLoop : ℕ → EventLoop → Result Unit × EventLoop
  | 0, loop => (.ok (), loop)
  | turns + 1, loop =>
    if loop.running = false then (.ok (), loop)
    else
      let fired := { loop with iterations := loop.iterations + 1 }.fireDueTimers
      if fired.running = false then (.ok (), fired)
      else
        let swept := fired.sweepConnections
        let pumped := swept.pass.pump swept.computeTimeout
        match pumped.1 with
        | .error status => (.error status, { pumped.2 with running := false })
        | .ok () => runLoop turns pumped.2

def run (turns : ℕ) (loop : EventLoop) : Result Unit × EventLoop := runLoop turns { loop with running := true }

end EventLoop

/-- What the owner of a loop does with it. -/
inductive Call
  | act (action : Action)
  | run (turns : ℕ)

namespace EventLoop

def step (loop : EventLoop) : Call → EventLoop
  | .act action => loop.act action
  | .run turns => (loop.run turns).2

def after (loop : EventLoop) (calls : List Call) : EventLoop := calls.foldl step loop

end EventLoop

end InterClusterFabric.NetEventLoop
