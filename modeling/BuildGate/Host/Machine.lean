import BuildGate.Fs.Change
import BuildGate.Env

namespace BuildGate.Host

/-- How a process ended: with an exit code, or killed by a signal. -/
inductive Status where
  | exited (code : Nat)
  | signaled (signal : Nat)
  deriving Repr, BEq, Inhabited

def Status.code : Status → Nat
  | .exited n => n % 256
  | .signaled s => 128 + s

/-- Why a whole run stops before its programs end. -/
inductive Halt where
  | timedOut
  deriving Repr, BEq, Inhabited

/-- Where a program's input comes from. -/
inductive Source where
  | bytes (bs : List UInt8)
  | zeros
  deriving Repr, BEq, Inhabited

/-- Where a program's output goes. -/
inductive Sink where
  | out
  | err
  | pipe (depth : Nat)
  | file (cs : List String)
  | null
  | closed
  deriving Repr, BEq, Inhabited

/-- An open file read from: what is left to read, and whether a reader may go back in it (it
may in a file, not in a pipe or the text of a here-document). -/
structure Reader where
  left : Source := .bytes []
  seekable : Bool := false
  deriving Repr, BEq, Inhabited

/-- What an open descriptor above the standard three is for. -/
inductive Channel where
  | reads (reader : Nat)
  | writes (s : Sink)
  deriving Repr, BEq, Inhabited

/-- The descriptors of a program: standard input, output and error, and the others that are
open, by number. -/
structure Io where
  input : Nat := 0
  out : Sink := .out
  err : Sink := .err
  more : List (Nat × Channel) := []
  deriving Repr, Inhabited

def Io.channel? (io : Io) (fd : Nat) : Option Channel :=
  match fd with
  | 0 => some (.reads io.input)
  | 1 => if io.out == .closed then none else some (.writes io.out)
  | 2 => if io.err == .closed then none else some (.writes io.err)
  | _ => io.more.lookup fd

/-- Sets a descriptor to a channel: the standard input only reads and the standard output and
error only write, so a channel of the other kind makes them empty or failing. -/
def Io.setChannel (io : Io) (fd : Nat) (p : Channel) : Io :=
  match fd, p with
  | 0, .reads src => { io with input := src }
  | 0, .writes _ => { io with input := 0 }
  | 1, .writes s => { io with out := s }
  | 1, .reads _ => { io with out := .closed }
  | 2, .writes s => { io with err := s }
  | 2, .reads _ => { io with err := .closed }
  | n, p => { io with more := (io.more.filter (·.1 != n)) ++ [(n, p)] }

def Io.close (io : Io) (fd : Nat) : Io :=
  match fd with
  | 0 => { io with input := 0 }
  | 1 => { io with out := .closed }
  | 2 => { io with err := .closed }
  | n => { io with more := io.more.filter (·.1 != n) }

/-- The machine. -/
structure Machine where
  fs : Fs.Tree
  clock : Nat := 0
  deadline : Option Nat := none
  out : List UInt8 := []
  err : List UInt8 := []
  pipes : List (List UInt8) := []
  readers : List Reader := [{}]
  scheduled : List (Nat × Nat × Sink × List UInt8) := []
  ahead : Option (Nat × Nat) := none
  level : Nat := 0
  firstOnly : Bool := false
  nextPid : Nat := 4242
  deriving Inhabited

/-- Computations on the machine that may be stopped. -/
abbrev HostM := ExceptT Halt (StateM Machine)

def appendAt (t : Fs.Tree) (cs : List String) (bs : List UInt8) : Fs.Tree :=
  match t.entryAt cs with
  | some (.file old mode) => t.put cs (.file (old ++ bs) mode)
  | _ => t.put cs (.file bs 0o644)

def Machine.write (m : Machine) (s : Sink) (bs : List UInt8) : Machine :=
  match s with
  | .out => { m with out := m.out ++ bs }
  | .err => { m with err := m.err ++ bs }
  | .pipe i => { m with pipes := m.pipes.set i ((m.pipes.getD i []) ++ bs) }
  | .file cs => { m with fs := appendAt m.fs cs bs }
  | .null | .closed => m

/-- Writes bytes to a sink. A command running ahead in the background writes at its own
moment: the write waits until the others reach it, except into a pipe it opened itself. -/
def emit (s : Sink) (bs : List UInt8) : HostM Unit :=
  if bs.isEmpty then pure () else
  modify fun m =>
    match m.ahead, s with
    | some (pid, depth), .pipe i =>
      if i ≥ depth then m.write s bs
      else { m with scheduled := m.scheduled ++ [(m.clock, pid, s, bs)] }
    | some (pid, _), _ => { m with scheduled := m.scheduled ++ [(m.clock, pid, s, bs)] }
    | none, _ => m.write s bs

/-- Makes the writes of the background scheduled up to a moment, in the order of their
moments; none while a command runs ahead. -/
def flushUntil (t : Nat) : HostM Unit :=
  modify fun m =>
    if m.ahead.isSome then m
    else
      let due := (m.scheduled.filter (·.1 ≤ t)).mergeSort fun a b => a.1 ≤ b.1
      let m := due.foldl (fun m (_, _, s, bs) => m.write s bs) m
      { m with scheduled := m.scheduled.filter (·.1 > t) }

def flushAll : HostM Unit := do
  let m ← get
  flushUntil ((m.scheduled.map fun w => w.1).foldl max 0)

/-- Waits some microseconds; the run stops at the deadline if it comes first. The writes of
the background made meanwhile go out. -/
def sleepFor (us : Nat) : HostM Unit := do
  let m ← get
  match m.deadline with
  | some d =>
    if d < m.clock + us then
      set { m with clock := d }
      flushUntil d
      throw .timedOut
    else set { m with clock := m.clock + us }
  | none => set { m with clock := m.clock + us }
  flushUntil (← get).clock

/-- Waits for ever: the run stops at the deadline. -/
def hang : HostM α := do
  modify fun m => { m with clock := m.deadline.getD m.clock }
  flushUntil (← get).clock
  throw .timedOut

def openPipe : HostM Nat := do
  let m ← get
  set { m with pipes := m.pipes ++ [[]] }
  pure m.pipes.length

def closePipe : HostM (List UInt8) := do
  let m ← get
  set { m with pipes := m.pipes.dropLast }
  pure (m.pipes.getLastD [])

def openReader (left : Source) (seekable : Bool) : HostM Nat := do
  let m ← get
  set { m with readers := m.readers ++ [({ left, seekable } : Reader)] }
  pure m.readers.length

def readerAt (n : Nat) : HostM Reader := do
  pure ((← get).readers.getD n ({} : Reader))

/-- How much of its standard input a program reads. -/
inductive Reading where
  | nothing
  | whole
  | first (k : Nat)
  deriving Repr, BEq, Inhabited

/-- Reads from the open file of a number: what is read is no longer there for any reader of
it. The endless zeros stay endless. -/
def readFrom (n : Nat) (how : Reading) : HostM Unit :=
  modify fun m =>
    let r := m.readers.getD n ({} : Reader)
    let left := match r.left, how with
      | .zeros, _ => Source.zeros
      | .bytes bs, .nothing => .bytes bs
      | .bytes _, .whole => .bytes []
      | .bytes bs, .first k => .bytes (bs.drop k)
    { m with readers := m.readers.set n { r with left } }

def newPid : HostM Nat := do
  let m ← get
  set { m with nextPid := m.nextPid + 1 }
  pure m.nextPid

end BuildGate.Host
