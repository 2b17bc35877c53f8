import ScaffoldRunner.System.Program
import ScaffoldRunner.System.Signal
import ScaffoldRunner.Text.Utf8

/-!
# The system

The system runs tasks on files and streams. It answers the requests of their programs; a request
that cannot be answered yet is left as it is, to be tried again when others have gone on.

Descriptors lead to streams. A stream is a file that was opened, with the place that has been
reached in it, an end of a pipe, one of the outputs that are collected, or a device.
-/

namespace ScaffoldRunner.System

/-! ## Streams and pipes -/

/-- Where the octets of a stream come from or go to. -/
inductive Target where
  | file (place : List String)
  | readEnd (pipe : Nat)
  | writeEnd (pipe : Nat)
  /-- One of the outputs that are collected. -/
  | output (index : Nat)
  /-- Nothing to read, and nothing is kept. -/
  | nowhere
  /-- No room for anything. -/
  | full
  | zeros
  | noise

/-- An opened stream, which several descriptors may lead to. -/
structure Stream where
  target : Target
  offset : Nat := 0
  appends : Bool := false
  readable : Bool := true
  writable : Bool := true

/-- The bytes that were written into a pipe and not read yet, in pieces: the part of each that was
read, the pieces in order, and later ones in reverse order. -/
structure Pipe where
  front : List (ByteArray × Nat) := []
  back : List (ByteArray × Nat) := []
  size : Nat := 0
  deriving Inhabited

namespace Pipe

/-- How many bytes fit into a pipe. -/
def capacity : Nat := 65536

/-- The number of bytes up to the end of the line, at most `most`, from some place on. -/
def lineEnd (bytes : ByteArray) (start : Nat) : Nat → Nat
  | 0 => 0
  | most + 1 =>
      match bytes[start]? with
      | none => 0
      | some 10 => 1
      | some _ => lineEnd bytes (start + 1) most + 1

/-- The number of bytes to take from some place on. -/
def portion (bytes : ByteArray) (start most : Nat) (line : Bool) : Nat :=
  let most := min most (bytes.size - start)
  if line then lineEnd bytes start most else most

/-- Put bytes into a pipe, as far as they fit; the answer is how many did. -/
def push (pipe : Pipe) (bytes : ByteArray) : Nat × Pipe :=
  let n := min bytes.size (capacity - pipe.size)
  if n = 0 then (0, pipe)
  else (n, { pipe with back := (bytes.extract 0 n, 0) :: pipe.back, size := pipe.size + n })

/-- Take bytes of the oldest piece out of a pipe. -/
def pop (pipe : Pipe) (most : Nat) (line : Bool) : Option (ByteArray × Pipe) :=
  match pipe.front ++ (if pipe.front.isEmpty then pipe.back.reverse else []) with
  | [] => none
  | (bytes, start) :: rest =>
      let n := portion bytes start most line
      let rest := if start + n < bytes.size then (bytes, start + n) :: rest else rest
      some (bytes.extract start (start + n),
        { front := rest, back := if pipe.front.isEmpty then [] else pipe.back
          size := pipe.size - n })

end Pipe

/-- Bytes with others written into them from some place on. -/
def writtenAt (bytes : ByteArray) (offset : Nat) (added : ByteArray) : ByteArray :=
  if offset = bytes.size then bytes ++ added
  else
    let before := bytes.extract 0 offset
    let gap : ByteArray := ⟨Array.replicate (offset - before.size) 0⟩
    before ++ gap ++ added ++ bytes.extract (offset + added.size) bytes.size

/-- Octets that follow no rule, beginning at some place of the sequence. -/
def noiseAt (start count : Nat) : String :=
  String.ofList ((List.range count).map fun i =>
    let x := (start + i + 1) * 2654435761 % 4294967296
    Char.ofNat (((x ^^^ (x / 65536)) * 40503 / 256) % 256))

/-! ## Tasks -/

/-- A process: its program with the descriptors, signals and times that belong to it. -/
structure Task where
  id : Nat
  parent : Nat
  /-- Descriptors with the streams they lead to, and whether later programs keep them. -/
  descriptors : List (Nat × Nat × Bool)
  responses : List (Nat × SignalAction) := []
  /-- The signals that the program is still to be told about. -/
  pending : List Nat := []
  /-- When the request being waited for gives up. -/
  wakeAt : Option Nat := none
  program : Program
  deriving Inhabited

namespace Task

def stream? (task : Task) (descriptor : Nat) : Option Nat :=
  (task.descriptors.find? fun e => e.1 = descriptor).map (·.2.1)

/-- Let a descriptor lead nowhere. -/
def without (task : Task) (descriptor : Nat) : Task :=
  { task with descriptors := task.descriptors.filter fun e => e.1 ≠ descriptor }

/-- Let a descriptor lead to a stream. -/
def connect (task : Task) (descriptor stream : Nat) (kept : Bool := true) : Task :=
  let task := task.without descriptor
  { task with descriptors := (descriptor, stream, kept) :: task.descriptors }

/-- The least descriptor from some number on that leads nowhere. -/
def freeFrom (task : Task) (least : Nat) : Nat :=
  let taken := task.descriptors.map (·.1)
  ((List.range (taken.length + 1)).map (least + ·)).find? (!taken.contains ·) |>.getD least

/-- What a process does about a signal. -/
def response (task : Task) (signal : Nat) : SignalAction :=
  if Signal.isSovereign signal then .usual
  else ((task.responses.find? fun e => e.1 = signal).map (·.2)).getD .usual

end Task

/-- The system with the tasks in the order in which they get their turn. -/
structure Kernel where
  files : FileTree
  queue : List Task
  streams : Array Stream
  pipes : Array Pipe := #[]
  outputs : Array ByteArray
  /-- The processes that have ended and were not awaited yet, each after its parent. -/
  ended : List (Nat × Nat × Ending) := []
  /-- The microseconds that have passed. -/
  clock : Nat := 0
  nextId : Nat
  /-- The process that all others come from, and how it has ended. -/
  rootId : Nat
  root : Option Ending := none
  /-- How many requests the first task has made in its turn. -/
  turn : Nat := 0
  /-- How many tasks in a row could not go on. -/
  waiting : Nat := 0
  /-- Nobody can go on any more. -/
  stuck : Bool := false

/-- What the system does about a request. -/
inductive Reaction (α : Type) where
  | answer (a : α) (kernel : Kernel) (task : Task)
  /-- The request is to be tried again. -/
  | later (task : Task)
  /-- The request ends the process that has made it. -/
  | fatal (signal : Nat) (kernel : Kernel)

namespace Kernel

/-- Whether one of some tasks has a descriptor for a stream of some kind. -/
def holds (k : Kernel) (tasks : List Task) (test : Target → Bool) : Bool :=
  tasks.any fun task => task.descriptors.any fun (_, stream, _) =>
    (k.streams[stream]?).any fun s => test s.target

/-- Whether the read end of a pipe is open. -/
def hasReader (k : Kernel) (task : Task) (pipe : Nat) : Bool :=
  k.holds (task :: k.queue) fun
    | .readEnd p => p = pipe
    | _ => false

/-- Whether the write end of a pipe is open. -/
def hasWriter (k : Kernel) (task : Task) (pipe : Nat) : Bool :=
  k.holds (task :: k.queue) fun
    | .writeEnd p => p = pipe
    | _ => false

def setStream (k : Kernel) (index : Nat) (stream : Stream) : Kernel :=
  { k with streams := k.streams.setIfInBounds index stream }

/-- Open a stream and give it a descriptor of the task. -/
def enter (k : Kernel) (task : Task) (stream : Stream) : Nat × Kernel × Task :=
  let descriptor := task.freeFrom 0
  (descriptor, { k with streams := k.streams.push stream }, task.connect descriptor k.streams.size)

/-- End a task. Its children go on without a parent. -/
def retire (k : Kernel) (task : Task) (ending : Ending) : Kernel :=
  let awaited := k.queue.any fun other => other.id = task.parent
  let others := k.ended.filter fun e => e.1 ≠ task.id
  { k with
    queue := k.queue.map fun other =>
      if other.parent = task.id then { other with parent := 1 } else other
    ended := if awaited then others ++ [(task.parent, task.id, ending)] else others
    root := if task.id = k.rootId then some ending else k.root
    turn := 0
    waiting := 0 }

def read (k : Kernel) (task : Task) (index : Nat) (stream : Stream) (most : Nat) (line : Bool) :
    Reaction (Except Fault String) :=
  if !stream.readable then .answer (.error .badDescriptor) k task
  else
    match stream.target with
    | .file place =>
        match k.files.get? place with
        | some (.file bytes _) =>
            let n := Pipe.portion bytes stream.offset most line
            let text := Octets.ofBytes (bytes.extract stream.offset (stream.offset + n))
            .answer (.ok text) (k.setStream index { stream with offset := stream.offset + n }) task
        | some .dir => .answer (.error (.file .isDirectory)) k task
        | none => .answer (.ok "") k task
    | .readEnd pipe =>
        match (k.pipes.getD pipe {}).pop most line with
        | some (bytes, rest) =>
            let pipes := k.pipes.setIfInBounds pipe rest
            .answer (.ok (Octets.ofBytes bytes)) { k with pipes := pipes } task
        | none => if k.hasWriter task pipe then .later task else .answer (.ok "") k task
    | .nowhere => .answer (.ok "") k task
    | .zeros | .full => .answer (.ok (String.ofList (List.replicate most (Char.ofNat 0)))) k task
    | .noise =>
        .answer (.ok (noiseAt stream.offset most))
          (k.setStream index { stream with offset := stream.offset + most }) task
    | .writeEnd _ | .output _ => .answer (.error .badDescriptor) k task

def write (k : Kernel) (task : Task) (index : Nat) (stream : Stream) (octets : String) :
    Reaction (Except Fault Nat) :=
  if !stream.writable then .answer (.error .badDescriptor) k task
  else
    let bytes := Octets.toBytes octets
    match stream.target with
    | .file place =>
        match k.files.get? place with
        | some (.file before mode) =>
            let offset := if stream.appends then before.size else stream.offset
            let node := Node.file (writtenAt before offset bytes) mode
            let k := k.setStream index { stream with offset := offset + bytes.size }
            .answer (.ok bytes.size) { k with files := k.files.insert place node } task
        | _ => .answer (.ok bytes.size) k task
    | .writeEnd pipe =>
        if k.hasReader task pipe then
          let (n, rest) := (k.pipes.getD pipe {}).push bytes
          if n = 0 && bytes.size ≠ 0 then .later task
          else .answer (.ok n) { k with pipes := k.pipes.setIfInBounds pipe rest } task
        else
          match task.response Signal.pipe with
          | .usual => .fatal Signal.pipe k
          | .ignore => .answer (.error .brokenPipe) k task
          | .notice =>
              .answer (.error .brokenPipe) k { task with pending := task.pending ++ [Signal.pipe] }
    | .output i =>
        .answer (.ok bytes.size) { k with outputs := k.outputs.modify i (· ++ bytes) } task
    | .nowhere | .zeros | .noise => .answer (.ok bytes.size) k task
    | .full => .answer (.error .noSpace) k task
    | .readEnd _ => .answer (.error .badDescriptor) k task

/-- The stream that the device at a place gives. -/
def device? (place : List String) : Option Target :=
  match place with
  | ["dev", "null"] => some .nowhere
  | ["dev", "zero"] => some .zeros
  | ["dev", "full"] => some .full
  | ["dev", "random"] | ["dev", "urandom"] => some .noise
  | _ => none

/-- The descriptor of the process itself that a path names. -/
def ownDescriptor? (path : String) : Option Nat :=
  match path with
  | "/dev/stdin" => some 0
  | "/dev/stdout" => some 1
  | "/dev/stderr" => some 2
  | _ =>
      match Text.split '/' path with
      | ["", "dev", "fd", n] | ["", "proc", "self", "fd", n] => n.toNat?
      | _ => none

def openPlace (files : FileTree) (path : String) (access : Access) (mode : Nat) :
    Except OsError (FileTree × Stream) := do
  match access with
  | .reading =>
      let place ← files.locate path
      match files.get? place with
      | none => throw .notFound
      | some _ => return (files, { target := .file place, writable := false })
  | _ =>
      let place ← files.fileTarget path
      let stream : Stream :=
        { target := .file place, appends := access = .appending, readable := access = .both }
      match files.get? place with
      | some .dir => throw .isDirectory
      | some (.file _ mode) =>
          if access = .creating then throw .alreadyExists
          else if access = .writing then return (files.insert place (.file .empty mode), stream)
          else return (files, stream)
      | none => return (files.insert place (.file .empty mode), stream)

def openPath (k : Kernel) (task : Task) (path : String) (access : Access) (mode : Nat) :
    Reaction (Except Fault Nat) :=
  let entered (k : Kernel) (stream : Stream) : Reaction (Except Fault Nat) :=
    let (descriptor, k, task) := k.enter task stream
    .answer (.ok descriptor) k task
  let path := Octets.decode path
  let onTree (path : String) : Reaction (Except Fault Nat) :=
    match openPlace k.files path access mode with
    | .ok (files, stream) => entered { k with files := files } stream
    | .error e => .answer (.error (.file e)) k task
  if path = "/dev/tty" then .answer (.error .noDevice) k task
  else
    match ((k.files.locate path).toOption).bind device?, ownDescriptor? path with
    | some target, _ => entered k { target := target }
    | none, some descriptor =>
        match (task.stream? descriptor).bind (k.streams[·]?) with
        | none => .answer (.error (.file .notFound)) k task
        | some stream =>
            match stream.target with
            | .file place => onTree ("/" ++ Text.join "/" place)
            | _ => entered k stream
    | none, none => onTree path

/-- What a signal does to a task: nothing, or the task is told, or it ends. -/
def received (task : Task) (signal : Nat) : Option Task :=
  match task.response signal with
  | .ignore => some task
  | .notice =>
      some (if task.pending.contains signal then task
        else { task with pending := task.pending ++ [signal] })
  | .usual => if Signal.isHarmless signal then some task else none

/-- How many requests a task may make in a row while others wait. -/
def slice : Nat := 400

/-- Send a signal to a process. A parent that is told goes on before the child that told it, so that
a signal that a child sends at its end is not taken for later than that end. -/
def send (k : Kernel) (task : Task) (signal process : Nat) : Reaction Bool :=
  if process = task.id then
    match received task signal with
    | some task => .answer true k task
    | none => .fatal signal k
  else
    match k.queue.find? fun other => other.id = process with
    | none => .answer (k.ended.any fun e => e.2.1 = process) k task
    | some other =>
        match received other signal with
        | some other =>
            .answer true { k with
              queue := k.queue.map fun t => if t.id = process then other else t
              turn := if process = task.parent then slice else k.turn } task
        | none =>
            let queue := k.queue.filter fun t => t.id ≠ process
            let awaited := task.id = other.parent || queue.any fun t => t.id = other.parent
            let orphan (t : Task) : Task := if t.parent = process then { t with parent := 1 } else t
            .answer true { k with
              queue := queue.map orphan
              ended := (k.ended.filter fun e => e.1 ≠ process) ++
                (if awaited then [(other.parent, process, .killed signal)] else [])
              root := if process = k.rootId then some (.killed signal) else k.root } (orphan task)

/-- Some processes and all that come from them. -/
def family (queue : List Task) : Nat → List Nat → List Nat
  | 0, known => known
  | fuel + 1, known =>
      let born := queue.filter fun t => known.contains t.parent && !known.contains t.id
      if born.isEmpty then known else family queue fuel (known ++ born.map (·.id))

/-- Send a signal to a process and to all that come from it. -/
def sendToFamily (k : Kernel) (task : Task) (signal process : Nat) : Reaction Unit :=
  let members := family k.queue (k.queue.length + 1) [process]
  let (k, task) := members.foldl (fun (k, task) id =>
    match send k task signal id with
    | .answer _ k task => (k, task)
    | .later task => (k, task)
    | .fatal _ k => (k, task)) (k, task)
  .answer () k task

/-- Wait until some time has passed. -/
def sleep (k : Kernel) (task : Task) (micros : Nat) : Reaction Unit :=
  match task.wakeAt with
  | none => .later { task with wakeAt := some (k.clock + micros) }
  | some time => if k.clock < time then .later task else .answer () k { task with wakeAt := none }

/-- Wait for a child to end. -/
def await (k : Kernel) (task : Task) (child : Option Nat) (patience : Patience) :
    Reaction Awaited :=
  let isMeant (id : Nat) : Bool := child.all (· = id)
  let ready := { task with wakeAt := none }
  match k.ended.find? fun e => e.1 = task.id && isMeant e.2.1 with
  | some (_, id, ending) =>
      .answer (.ended id ending) { k with ended := k.ended.filter fun e => e.2.1 ≠ id } ready
  | none =>
      if !(k.queue.any fun other => other.parent = task.id && isMeant other.id) then
        .answer .nobody k ready
      else
        match patience with
        | .full => .later task
        | .untilSignal => if task.pending.isEmpty then .later task else .answer .interrupted k ready
        | .none => .answer .running k ready
        | .atMost micros =>
            match task.wakeAt with
            | none => .later { task with wakeAt := some (k.clock + micros) }
            | some time => if k.clock < time then .later task else .answer .running k ready

/-- How long it takes to start a program. -/
def startTime : Nat := 400

/-- What the system does about a request of a task. -/
def react (k : Kernel) (task : Task) : (request : SystemRequest) → Reaction request.Answer
  | .pause => .answer task.pending k { task with pending := [] }
  | .read descriptor most line =>
      match task.stream? descriptor with
      | none => .answer (.error .badDescriptor) k task
      | some index =>
          match k.streams[index]? with
          | none => .answer (.error .badDescriptor) k task
          | some stream => k.read task index stream most line
  | .write descriptor octets =>
      match task.stream? descriptor with
      | none => .answer (.error .badDescriptor) k task
      | some index =>
          match k.streams[index]? with
          | none => .answer (.error .badDescriptor) k task
          | some stream => k.write task index stream octets
  | .openFile path access mode => k.openPath task path access mode
  | .makePipe =>
      let pipe := k.pipes.size
      let k := { k with pipes := k.pipes.push {} }
      let (readEnd, k, task) := k.enter task { target := .readEnd pipe, writable := false }
      let (writeEnd, k, task) := k.enter task { target := .writeEnd pipe, readable := false }
      .answer (readEnd, writeEnd) k task
  | .copy descriptor target =>
      match task.stream? descriptor with
      | none => .answer false k task
      | some stream =>
          .answer true k (if descriptor = target then task else task.connect target stream)
  | .copyAbove descriptor least =>
      match task.stream? descriptor with
      | none => .answer none k task
      | some stream =>
          let free := task.freeFrom least
          .answer (some free) k (task.connect free stream false)
  | .close descriptor =>
      .answer (task.stream? descriptor).isSome k (task.without descriptor)
  | .kind descriptor =>
      .answer (match (task.stream? descriptor).bind (k.streams[·]?) with
        | none => .closed
        | some stream =>
            match stream.target with
            | .file place => .file place stream.offset stream.appends
            | .readEnd _ | .writeEnd _ | .output _ => .pipe
            | _ => .other) k task
  | .rewind descriptor offset =>
      match task.stream? descriptor with
      | none => .answer false k task
      | some index =>
          match k.streams[index]? with
          | some stream =>
              match stream.target with
              | .file _ => .answer true (k.setStream index { stream with offset := offset }) task
              | _ => .answer false k task
          | none => .answer false k task
  | .files => .answer k.files k task
  | .change operation =>
      match operation k.files with
      | .ok () files => .answer none { k with files := files } task
      | .error e files => .answer (some e) { k with files := files } task
  | .await child patience => k.await task child patience
  | .send signal process => k.send task signal process
  | .sendToFamily signal process => k.sendToFamily task signal process
  | .onSignal signal response =>
      .answer () k { task with
        responses := (signal, response) :: task.responses.filter fun e => e.1 ≠ signal }
  | .ignored =>
      .answer (task.responses.filterMap fun (signal, response) =>
        if response = .ignore then some signal else none) k task
  | .sleep micros => k.sleep task micros
  | .self => .answer (task.id, task.parent) k task
  | .clock => .answer k.clock k task
  | .become =>
      .answer () { k with clock := k.clock + startTime } { task with
        descriptors := task.descriptors.filter (·.2.2)
        responses := task.responses.filter fun e => e.2 ≠ .notice
        pending := [] }

/-- The microseconds that a request takes. -/
def tick : Nat := 2

/-- Nobody can go on: let the time pass until somebody wakes up. -/
def rest (k : Kernel) : Kernel :=
  match (k.queue.filterMap (·.wakeAt)).min? with
  | some time => { k with clock := max k.clock time, waiting := 0 }
  | none => { k with stuck := true }

/-- Let the first task make a request. -/
def step (k : Kernel) : Kernel :=
  match k.queue with
  | [] => { k with stuck := true }
  | task :: others =>
      let k := { k with queue := others, clock := k.clock + tick, turn := k.turn + 1 }
      match task.program with
      | .ended status => k.retire task (.exited status)
      | .killed signal => k.retire task (.killed signal)
      | .fork child next =>
          let id := k.nextId
          let born : Task := { task with
            id := id, parent := task.id, pending := [], wakeAt := none, program := child }
          { k with
            queue := { task with program := next id } :: others ++ [born]
            nextId := id + 1
            waiting := 0 }
      | .ask request next =>
          match k.react task request with
          | .answer a k task =>
              let task := { task with program := next a }
              if k.turn < slice then { k with queue := task :: k.queue, waiting := 0 }
              else { k with queue := k.queue ++ [task], turn := 0, waiting := 0 }
          | .later task =>
              let k := { k with queue := k.queue ++ [task], turn := 0, waiting := k.waiting + 1 }
              if k.queue.length ≤ k.waiting then k.rest else k
          | .fatal signal k => k.retire task (.killed signal)

/-- Whether the first process has ended and nobody can write to the collected outputs any more. -/
def isDone (k : Kernel) : Bool :=
  k.root.isSome && !k.holds k.queue fun
    | .output _ => true
    | _ => false

/-- Run until all is done or the time is over; every step takes some time, so that there are no
more steps than microseconds. -/
def runFor (limit : Nat) : Nat → Kernel → Kernel
  | 0, k => k
  | fuel + 1, k => if k.isDone || k.stuck || limit < k.clock then k else runFor limit fuel k.step

/-- Run until all is done or the time is over. -/
def run (k : Kernel) (limit : Nat) : Kernel := k.runFor limit (limit + 2)

end Kernel

end ScaffoldRunner.System
