import ScaffoldRunner.Workspace.FileTree

/-!
# Programs as requests

A program computes by itself and asks the system for all else: to read and write, to work on
files, to start and to await other processes. A `Program` is either ended, or a request together
with what the program does with each answer. `Act` are the steps that programs are put together
from.
-/

namespace ScaffoldRunner

/-- Why the system has refused a request. -/
inductive Fault where
  | file (e : OsError)
  | badDescriptor
  | brokenPipe
  | noSpace
  | notSeekable
  | noDevice

namespace Fault

/-- The reason that is given for a failed file operation. -/
def reasonOf : OsError → String
  | .notFound => "No such file or directory"
  | .execFormat => "Exec format error"
  | .permissionDenied => "Permission denied"
  | .alreadyExists => "File exists"
  | .notDirectory => "Not a directory"
  | .isDirectory => "Is a directory"
  | .nameTooLong => "File name too long"
  | .noSpace => "No space left on device"
  | .inputOutput => "Input/output error"
  | .nulInPath => "Invalid argument"
  | .notText => "Invalid or incomplete multibyte or wide character"

/-- The reason that is given for a refusal. -/
def reason : Fault → String
  | file e => reasonOf e
  | badDescriptor => "Bad file descriptor"
  | brokenPipe => "Broken pipe"
  | noSpace => "No space left on device"
  | notSeekable => "Illegal seek"
  | noDevice => "No such device or address"

end Fault

/-- What an opened file is used for. -/
inductive Access where
  | reading
  /-- The file is emptied first. -/
  | writing
  | appending
  /-- The file is written from its start and keeps what is not written over. -/
  | both
  /-- The file must not exist yet. -/
  | creating
  deriving DecidableEq

/-- What a process does about a signal. -/
inductive SignalAction where
  /-- What the signal does by itself. -/
  | usual
  | ignore
  /-- The process is told about it. -/
  | notice
  deriving DecidableEq

inductive Ending where
  | exited (status : Nat)
  | killed (signal : Nat)
  deriving DecidableEq

namespace Ending

/-- The status by which a shell tells how a process has ended. -/
def status : Ending → Nat
  | exited status => status
  | killed signal => 128 + signal

end Ending

/-- How long to wait for a process. -/
inductive Patience where
  /-- Until it has ended. -/
  | full
  /-- Until it has ended or there is a signal to be told about. -/
  | untilSignal
  | none
  /-- Some microseconds. -/
  | atMost (micros : Nat)

/-- What comes of waiting for a process. -/
inductive Awaited where
  | ended (process : Nat) (ending : Ending)
  /-- There is no such child. -/
  | nobody
  | running
  | interrupted

/-- What a descriptor leads to, as far as programs can tell. -/
inductive StreamKind where
  | file (place : List String) (offset : Nat) (appends : Bool)
  | pipe
  | other
  | closed

inductive SystemRequest where
  /-- Let others go on; the answer is the signals that have come in. -/
  | pause
  /-- Read at most some octets, and not past the end of a line if so asked; no octets are the end
  of the input. -/
  | read (descriptor most : Nat) (line : Bool)
  /-- Write octets; the answer is how many were written. -/
  | write (descriptor : Nat) (octets : String)
  | openFile (path : String) (access : Access) (mode : Nat)
  /-- Make a pipe; the answer is its two ends. -/
  | makePipe
  /-- Let a descriptor lead to where another one leads. -/
  | copy (descriptor target : Nat)
  /-- Copy to the least free descriptor from some number on, which programs started later do not
  get. -/
  | copyAbove (descriptor least : Nat)
  | close (descriptor : Nat)
  | kind (descriptor : Nat)
  /-- Go back to an earlier place of a file. -/
  | rewind (descriptor offset : Nat)
  | files
  | change (operation : FileM Unit)
  | await (child : Option Nat) (patience : Patience)
  /-- Send a signal; the answer tells whether there is such a process. -/
  | send (signal process : Nat)
  /-- Send a signal to a process and to all that come from it. -/
  | sendToFamily (signal process : Nat)
  | onSignal (signal : Nat) (response : SignalAction)
  /-- The signals that are ignored. -/
  | ignored
  | sleep (micros : Nat)
  /-- The numbers of the process and of the one that has started it. -/
  | self
  /-- The microseconds that have passed. -/
  | clock
  /-- Become another program, with the descriptors and signals of this one. -/
  | become

def SystemRequest.Answer : SystemRequest → Type
  | pause => List Nat
  | read _ _ _ => Except Fault String
  | write _ _ => Except Fault Nat
  | openFile _ _ _ => Except Fault Nat
  | makePipe => Nat × Nat
  | copy _ _ => Bool
  | copyAbove _ _ => Option Nat
  | close _ => Bool
  | kind _ => StreamKind
  | rewind _ _ => Bool
  | files => FileTree
  | change _ => Option OsError
  | await _ _ => Awaited
  | send _ _ => Bool
  | sendToFamily _ _ => Unit
  | onSignal _ _ => Unit
  | ignored => List Nat
  | sleep _ => Unit
  | self => Nat × Nat
  | clock => Nat
  | become => Unit

/-- A program: a request with what follows each answer, the start of a process of its own with
what follows its number, or the end with a status. -/
inductive Program where
  | ended (status : Nat)
  | ask (request : SystemRequest) (next : request.Answer → Program)
  | fork (child : Program) (next : Nat → Program)
  /-- End by a signal. -/
  | killed (signal : Nat)

instance : Inhabited Program := ⟨.ended 0⟩

/-- A step of a program that has a state of type `σ`: it goes on with an answer, or is left for a
reason of type `ε`. -/
def Act (ε σ α : Type) : Type := σ → (α → σ → Program) → (ε → σ → Program) → Program

namespace Act

variable {ε σ α β : Type}

instance : Monad (Act ε σ) where
  pure a := fun s next _ => next a s
  bind act f := fun s next left => act s (fun a s => f a s next left) left

instance : MonadStateOf σ (Act ε σ) where
  get := fun s next _ => next s s
  set s := fun _ next _ => next ⟨⟩ s
  modifyGet f := fun s next _ => let (a, s) := f s; next a s

instance : MonadExceptOf ε (Act ε σ) where
  throw e := fun s _ left => left e s
  tryCatch act handle := fun s next left => act s next fun e s => handle e s next left

instance : Inhabited (Act ε σ α) := ⟨fun _ _ _ => .ended 0⟩

def ask (request : SystemRequest) : Act ε σ request.Answer :=
  fun s next _ => .ask request fun answer => next answer s

/-- Start a process of its own that begins with the present state; the answer is its number. -/
def fork (child : σ → Program) : Act ε σ Nat := fun s next _ => .fork (child s) fun id => next id s

def become (program : σ → Program) : Act ε σ α := fun s _ _ => .ask .become fun _ => program s

def finish (status : Nat) : Act ε σ α := fun _ _ _ => .ended (status % 256)

/-- End the process by a signal. -/
def die (signal : Nat) : Act ε σ α := fun _ _ _ => .killed signal

/-- Do an action with a state of its own in place of the present one. -/
def within {τ δ : Type} (state : τ) (onLeave : δ → Act ε σ α) (act : Act δ τ α) : Act ε σ α :=
  fun s next left => act state (fun a _ => next a s) fun e _ => onLeave e s next left

def files : Act ε σ FileTree := ask .files

def close (descriptor : Nat) : Act ε σ Unit := do
  let _ ← ask (.close descriptor)

/-- Let a descriptor lead to where another one leads; the answer tells whether that leads
anywhere. -/
def copy (descriptor target : Nat) : Act ε σ Bool := ask (.copy descriptor target)

/-- Open a file; the answer is the descriptor. -/
def openFile (path : String) (access : Access) (mode : Nat := 0o644) :
    Act ε σ (Except Fault Nat) :=
  ask (.openFile path access mode)

/-- Make a pipe; the answer is its read end and its write end. -/
def makePipe : Act ε σ (Nat × Nat) := ask .makePipe

def await (child : Option Nat) (patience : Patience) : Act ε σ Awaited :=
  ask (.await child patience)

/-- Send a signal; the answer tells whether there is such a process. -/
def send (signal process : Nat) : Act ε σ Bool := ask (.send signal process)

/-- Do a file operation; the answer is the error, if there was one. -/
def change (operation : FileM Unit) : Act ε σ (Option OsError) := ask (.change operation)

/-- Write octets until all are written. Nothing more is written after a failure. -/
def writeAll (descriptor : Nat) : Nat → String → Act ε σ (Option Fault)
  | 0, _ => pure none
  | fuel + 1, octets => do
      if octets.isEmpty then return none
      match ← ask (.write descriptor octets) with
      | .error e => return some e
      | .ok n =>
          let size := octets.length
          if size ≤ n then return none else writeAll descriptor fuel (octets.drop n).toString

/-- Write octets; the answer is the reason when they could not be written. -/
def write (descriptor : Nat) (octets : String) : Act ε σ (Option Fault) :=
  writeAll descriptor (octets.length + 1) octets

/-- Write octets, come what may. -/
def put (descriptor : Nat) (octets : String) : Act ε σ Unit := do
  let _ ← write descriptor octets

/-- The size in which input is read. -/
def blockSize : Nat := 65536

/-- Read until the end of the input, in blocks that are given in reverse order. -/
def readBlocks (descriptor : Nat) : Nat → List String → Act ε σ (Except Fault (List String))
  | 0, blocks => pure (.ok blocks)
  | fuel + 1, blocks => do
      match ← ask (.read descriptor blockSize false) with
      | .error e => return .error e
      | .ok block =>
          if block.isEmpty then return .ok blocks
          else readBlocks descriptor fuel (block :: blocks)

/-- How often things are repeated that have no bound of their own. -/
def rounds : Nat := 1000000000

def readAll (descriptor : Nat) : Act ε σ (Except Fault String) := do
  match ← readBlocks descriptor rounds [] with
  | .ok blocks => return .ok (String.join blocks.reverse)
  | .error e => return .error e

end Act

end ScaffoldRunner
