/-!
# Signals

Signals have a number and a name. What a signal does to a process that has not asked for anything
else is to end it, with few exceptions.
-/

namespace ScaffoldRunner.Signal

/-- The names of the signals, from number one on. -/
def names : List String :=
  ["HUP", "INT", "QUIT", "ILL", "TRAP", "ABRT", "BUS", "FPE", "KILL", "USR1", "SEGV", "USR2",
    "PIPE", "ALRM", "TERM", "STKFLT", "CHLD", "CONT", "STOP", "TSTP", "TTIN", "TTOU", "URG",
    "XCPU", "XFSZ", "VTALRM", "PROF", "WINCH", "IO", "PWR", "SYS"]

/-- The largest number of a signal, counting those without a name of their own. -/
def largest : Nat := 64

def name? (number : Nat) : Option String := if number = 0 then none else names[number - 1]?

def number? (name : String) : Option Nat := (names.idxOf? name).map (· + 1)

/-- The signal that comes with a write that nobody can read. -/
def pipe : Nat := 13

/-- The signal that asks a process to end. -/
def term : Nat := 15

/-- The signal that ends a process without asking. -/
def kill : Nat := 9

def interrupt : Nat := 2

/-- Whether a process may not choose what a signal does. -/
def isSovereign (number : Nat) : Bool := number = kill || number = 19

/-- Whether a signal does nothing to a process that has not asked for it. -/
def isHarmless (number : Nat) : Bool :=
  number = 0 || number = 17 || number = 18 || number = 23 || number = 28 ||
    (19 ≤ number && number ≤ 22)

/-- What is said about a process that a signal has ended. -/
def description (number : Nat) : String :=
  let known := ["Hangup", "Interrupt", "Quit", "Illegal instruction", "Trace/breakpoint trap",
    "Aborted", "Bus error", "Floating point exception", "Killed", "User defined signal 1",
    "Segmentation fault", "User defined signal 2", "Broken pipe", "Alarm clock", "Terminated",
    "Stack fault", "Child exited", "Continued", "Stopped (signal)", "Stopped",
    "Stopped (tty input)", "Stopped (tty output)", "Urgent I/O condition",
    "CPU time limit exceeded", "File size limit exceeded", "Virtual timer expired",
    "Profiling timer expired", "Window changed", "I/O possible", "Power failure",
    "Bad system call"]
  if number = 0 then "Unknown signal 0"
  else (known[number - 1]?).getD
    (if number ≤ 33 then "Unknown signal " ++ toString number
    else "Real-time signal " ++ toString (number - 34))

/-- The status by which a shell tells that a signal has ended a process. -/
def status (number : Nat) : Nat := 128 + number

end ScaffoldRunner.Signal
