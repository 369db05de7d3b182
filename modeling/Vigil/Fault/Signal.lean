/-!
# Fault — Signal

The standard signals of the operating system by name and number, and those that kill a process
for a fault of its own.
-/

namespace Vigil

/-- A standard signal. -/
inductive Signal where
  | hup | int | quit | ill | trap | abrt | bus | fpe | kill | usr1 | segv | usr2 | pipe | alrm
  | term | stkflt | chld | cont | stop | tstp | ttin | ttou | urg | xcpu | xfsz | vtalrm | prof
  | winch | poll | pwr | sys
  deriving DecidableEq, Repr

namespace Signal

/-- All signals, in the order of their numbers. -/
def all : List Signal := [
  .hup, .int, .quit, .ill, .trap, .abrt, .bus, .fpe, .kill, .usr1, .segv, .usr2, .pipe, .alrm,
  .term, .stkflt, .chld, .cont, .stop, .tstp, .ttin, .ttou, .urg, .xcpu, .xfsz, .vtalrm, .prof,
  .winch, .poll, .pwr, .sys]

/-- The number of a signal: they are numbered from 1. -/
def number (s : Signal) : Nat := all.idxOf s + 1

/-- The name of a signal. -/
def name : Signal → String
  | .hup => "SIGHUP" | .int => "SIGINT" | .quit => "SIGQUIT" | .ill => "SIGILL"
  | .trap => "SIGTRAP" | .abrt => "SIGABRT" | .bus => "SIGBUS" | .fpe => "SIGFPE"
  | .kill => "SIGKILL" | .usr1 => "SIGUSR1" | .segv => "SIGSEGV" | .usr2 => "SIGUSR2"
  | .pipe => "SIGPIPE" | .alrm => "SIGALRM" | .term => "SIGTERM" | .stkflt => "SIGSTKFLT"
  | .chld => "SIGCHLD" | .cont => "SIGCONT" | .stop => "SIGSTOP" | .tstp => "SIGTSTP"
  | .ttin => "SIGTTIN" | .ttou => "SIGTTOU" | .urg => "SIGURG" | .xcpu => "SIGXCPU"
  | .xfsz => "SIGXFSZ" | .vtalrm => "SIGVTALRM" | .prof => "SIGPROF" | .winch => "SIGWINCH"
  | .poll => "SIGIO" | .pwr => "SIGPWR" | .sys => "SIGSYS"

/-- The signal of a name. -/
def ofName? (name : String) : Option Signal := all.find? (·.name == name)

/-- The signals treated as fatal faults. -/
def fatal : List Signal := [.abrt, .segv, .bus, .fpe, .ill, .trap]

end Signal
end Vigil
