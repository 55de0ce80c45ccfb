import Mathlib.Data.List.Basic

/-!
# Go error values and the broken-pipe test

The errors `hiveQueryer.Query` and the connect loops of `operator.go` handle: `io.EOF`,
`syscall.Errno`, `*os.SyscallError`, `*net.OpError`, and the values `fmt.Errorf` builds.
-/

namespace Metering

inductive GoError where
  | eof
  | errno (code : Nat)
  | syscallError (syscall : String) (err : GoError)
  | opError (op : String) (err : GoError)
  | errorString (text : String)
  /-- `fmt.Errorf(format, arg)` with a `%v` verb: a new error that does not wrap `arg`. -/
  | errorf (format : String) (arg : GoError)
  deriving DecidableEq, Repr

instance exceptDecidableEq {ε α : Type} [DecidableEq ε] [DecidableEq α] :
    DecidableEq (Except ε α)
  | .ok a, .ok b => if h : a = b then isTrue (h ▸ rfl) else isFalse fun e => h (by injection e)
  | .error a, .error b =>
    if h : a = b then isTrue (h ▸ rfl) else isFalse fun e => h (by injection e)
  | .ok _, .error _ => isFalse nofun
  | .error _, .ok _ => isFalse nofun

/-- `syscall.EPIPE` on Linux. -/
def EPIPE : GoError := .errno 32

def isErrBrokenPipe : GoError → Bool
  | .opError _ err => err == EPIPE
  | _ => false

/-- The test `Query` makes on a failed connect or query before it closes, reconnects and
retries: `err == io.EOF || isErrBrokenPipe(err)`. -/
def reconnects (err : GoError) : Bool :=
  err == .eof || isErrBrokenPipe err

def causes : GoError → List GoError
  | e@(.syscallError _ err) => e :: causes err
  | e@(.opError _ err) => e :: causes err
  | e => [e]

end Metering
