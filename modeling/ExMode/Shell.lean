import ExMode.Delegate
import ExMode.Shell.Run

/-!
# ExMode.Shell

A shell as a way of running programs.  The program is a file with a first line
that names its interpreter, the shell itself, or one of the programs that
scripts can call.  It runs on the disk it is given, within its time; what it
wrote and the disk it leaves are the answer.

This module and those under it only serve to run the program, on interpreters that
are scripts.  No result is about them: the results take the `Interpreter`
as a parameter, and so hold of every program that may be run.
-/

namespace ExMode.Shell

/-- Where programs are found, and their names. -/
def searchPath : Delegate.SearchPath where
  directories := Running.programDirectories
  programs := Running.shellNames ++ "env".toList :: Program.byName.map (·.1.toList)

/-- How many steps a program may take. -/
def maxSteps : Nat := 20000

/-- The most microseconds that a program may take: thirty years. -/
def maxLimit : Nat := tenTo 15

/-- The microseconds that starting a program takes. -/
def startTime : Nat := 1000

/-- The microseconds that a program may take.  No number of seconds is no time at all. -/
def limitOf : Binary64 → Nat
  | .finite false m q =>
    let (num, den) := Binary64.scale (m * 1000000) 1 q
    min maxLimit (num / den)
  | .infinity false => maxLimit
  | _ => 0

/-- What is in the way of starting a program: nothing, if there is a program to start. -/
def obstacle? (path : Text) (d : Disk) : Option OsCause :=
  if Delegate.SearchPath.has searchPath path then none
  else match d.stat (Path.ofText path) with
    | .error cause => some cause
    | .ok .directory => some .denied
    | .ok (.file _ false) => some .denied
    | .ok (.file bytes true) =>
      match Running.shebang? (Utf8.decodeLossy bytes) with
      | none => some .badFormat
      | some (program, _) =>
        if Delegate.SearchPath.has searchPath program
            || Delegate.isExecutable d (Path.ofText program) then none
        else some .noEntry

/-- Run a program: its path, its arguments, its time, and the disk. -/
def interpreter : Interpreter := fun argv timeout d =>
  let path := argv.head?.getD []
  match obstacle? path d with
  | some cause => (.notStarted ⟨cause, path, none⟩, d)
  | none =>
    let m := (Machine.start path argv.tail d (limitOf timeout)).spend startTime
    let (_, m) := StateT.run (Running.going (Running.invoke maxSteps argv)) m
    let d := { m.disk with here := d.here }
    if m.elapsed > m.limit then (.timedOut, d) else (.exited m.status m.output m.errors, d)

end ExMode.Shell
