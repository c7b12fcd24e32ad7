import ExMode.Fault
import ExMode.Keyed

/-!
# ExMode.Runtime

What the program leaves to the runtime under it and to the libraries that it calls:
how many calls may be open inside one another, which documents are nested too deeply
for those that read them, what a library says of a document it refuses, and which
texts with markup the console fails on for the looks that their tags ask for.

All of this is data.  A statement about every runtime is a statement about every depth
of the stack, and about whatever the libraries say.
-/

namespace ExMode

/-- A runtime, and the libraries that come with it. -/
structure Runtime where
  /-- So many calls may be open within the first one of those that make a directory each, the last
  one the uppermost that is missing. -/
  nesting : Nat
  /-- The documents that are nested too deeply for the calls that read them. -/
  exhausting : List Text
  /-- What is said of a document that is refused, for each fault that the refusal can become. -/
  remarks : Keyed (Fault × Text) Text
  /-- The texts with markup that cannot be shown for the looks that their tags ask for, and the
  fault that this is. -/
  unshown : Keyed Text Fault
  deriving DecidableEq, Repr

namespace Runtime

/-- A runtime of the usual depth, whose libraries read and show everything, and add nothing to the
faults that they are asked about.  A thousand calls may be open inside one another, and about thirty
of them are when the first directory is made. -/
def standard : Runtime := ⟨970, [], [], []⟩

/-- A fault about a document, with what is said of the document. -/
def remarkOn (r : Runtime) (document : Text) (fault : Fault) : Fault :=
  fault.withRemark ((r.remarks.get? (fault, document)).getD [])

end Runtime

end ExMode
