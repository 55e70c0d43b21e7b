import ResourceContainers.Io.Errno

/-!
# Failures of input and output

A blocking operation fails with an error of the operating system, or with an error that says in
words what went wrong.  Either has a kind, by which callers tell failures apart.

* `IoError`: a failure, with its `kind` and its `message`.
-/

namespace ResourceContainers

/-- Why a blocking operation failed.  The operating system said so, or something else did, in
words. -/
inductive IoError
  | os (errno : Errno)
  | words (kind : IoError.Kind) (message : String)
  deriving DecidableEq, Repr

namespace IoError

def kind : IoError → Kind
  | os errno => errno.kind
  | words kind _ => kind

def errno? : IoError → Option Int
  | os errno => some errno.code
  | words _ _ => none

def message : IoError → String
  | os errno => errno.text ++ " (os error " ++ toString errno.code ++ ")"
  | words _ message => message

end IoError

end ResourceContainers
