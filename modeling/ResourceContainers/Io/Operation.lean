/-!
# Gated operations

The blocking operations that go through a gate, which may hand them to an adapter.
-/

namespace ResourceContainers

/-- A blocking operation. -/
inductive Operation
  | read
  | positionalRead
  | vectoredRead
  | write
  | positionalWrite
  | vectoredWrite
  | force
  | truncate
  deriving DecidableEq, Repr

namespace Operation

def all : List Operation :=
  [read, positionalRead, vectoredRead, write, positionalWrite, vectoredWrite, force, truncate]

def label : Operation → String
  | read => "read"
  | positionalRead => "pread"
  | vectoredRead => "readv"
  | write => "write"
  | positionalWrite => "pwrite"
  | vectoredWrite => "writev"
  | force => "force"
  | truncate => "truncate"

def ofLabel? (name : String) : Option Operation := all.find? (·.label == name)

theorem ofLabel?_label (o : Operation) : ofLabel? o.label = some o := by
  cases o <;> decide

end Operation

end ResourceContainers
