/-!
Room for nesting. The source bounds it by nothing but the stack that it runs on, so the numbers
below are those of one such stack: a thousand frames, the usual size, less what is in use when a
line is met. They are measured, and another stack would give others.
-/

namespace Reckoner.Stack

def frames : Nat := 1000

/-- What is in use where the first operand of a line is read. -/
def framesToOperand : Nat := 30

/-- What is in use where a tree is met that is to be evaluated or written. -/
def framesToTree : Nat := 6

/-- A level of a tree takes two frames, both in evaluation and in writing. -/
def levels : Nat := (frames - framesToTree) / 2

end Reckoner.Stack
