/-!
# Input and output faults

What the system answers when a file cannot be read, and how it words it.
-/

namespace GrammarAudit

/-- Why a file could not be read: a numbered answer of the system, contents that
are not UTF-8, or another cause in its own words. -/
inductive IoFault
  | system (number : Nat)
  | notUtf8
  | other (text : String)
deriving DecidableEq, Repr, Inhabited

namespace IoFault

/-- Nothing has that path. -/
def notFound : IoFault := .system 2

/-- A step of the path leads through something that is not a directory. -/
def notADirectory : IoFault := .system 20

/-- A directory stands where a file was to be read. -/
def isADirectory : IoFault := .system 21

/-- A path with a NUL character names nothing. -/
def nulInPath : IoFault := .other "file name contained an unexpected NUL byte"

/-- The system's words for its numbered answers. -/
def systemWords : Nat → String
  | 0 => "Success"
  | 1 => "Operation not permitted"
  | 2 => "No such file or directory"
  | 3 => "No such process"
  | 4 => "Interrupted system call"
  | 5 => "Input/output error"
  | 6 => "No such device or address"
  | 7 => "Argument list too long"
  | 8 => "Exec format error"
  | 9 => "Bad file descriptor"
  | 10 => "No child processes"
  | 11 => "Resource temporarily unavailable"
  | 12 => "Cannot allocate memory"
  | 13 => "Permission denied"
  | 14 => "Bad address"
  | 15 => "Block device required"
  | 16 => "Device or resource busy"
  | 17 => "File exists"
  | 18 => "Invalid cross-device link"
  | 19 => "No such device"
  | 20 => "Not a directory"
  | 21 => "Is a directory"
  | 22 => "Invalid argument"
  | 23 => "Too many open files in system"
  | 24 => "Too many open files"
  | 25 => "Inappropriate ioctl for device"
  | 26 => "Text file busy"
  | 27 => "File too large"
  | 28 => "No space left on device"
  | 29 => "Illegal seek"
  | 30 => "Read-only file system"
  | 31 => "Too many links"
  | 32 => "Broken pipe"
  | 33 => "Numerical argument out of domain"
  | 34 => "Numerical result out of range"
  | 35 => "Resource deadlock avoided"
  | 36 => "File name too long"
  | 37 => "No locks available"
  | 38 => "Function not implemented"
  | 39 => "Directory not empty"
  | 40 => "Too many levels of symbolic links"
  | n => "Unknown error " ++ toString n

/-- The wording of a fault. -/
def message : IoFault → String
  | system number => systemWords number ++ " (os error " ++ toString number ++ ")"
  | notUtf8 => "stream did not contain valid UTF-8"
  | other text => text

end IoFault

end GrammarAudit
