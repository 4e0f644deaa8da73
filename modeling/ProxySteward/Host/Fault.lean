import ProxySteward.Text.Blank

/-!
# Faults of the operating system

The causes for which a file, a program or a socket refuses a request, with the wording in which the
system reports them.
-/

namespace ProxySteward

/-- Why the operating system refused a request. -/
inductive HostFault where
  | notFound
  | notDirectory
  | isDirectory
  | notUtf8
  | notExecutable
  | accessDenied
  | tooManyLinks
  | unreadable
  | badLibrary
  | fileBusy
  | invalidArgument
  | addressInUse
  | addressNotAvailable
  deriving DecidableEq, Repr

namespace HostFault

/-- The name and number of a fault the system numbers; the text of a file is checked by its reader
and has no number. -/
def name : HostFault → String
  | .notFound => "No such file or directory"
  | .notDirectory => "Not a directory"
  | .isDirectory => "Is a directory"
  | .notUtf8 => "stream did not contain valid UTF-8"
  | .notExecutable => "Exec format error"
  | .accessDenied => "Permission denied"
  | .tooManyLinks => "Too many levels of symbolic links"
  | .unreadable => "Input/output error"
  | .badLibrary => "Accessing a corrupted shared library"
  | .fileBusy => "Text file busy"
  | .invalidArgument => "Invalid argument"
  | .addressInUse => "Address already in use"
  | .addressNotAvailable => "Cannot assign requested address"

/-- The number of a fault. -/
def number? : HostFault → Option Nat
  | .notFound => some 2
  | .notDirectory => some 20
  | .isDirectory => some 21
  | .notUtf8 => none
  | .notExecutable => some 8
  | .accessDenied => some 13
  | .tooManyLinks => some 40
  | .unreadable => some 5
  | .badLibrary => some 80
  | .fileBusy => some 26
  | .invalidArgument => some 22
  | .addressInUse => some 98
  | .addressNotAvailable => some 99

/-- The class of a fault. -/
def kind : HostFault → String
  | .notFound => "NotFound"
  | .notDirectory => "NotADirectory"
  | .isDirectory => "IsADirectory"
  | .notUtf8 => "InvalidData"
  | .notExecutable => "Uncategorized"
  | .accessDenied => "PermissionDenied"
  | .tooManyLinks => "FilesystemLoop"
  | .unreadable => "Uncategorized"
  | .badLibrary => "Uncategorized"
  | .fileBusy => "ExecutableFileBusy"
  | .invalidArgument => "InvalidInput"
  | .addressInUse => "AddrInUse"
  | .addressNotAvailable => "AddrNotAvailable"

/-- The report of a fault. -/
def message (f : HostFault) : Text :=
  match f.number? with
  | some n => s!"{f.name} (os error {n})".toList
  | none => f.name.toList

end HostFault
end ProxySteward
