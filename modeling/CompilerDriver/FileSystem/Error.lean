/-!
# Why the system refuses

Each cause has a code and a description.  Some are met only by the programs that a run starts.
-/

namespace CompilerDriver

/-- The cause for which a call of the system fails. -/
inductive SystemError where
  | notFound
  | notDirectory
  | isDirectory
  | tooManyLinks
  | nameTooLong
  | alreadyExists
  | accessDenied
  | notPermitted
  | notEmpty
  | noDevice
  | noSpace
  | badDescriptor
  | brokenPipe
  | invalidArgument
  | argumentsTooLong
  | unknownFormat
  | busy
  | notSeekable
  | noProcess
  | crossDevice
  | noChildren
  | interrupted
  | outOfRange
  deriving DecidableEq, Repr, Inhabited

namespace SystemError

/-- The symbol of the cause. -/
def code : SystemError → String
  | notFound => "ENOENT"
  | notDirectory => "ENOTDIR"
  | isDirectory => "EISDIR"
  | tooManyLinks => "ELOOP"
  | nameTooLong => "ENAMETOOLONG"
  | alreadyExists => "EEXIST"
  | accessDenied => "EACCES"
  | notPermitted => "EPERM"
  | notEmpty => "ENOTEMPTY"
  | noDevice => "ENXIO"
  | noSpace => "ENOSPC"
  | badDescriptor => "EBADF"
  | brokenPipe => "EPIPE"
  | invalidArgument => "EINVAL"
  | argumentsTooLong => "E2BIG"
  | unknownFormat => "ENOEXEC"
  | busy => "EBUSY"
  | notSeekable => "ESPIPE"
  | noProcess => "ESRCH"
  | crossDevice => "EXDEV"
  | noChildren => "ECHILD"
  | interrupted => "EINTR"
  | outOfRange => "ERANGE"

/-- The cause in the messages of the driver. -/
def description : SystemError → String
  | notFound => "no such file or directory"
  | notDirectory => "not a directory"
  | isDirectory => "illegal operation on a directory"
  | tooManyLinks => "too many symbolic links encountered"
  | nameTooLong => "name too long"
  | alreadyExists => "file already exists"
  | accessDenied => "permission denied"
  | notPermitted => "operation not permitted"
  | notEmpty => "directory not empty"
  | noDevice => "no such device or address"
  | noSpace => "no space left on device"
  | badDescriptor => "bad file descriptor"
  | brokenPipe => "broken pipe"
  | invalidArgument => "invalid argument"
  | argumentsTooLong => "argument list too long"
  | unknownFormat => "exec format error"
  | busy => "resource busy or locked"
  | notSeekable => "invalid seek"
  | noProcess => "no such process"
  | crossDevice => "cross-device link not permitted"
  | noChildren => "no child processes"
  | interrupted => "interrupted system call"
  | outOfRange => "result too large"

end SystemError

end CompilerDriver
