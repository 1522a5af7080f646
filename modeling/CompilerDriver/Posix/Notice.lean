import CompilerDriver.FileSystem.Error

/-!
# What the tools print about a refusal
-/

namespace CompilerDriver.SystemError

/-- The cause in the messages of the tools. -/
def notice : SystemError → String
  | notFound => "No such file or directory"
  | notDirectory => "Not a directory"
  | isDirectory => "Is a directory"
  | tooManyLinks => "Too many levels of symbolic links"
  | nameTooLong => "File name too long"
  | alreadyExists => "File exists"
  | accessDenied => "Permission denied"
  | notPermitted => "Operation not permitted"
  | notEmpty => "Directory not empty"
  | noDevice => "No such device or address"
  | noSpace => "No space left on device"
  | badDescriptor => "Bad file descriptor"
  | brokenPipe => "Broken pipe"
  | invalidArgument => "Invalid argument"
  | argumentsTooLong => "Argument list too long"
  | unknownFormat => "Exec format error"
  | busy => "Device or resource busy"
  | notSeekable => "Illegal seek"
  | noProcess => "No such process"
  | crossDevice => "Invalid cross-device link"
  | noChildren => "No child processes"
  | interrupted => "Interrupted system call"
  | outOfRange => "Numerical result out of range"

end CompilerDriver.SystemError
