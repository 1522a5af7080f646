import CompilerDriver.Posix.Creation
import CompilerDriver.Posix.Shell.Interpreter

/-!
# The installed system

Where the programs and the devices are.
-/

namespace CompilerDriver.Shell

def programDirectory : String := "/usr/bin"

/-- Links in the root, and other names of programs. -/
def links : List (String × String) := [
  ("/bin", "usr/bin"), ("/sbin", "usr/sbin"), ("/lib", "usr/lib"), ("/usr/bin/sh", "dash"),
  ("/dev/fd", "/proc/self/fd"), ("/dev/stdin", "/proc/self/fd/0"),
  ("/dev/stdout", "/proc/self/fd/1"), ("/dev/stderr", "/proc/self/fd/2")]

def devices : List (String × Device) := [
  ("/dev/null", .null), ("/dev/zero", .zero), ("/dev/full", .full), ("/dev/tty", .terminal),
  ("/proc/self/fd/0", .stream 0)]

def directories : List String :=
  ["/dev", "/etc", "/home", "/opt", "/proc", "/proc/self", "/proc/self/fd", "/root", "/run",
    "/srv", "/sys", "/tmp", "/usr/bin", "/usr/include", "/usr/lib", "/usr/local/bin",
    "/usr/local/sbin", "/usr/sbin", "/var/tmp"]

/-- A file system with the programs and the devices of a system. -/
def installSystem (fs : FileSystem) : FileSystem :=
  let programs := (shellNames ++ Utility.names).map fun name =>
    (programDirectory ++ "/" ++ name, Entry.program name)
  let entries := directories.map (fun d => (d, Entry.directory)) ++ programs ++
    links.map (fun (path, target) => (path, Entry.link target)) ++
    devices.map (fun (path, kind) => (path, Entry.device kind))
  entries.foldl (fun fs (path, e) =>
    if (fs.entryAt? (Path.resolve fs.workDir path)).isSome then fs else fs.install path e) fs

end CompilerDriver.Shell
