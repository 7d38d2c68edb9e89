import Steward.Shell.Printing
import Steward.Text.Path

/-!
The files that scripts find: folders, files whose contents nobody looks at, devices and programs. What a
script makes or removes lies over them.
-/
namespace Steward.Shell

open Steward.Text

def existingDirs : List String :=
  ["/", "/bin", "/boot", "/dev", "/etc", "/home", "/lib", "/mnt", "/opt", "/proc", "/root", "/run",
   "/sbin", "/srv", "/sys", "/tmp", "/usr", "/usr/bin", "/usr/lib", "/usr/local", "/usr/local/bin",
   "/usr/sbin", "/usr/share", "/var", "/var/lib", "/var/log", "/var/tmp"]

def plainFiles : List String :=
  ["/etc/passwd", "/etc/group", "/etc/hosts", "/etc/hostname", "/etc/os-release", "/etc/fstab",
   "/proc/loadavg", "/proc/meminfo", "/proc/cpuinfo", "/proc/uptime"]

def deviceFiles : List String := ["/dev/null", "/dev/zero", "/dev/full", "/dev/random", "/dev/urandom"]

def shellNames : List String := ["sh", "bash", "dash"]

/-- The programs that a script can start, without their folder. -/
def toolNames : List String :=
  ["true", "false", "cat", "head", "tail", "tr", "wc", "sleep", "seq", "echo", "printf", "pwd", "test", "[",
   "kill", "env", "basename", "dirname", "yes", "sort", "uniq", "cut", "grep", "tee", "rev", "tac", "expr",
   "id", "whoami", "uname", "rm", "touch", "mkdir", "rmdir", "mktemp", "ls", "dd", "timeout", "which",
   "printenv", "nohup", "nice", "setsid", "sync"] ++ shellNames

/-- Parts of a path with `..` taking the part before it away. -/
def resolvedParts (parts : List String) : List String :=
  (parts.foldl (fun done part =>
    if part = ".." then done.drop 1 else if part = "" || part = "." then done else part :: done) []).reverse

/-- The path from the root that a path means in a folder. -/
def absolutePath (cwd path : String) : String :=
  "/" ++ "/".intercalate (resolvedParts ((if Path.isAbsolute path then path else cwd ++ "/" ++ path).splitOn "/"))

/-- The tool at a path from the root, or under a name without a folder. -/
def toolName? (program : String) : Option String :=
  let name := ((program.splitOn "/").getLast?).getD ""
  let isPath := program.toList.contains '/'
  let isThere := !isPath ||
    (Path.isAbsolute program && ["/bin/" ++ name, "/usr/bin/" ++ name].contains (absolutePath "/" program))
  if toolNames.contains name && isThere then some name else none

def fileExists (path : String) : Bool :=
  existingDirs.contains path || plainFiles.contains path || deviceFiles.contains path ||
    (path.toList.contains '/' && (toolName? path).isSome)

/-- What a script changed: files with their contents or without any when they are gone, and folders. -/
structure Changes where
  files : List (String × Option Bytes)
  folders : List String
deriving DecidableEq

inductive Found where
  | folder
  | device
  | file (contents : Bytes)
  | nothing
deriving DecidableEq

/-- What stands at an absolute path. -/
def Changes.find (c : Changes) (path : String) : Found :=
  match c.files.lookup path with
  | some (some contents) => .file contents
  | some none => .nothing
  | none =>
    if existingDirs.contains path || c.folders.contains path then .folder
    else if deviceFiles.contains path then .device
    else if fileExists path then .file []
    else .nothing

def Changes.put (c : Changes) (path : String) (contents : Option Bytes) : Changes :=
  { c with files := (path, contents) :: c.files.filter (·.1 != path) }

/-- The folder that holds a path. -/
def folderOf (path : String) : String := (Path.parent? path).getD "/"

end Steward.Shell
