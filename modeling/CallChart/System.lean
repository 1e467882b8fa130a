import CallChart.Engine

namespace CallChart.System

def directories : List Path :=
  [[], ["boot"], ["dev"], ["dev", "shm"], ["etc"], ["home"], ["media"], ["mnt"],
    ["opt"], ["proc"], ["root"], ["run"], ["run", "lock"], ["srv"], ["sys"], ["tmp"], ["usr"],
    ["usr", "bin"], ["usr", "games"], ["usr", "include"], ["usr", "lib"], ["usr", "local"],
    ["usr", "local", "bin"], ["usr", "local", "sbin"], ["usr", "sbin"], ["usr", "share"],
    ["usr", "src"], ["var"], ["var", "cache"], ["var", "lib"], ["var", "log"], ["var", "tmp"]]

def links : List (Path × String) :=
  [(["bin"], "usr/bin"), (["sbin"], "usr/sbin"), (["lib"], "usr/lib"), (["lib64"], "usr/lib64"),
    (["var", "run"], "/run"), (["var", "lock"], "/run/lock"), (["usr", "bin", "sh"], "dash"),
    (["usr", "bin", "awk"], "mawk"), (["usr", "bin", "nawk"], "mawk"),
    (["usr", "bin", "which"], "which.debianutils")]

def devices : List String := ["null", "zero", "full", "random", "urandom", "tty", "ptmx", "console"]

structure User where
  name : String
  number : Nat
  home : String
  deriving DecidableEq, Repr

def users : List User :=
  [⟨"root", 0, "/root"⟩, ⟨"daemon", 1, "/usr/sbin"⟩, ⟨"bin", 2, "/bin"⟩, ⟨"sys", 3, "/dev"⟩,
    ⟨"sync", 4, "/bin"⟩, ⟨"games", 5, "/usr/games"⟩, ⟨"man", 6, "/var/cache/man"⟩,
    ⟨"lp", 7, "/var/spool/lpd"⟩, ⟨"mail", 8, "/var/mail"⟩, ⟨"news", 9, "/var/spool/news"⟩,
    ⟨"uucp", 10, "/var/spool/uucp"⟩, ⟨"proxy", 13, "/bin"⟩, ⟨"www-data", 33, "/var/www"⟩,
    ⟨"backup", 34, "/var/backups"⟩, ⟨"list", 38, "/var/list"⟩, ⟨"irc", 39, "/run/ircd"⟩,
    ⟨"_apt", 42, "/nonexistent"⟩, ⟨"nobody", 65534, "/nonexistent"⟩]

def groups : List (String × Nat) :=
  [("root", 0), ("daemon", 1), ("bin", 2), ("sys", 3), ("adm", 4), ("tty", 5), ("disk", 6),
    ("lp", 7), ("mail", 8), ("news", 9), ("uucp", 10), ("man", 12), ("proxy", 13), ("kmem", 15),
    ("dialout", 20), ("fax", 21), ("voice", 22), ("cdrom", 24), ("floppy", 25), ("tape", 26),
    ("sudo", 27), ("audio", 29), ("dip", 30), ("www-data", 33), ("backup", 34), ("operator", 37),
    ("list", 38), ("irc", 39), ("src", 40), ("shadow", 42), ("utmp", 43), ("video", 44),
    ("sasl", 45), ("plugdev", 46), ("staff", 50), ("games", 60), ("users", 100),
    ("nogroup", 65534)]

def passwd : String :=
  String.join (users.map fun u =>
    let group := if u.name = "sync" then 65534 else if u.name = "games" then 60
      else if u.name = "man" then 12 else u.number
    let title := if u.name = "list" then "Mailing List Manager"
      else if u.name = "irc" then "ircd"
      else if u.name = "_apt" then "" else u.name
    let shell := if u.name = "root" then "/bin/bash"
      else if u.name = "sync" then "/bin/sync" else "/usr/sbin/nologin"
    ":".intercalate [u.name, "x", toString u.number, toString group, title, u.home, shell] ++ "\n")

def texts : List (Path × String) :=
  [(["etc", "passwd"], passwd), (["etc", "hosts"], "127.0.0.1\tlocalhost\n"),
    (["etc", "hostname"], "localhost\n"), (["etc", "group"],
      String.join (groups.map fun g => g.1 ++ ":x:" ++ toString g.2 ++ ":\n")),
    (["etc", "shells"], "# /etc/shells: valid login shells\n/bin/sh\n/usr/bin/sh\n/bin/bash\n" ++
      "/usr/bin/bash\n/bin/rbash\n/usr/bin/rbash\n/usr/bin/dash\n")]

def programs : List String :=
  ["[", "arch", "b2sum", "base32", "base64", "basename", "basenc", "bash", "cat", "chgrp", "chmod",
    "chown", "cksum", "cmp", "comm", "cp", "csplit", "cut", "dash", "date", "dd", "diff", "dir",
    "dirname", "du", "echo", "egrep", "env", "expand", "expr", "factor", "false", "fgrep", "find",
    "fmt", "fold", "getopt", "grep", "groups", "gunzip", "gzip", "head", "hostname", "id",
    "install", "join", "kill", "link", "ln", "logname", "ls", "mawk", "md5sum", "mkdir", "mkfifo",
    "mktemp", "mv", "nice", "nl", "nohup", "nproc", "numfmt", "od", "paste", "pathchk", "pr",
    "printenv", "printf", "pwd", "readlink", "realpath", "rev", "rm", "rmdir", "sed", "seq",
    "setsid", "sha1sum", "sha224sum", "sha256sum", "sha384sum", "sha512sum", "shuf", "sleep",
    "sort", "split", "stat", "stdbuf", "sum", "sync", "tac", "tail", "tee", "test", "timeout",
    "touch", "tr", "true", "truncate", "tsort", "tty", "uname", "unexpand", "uniq", "unlink",
    "vdir", "wc", "which.debianutils", "whoami", "xargs", "yes", "zcat"]

def program? : Path → Option String
  | ["usr", "bin", name] => if programs.contains name then some name else none
  | _ => none

def searchPath : List String :=
  ["/usr/local/sbin", "/usr/local/bin", "/usr/sbin", "/usr/bin", "/sbin", "/bin"]

end CallChart.System

namespace CallChart.Ending

def ofStatus (n : Nat) : Ending := .status (n % 256)

def code : Ending → Nat
  | .status code => code
  | .signal number => 128 + number

end CallChart.Ending

namespace CallChart.Signal

def count : Nat := 65

def firstFree : Nat := 34

def lastFree : Nat := 64

def cannotBeCaught (number : Nat) : Bool := [9, 19].contains number

def isHarmless (number : Nat) : Bool := [17, 18, 23, 28].contains number

def stops (number : Nat) : Bool := (19 ≤ number && number ≤ 22)

/-- A signal as shells write it. Some have only a number, and zero is the end of the process. -/
def shellName (number : Nat) : String :=
  if number = 0 then "EXIT"
  else if number = 16 then "16"
  else if number < 32 then (names.lookup number).getD (toString number)
  else if number < firstFree then toString number
  else if number = firstFree then "RTMIN"
  else if number < 50 then "RTMIN+" ++ toString (number - firstFree)
  else if number < lastFree then "RTMAX-" ++ toString (lastFree - number)
  else "RTMAX"

def description (number : Nat) : String :=
  match number with
  | 1 => "Hangup"
  | 2 => "Interrupt"
  | 3 => "Quit"
  | 4 => "Illegal instruction"
  | 5 => "Trace/breakpoint trap"
  | 6 => "Aborted"
  | 7 => "Bus error"
  | 8 => "Floating point exception"
  | 9 => "Killed"
  | 10 => "User defined signal 1"
  | 11 => "Segmentation fault"
  | 12 => "User defined signal 2"
  | 13 => "Broken pipe"
  | 14 => "Alarm clock"
  | 15 => "Terminated"
  | 16 => "Stack fault"
  | 17 => "Child exited"
  | 18 => "Continued"
  | 19 => "Stopped (signal)"
  | 20 => "Stopped"
  | 21 => "Stopped (tty input)"
  | 22 => "Stopped (tty output)"
  | 23 => "Urgent I/O condition"
  | 24 => "CPU time limit exceeded"
  | 25 => "File size limit exceeded"
  | 26 => "Virtual timer expired"
  | 27 => "Profiling timer expired"
  | 28 => "Window changed"
  | 29 => "I/O possible"
  | 30 => "Power failure"
  | 31 => "Bad system call"
  | n =>
    if firstFree ≤ n ∧ n ≤ lastFree then "Real-time signal " ++ toString (n - firstFree)
    else "Unknown signal " ++ toString n

end CallChart.Signal
