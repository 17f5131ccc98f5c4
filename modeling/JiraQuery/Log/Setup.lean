import JiraQuery.Disk
import JiraQuery.Log.Filter

/-!
# Setting up a log

A program has one log at most: in a file of the day, or on the error output. Once there is one, every
further attempt fails, though the directory and the file of the day are made all the same.
-/

namespace JiraQuery

/-- The version that the log states. -/
def libraryVersion : String := "0.1.0"

namespace Log

/-- Appends a step to a path. -/
def joinPath (path step : String) : String :=
  if Disk.endsInSlash path then path ++ step else path ++ "/" ++ step

/-- The user's directory for data, given the home directory and the variable for it, which counts
only if it is an absolute path. -/
def dataDirectory (home : String) (dataHome : Option String) : String :=
  match dataHome with
  | some path => if path.toList.head? = some '/' then path else joinPath home ".local/share"
  | none => joinPath home ".local/share"

/-- The directory for log files, within the one for data. -/
def directory (data : String) : String :=
  joinPath (joinPath data "jqlkit") "logs"

/-- The log file of a day. -/
def fileName (date : String) : String :=
  "jqlkit.log." ++ date

end Log

inductive LogError
  /-- The directory for log files cannot be made. -/
  | io
  /-- There is a log already. -/
  | installed
  deriving DecidableEq, Repr

/-- The message, where it is not left to the part that failed. -/
def LogError.message? : LogError → Option String
  | io => none
  | installed => some "a global default trace dispatcher has already been set"

/-- A program, as far as its log goes. -/
structure LogHost where
  disk : Disk := {}
  /-- The filter in force, if there is a log. -/
  installed : Option LogFilter := none
  /-- What got through the filter. -/
  lines : List Event := []

namespace LogHost

def tell (h : LogHost) (e : Event) : LogHost :=
  if h.installed.any (·.allows e) then { h with lines := h.lines ++ [e] } else h

/-- Makes a filter the one in force, unless there is one. -/
def install (h : LogHost) (filter : LogFilter) : Except LogError Unit × LogHost :=
  if h.installed.isSome then (.error .installed, h)
  else (.ok (), { h with installed := some filter })

/-- Logs to a file of the day below a directory for data. -/
def startFile (h : LogHost) (filter : LogFilter) (data date : String) :
    Except LogError Unit × LogHost :=
  let directory := Log.directory data
  match h.disk.makeDirectories directory with
  | (false, disk) => (.error .io, { h with disk })
  | (true, disk) =>
    let disk := (disk.write? (Log.joinPath directory (Log.fileName date)) "").getD disk
    match { h with disk }.install filter with
    | (.error e, h) => (.error e, h)
    | (.ok (), h) =>
      let started : Event := {
        level := .info, target := "jqlkit::logging", message := "jqlkit logging started"
        fields := [("version", Text.Escaped.quoted libraryVersion)] }
      let place : Event := {
        level := .debug, target := "jqlkit::logging", message := "Log directory"
        fields := [("log_dir", directory)] }
      (.ok (), (h.tell started).tell place)

/-- Logs to the error output. -/
def startErrorOutput (h : LogHost) (filter : LogFilter) : Except LogError Unit × LogHost :=
  h.install filter

end LogHost

end JiraQuery
