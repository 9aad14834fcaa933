import AlarmRelay.Config.Sections

/-!
# Finding the configuration file

The first of three files that exists is the configuration.  If it cannot be read
or does not decode, that is an error: no later file takes its place.  Without any
file the defaults hold.
-/

set_option autoImplicit false

namespace AlarmRelay

inductive Location where
  | given (path : String)
  | home (path : String)
  deriving DecidableEq, Repr

inductive Content where
  | file (bytes : ByteArray)
  | directory

abbrev Files := Location → Option Content

/-- Why a configuration file is of no use. -/
inductive ConfigError where
  /-- The file is missing, is a directory, or does not hold text. -/
  | unreadable (location : Location)
  | undecodable (location : Location)
  deriving DecidableEq, Repr

namespace Location

/-- How a location is written; the home directory is a tilde. -/
def text : Location → String
  | .given path => path
  | .home path => "~/" ++ path

end Location

namespace ConfigError

def message : ConfigError → String
  | .unreadable location => "Failed to read config file: " ++ location.text
  | .undecodable location => "Failed to parse config file: " ++ location.text

end ConfigError

namespace Content

def text? : Content → Option String
  | .file bytes => String.fromUTF8? bytes
  | .directory => none

end Content

namespace Config

/-- The locations of the configuration file, the first one first. -/
def searchPath : List Location :=
  [.given "alarmcast.toml", .given "/etc/alarmcast/alarmcast.toml",
    .home ".config/alarmcast/alarmcast.toml"]

def ofFile (environment : Environment) (files : Files) (location : Location) :
    Except ConfigError Config :=
  match (files location).bind Content.text? with
  | none => .error (.unreadable location)
  | some text =>
      match ofText? environment text with
      | none => .error (.undecodable location)
      | some config => .ok config

/-- The settings of the first file that exists, or the defaults. -/
def load (environment : Environment) (files : Files) : Except ConfigError Config :=
  match searchPath.find? (fun location => (files location).isSome) with
  | some location => ofFile environment files location
  | none => .ok (standard environment)

end Config

/-- A world with at most two files, both named like the configuration file: one
in the current directory, one in its place below the home directory. -/
structure Workplace where
  current : Option Content
  home : Option Content

namespace Workplace

/-- Whether a relative path leads to the configuration file of the current
directory. -/
def isCurrent (path : String) : Bool :=
  !path.startsWith "/"
    && (path.splitOn "/").dropWhile (fun part => part == "." || part == "")
      == ["alarmcast.toml"]

def files (workplace : Workplace) : Files
  | .given path => if isCurrent path then workplace.current else none
  | .home path =>
      if path == ".config/alarmcast/alarmcast.toml" then workplace.home else none

end Workplace
end AlarmRelay
