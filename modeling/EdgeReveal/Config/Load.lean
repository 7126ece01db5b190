import EdgeReveal.Config.Reader
import EdgeReveal.Files.Basic
import EdgeReveal.Text.Utf8

/-!
# Loading a configuration

A path on the command line is taken as it is. Without one, the file at the
default location counts if it is there, and all defaults if it is not. Without
a home folder there may be no such location.
-/
namespace EdgeReveal

/-- What says where configuration is kept: the home folder, if there is one, and the variable that
names another folder. -/
structure ConfigHome where
  home : Option String := none
  xdg : Option String := none
  deriving DecidableEq, Repr, Inhabited

namespace ConfigHome

/-- A relative folder in the variable is ignored. -/
def folder (h : ConfigHome) : Option String :=
  (h.xdg.filter Path.isAbsolute).or (h.home.map (Path.join · ".config"))

end ConfigHome

namespace Config

def folderName : String := "panel-autohide"

def fileName : String := "config.toml"

def defaultPath (h : ConfigHome) : Option String :=
  h.folder.map fun folder => Path.join (Path.join folder folderName) fileName

def read (fs : Files) (path : String) : Except ConfigError Config :=
  match fs.read path with
  | .error cause => .error (.read path cause)
  | .ok bytes =>
    match Text.decodeUtf8? bytes with
    | none => .error (.read path .notUtf8)
    | some text => parse text path

def load (fs : Files) (h : ConfigHome) (explicit : Option String) : Except ConfigError Config :=
  match explicit with
  | some path => read fs path
  | none =>
    match defaultPath h with
    | some path => if fs.contains path then read fs path else .ok {}
    | none => .ok {}

end Config

end EdgeReveal
