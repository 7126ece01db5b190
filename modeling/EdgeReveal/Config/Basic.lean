import EdgeReveal.PanelSettings
import EdgeReveal.Settings
import EdgeReveal.Toml.Printer

/-!
# Configuration

The two groups of settings and how they are written: one section each, a line
per setting that is there.
-/
namespace EdgeReveal

structure Config where
  autohide : Settings := {}
  panel : PanelSettings := {}
  deriving DecidableEq, Repr, Inhabited

namespace Config

def settingsKeys : List String :=
  ["threshold-hidden-y", "threshold-visible-y", "delay-show", "delay-hide", "check-interval",
    "consecutive-checks-before-visible"]

def panelKeys : List String := ["output", "on-show", "on-hide", "emit-json"]

def sectionKeys : List String := ["autohide", "panel"]

def line (key : String) (value : List Char) : List Char :=
  key.toList ++ " = ".toList ++ value ++ ['\n']

def wordLine (key : String) (value : UInt32) : List Char := line key (Nat.toDigits 10 value.toNat)

/-- A text that is absent has no line. -/
def textLine (key : String) : Option String → List Char
  | some value => line key (Toml.writeString value.toList)
  | none => []

def settingsLines (s : Settings) : List Char :=
  wordLine "threshold-hidden-y" s.thresholdHidden ++
    wordLine "threshold-visible-y" s.thresholdVisible ++
    wordLine "delay-show" s.delayShow ++
    wordLine "delay-hide" s.delayHide ++
    wordLine "check-interval" s.checkInterval ++
    wordLine "consecutive-checks-before-visible" s.showChecks

def panelLines (p : PanelSettings) : List Char :=
  textLine "output" p.output ++ textLine "on-show" p.onShow ++ textLine "on-hide" p.onHide ++
    line "emit-json" (if p.emitJson then "true".toList else "false".toList)

def toToml (c : Config) : String :=
  String.ofList
    ("[autohide]\n".toList ++ settingsLines c.autohide ++ ['\n'] ++ "[panel]\n".toList ++
      panelLines c.panel)

def validated (c : Config) : Config := { c with autohide := c.autohide.validated }

end Config

end EdgeReveal
