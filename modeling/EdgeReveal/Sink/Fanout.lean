import EdgeReveal.PanelSettings
import EdgeReveal.Sink.JsonLines
import EdgeReveal.Sink.Launcher

/-!
# Several sinks as one

A fan-out hands each rendering to its sinks in order. The panel settings say
which sinks the program uses.
-/
namespace EdgeReveal

inductive AnySink where
  | recorder (sink : Recorder)
  | jsonLines (sink : JsonLines)
  | launcher (sink : Launcher)

instance : Sink AnySink where
  apply
    | .recorder sink, rendering => .recorder (Sink.apply sink rendering)
    | .jsonLines sink, rendering => .jsonLines (Sink.apply sink rendering)
    | .launcher sink, rendering => .launcher (Sink.apply sink rendering)

structure Fanout where
  sinks : List AnySink := []

namespace Fanout

instance : Sink Fanout where
  apply fanout rendering := ⟨fanout.sinks.map (Sink.apply · rendering)⟩

def size (fanout : Fanout) : Nat := fanout.sinks.length

def isEmpty (fanout : Fanout) : Bool := fanout.sinks.isEmpty

/-- JSON lines unless they are switched off, and commands if either one is configured. The lines
go to the outlet and the commands to the system that are given. -/
def ofSettings (settings : PanelSettings) (outlet : Outlet := {}) (processes : Processes := {}) :
    Fanout :=
  let lines := if settings.emitJson then [.jsonLines ⟨outlet⟩] else []
  let commands :=
    if settings.onShow.isSome || settings.onHide.isSome then
      [.launcher
        { onShow := settings.onShow, onHide := settings.onHide, processes := processes }]
    else []
  ⟨lines ++ commands⟩

end Fanout

end EdgeReveal
