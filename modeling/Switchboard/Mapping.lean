import Switchboard.Action

/-!
# Mappings

A mapping binds an action to the handler that carries it out and to the flags that say how the
handler runs. What a handler is, is left open: the registry only keeps it and hands it back.

There are three flags: whether the action may be in flight twice, whether it takes the one dialog
slot, and whether it has to run on the UI thread. The first two make an accepted request hold
something that a later `finish` gives back (`Flags.needsFinish`); the last two send it through the
dispatcher (`Flags.needsUiThread`).
-/

namespace Switchboard

/-- The execution flags of a mapping. -/
structure Flags where
  /-- At most one run may be in flight; a run is over when the action is finished. -/
  blocks : Bool := false
  /-- The action opens a modal dialog, of which there is at most one. -/
  dialog : Bool := false
  /-- The handler runs on the UI thread. -/
  uithread : Bool := false
  deriving DecidableEq, Inhabited

namespace Flags

/-- No flag: the handler runs where it is triggered, any number of times at once. -/
def none : Flags := {}

/-- The flags with `blocks` set. -/
def blocking (f : Flags) : Flags := { f with blocks := true }

/-- The flags with `dialog` set. -/
def asDialog (f : Flags) : Flags := { f with dialog := true }

/-- The flags with `uithread` set. -/
def onUiThread (f : Flags) : Flags := { f with uithread := true }

/-- The handler goes through the dispatcher. -/
def needsUiThread (f : Flags) : Bool := f.uithread || f.dialog

/-- A run holds the busy flag or the dialog slot until it is finished. -/
def needsFinish (f : Flags) : Bool := f.blocks || f.dialog

/-- Three characters, one for each flag in order, with `-` for a flag that is not set. -/
def render (f : Flags) : String :=
  String.ofList [if f.blocks then 'b' else '-', if f.dialog then 'd' else '-',
    if f.uithread then 'u' else '-']

/-- The flags as they appear inside the descriptions of mappings and invocations. -/
def inspect (f : Flags) : String :=
  s!"ActionFlags \x7b blocks: {f.blocks}, dialog: {f.dialog}, uithread: {f.uithread} \x7d"

end Flags

/-- A binding of an action to a handler of type `H`. -/
structure Mapping (H : Type) where
  /-- The action that is bound. -/
  action : Action
  /-- What carries the action out. -/
  handler : H
  /-- How the handler runs. -/
  flags : Flags := {}

namespace Mapping

variable {H : Type}

/-- The mapping with other flags in place of its own. -/
def withFlags (m : Mapping H) (f : Flags) : Mapping H := { m with flags := f }

/-- The mapping with `blocks` set. -/
def blocking (m : Mapping H) : Mapping H := m.withFlags m.flags.blocking

/-- The mapping with `dialog` set. -/
def asDialog (m : Mapping H) : Mapping H := m.withFlags m.flags.asDialog

/-- The mapping with `uithread` set. -/
def onUiThread (m : Mapping H) : Mapping H := m.withFlags m.flags.onUiThread

/-- A one-line description; the handler has none. -/
def inspect (m : Mapping H) : String :=
  s!"ActionMapping \x7b action: {m.action.label}, flags: {m.flags.inspect}, .. \x7d"

end Mapping

end Switchboard
