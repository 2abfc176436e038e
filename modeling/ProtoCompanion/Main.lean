/-
Module: ProtoCompanion.Main
Purpose: The protoc plugin that writes outlines.
Main exports: main
-/
import ProtoCompanion.Exchange.Transport
import ProtoCompanion.Outline.Generator

namespace ProtoCompanion

open Wire (Bytes)

/-- Actions of the process that fail with an error of the library. -/
abbrev Process : Type → Type := ExceptT Error IO

/-- An action whose failure is one of the channel. -/
def channel {α : Type} (action : IO α) : Process α :=
  ExceptT.mk (do
    match ← action.toBaseIO with
    | .ok value => return .ok value
    | .error error => return .error (.transfer (toString error)))

/-- The channel to protoc that a process has: the request has been read already. -/
def standardOutput (request : Bytes) : Transport Process where
  readAll := pure request
  write := fun bytes => channel (do
    (← IO.getStdout).write ⟨bytes.toArray⟩
    return bytes.length)
  flush := channel (do (← IO.getStdout).flush)

/-- Read the request, take the options of the plugin from it, and answer it. -/
def runOutline : Process Unit := do
  let bytes ← channel (do (← IO.getStdin).readBinToEnd)
  let request := bytes.toList
  let options ← ExceptT.mk (pure ((CodeRequest.decode request).map fun decoded =>
    Outline.Options.ofParameters decoded.parameters))
  serve (standardOutput request) (Outline.generator options) ()

end ProtoCompanion

def main : IO UInt32 := do
  match ← ProtoCompanion.runOutline.run with
  | .ok () => return 0
  | .error error =>
      IO.eprintln error.message
      return 1
