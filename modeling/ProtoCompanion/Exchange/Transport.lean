/-
Module: ProtoCompanion.Exchange.Transport
Purpose: The exchange of a request and a response over a channel.
Main exports: Transport, writeAll, serve
-/
import ProtoCompanion.Exchange.Serialized

namespace ProtoCompanion

open Wire (Bytes)

/-- A channel to protoc.  A write answers how many of the bytes it took. -/
structure Transport (m : Type → Type) where
  readAll : m Bytes
  write : Bytes → m Nat
  flush : m Unit

variable {m : Type → Type} [Monad m] [MonadExceptOf Error m]

/-- Write bytes until all of them are taken.  A channel that takes none has failed. -/
def writeAll (transport : Transport m) (bytes : Bytes) : m Unit :=
  if _ : bytes = [] then pure ()
  else do
    let taken ← transport.write bytes
    if _ : taken = 0 then throw (Error.transfer "failed to write whole buffer")
    else writeAll transport (bytes.drop taken)
termination_by bytes.length
decreasing_by
  have : 0 < bytes.length := List.length_pos_iff.mpr (by assumption)
  simp only [List.length_drop]
  omega

/-- Read a request, and write the response of a generator.  Nothing is written if there is no
response. -/
def serve {σ : Type} (transport : Transport m) (generator : Generator σ) (initial : σ) :
    m Unit := do
  let request ← transport.readAll
  match respond generator initial request with
  | .error error => throw error
  | .ok response =>
      writeAll transport response
      transport.flush

end ProtoCompanion
