namespace LayeredConfig

/-- What was written, and how many more bytes are taken; none is no bound. -/
structure Sink where
  taken : List UInt8
  room : Option Nat
  deriving DecidableEq, Repr

namespace Sink

def unbounded : Sink := ⟨[], none⟩

def bounded (limit : Nat) : Sink := ⟨[], some limit⟩

def writeBytes (sink : Sink) (bytes : List UInt8) : Bool × Sink :=
  match sink.room with
  | none => (true, { sink with taken := sink.taken ++ bytes })
  | some room => (decide (bytes.length ≤ room),
      ⟨sink.taken ++ bytes.take room, some (room - bytes.length)⟩)

def write (sink : Sink) (text : String) : Bool × Sink := sink.writeBytes text.toUTF8.data.toList

/-- Writes texts one after the other, up to the first that is not taken whole. -/
def writeAll (sink : Sink) : List String → Bool × Sink
  | [] => (true, sink)
  | text :: texts => match sink.write text with
    | (true, sink) => sink.writeAll texts
    | (false, sink) => (false, sink)

def bytes (sink : Sink) : ByteArray := ⟨sink.taken.toArray⟩

end Sink

end LayeredConfig
