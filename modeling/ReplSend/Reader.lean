import ReplSend.Text.Encoding

/-!
# Reading output

The output of a process arrives in reads of limited size. Each read is decoded as far as it can be,
and what is decoded is passed on unless it is empty. An empty read is the end of the output; a
failed one ends the reading without it.
-/

namespace ReplSend

/-- The result of one attempt to read. -/
inductive Read where
  | bytes (bs : Bytes)
  | fault
  deriving DecidableEq, Repr

namespace Read

/-- The most bytes that one read gives. -/
def size : Nat := 4096

/-- The bytes in parts of the given size. -/
def parts (size : Nat) (bs : Bytes) : List Bytes :=
  (List.range' 0 ((bs.length + size - 1) / size)).map fun i => (bs.drop (i * size)).take size

/-- The reads that deliver these, each of limited size. -/
def limited : Read → List Read
  | fault => [fault]
  | bytes [] => [bytes []]
  | bytes bs => (parts size bs).map bytes

/-- The text as a chunk, if there is any. -/
def chunk (t : Text) : List Text := if t.isEmpty then [] else [t]

/-- The chunks that are passed on, when `held` is held back at first. -/
def chunksFrom (e : Encoding) (held : Bytes) : List Read → List Text
  | [] | bytes [] :: _ => chunk (e.decodeSome held [] true).1
  | fault :: _ => []
  | bytes bs :: rest =>
    let (t, held) := e.decodeSome held bs false
    chunk t ++ chunksFrom e held rest

/-- The chunks that are passed on. -/
def chunks (e : Encoding) (reads : List Read) : List Text :=
  chunksFrom e [] (reads.flatMap limited)

end Read

end ReplSend
