import ReplSend.Text.Encoding

/-!
# Codecs

What is needed of an encoding, and the encodings that a machine has by name: UTF-8, Latin-1 and
ASCII under all their names, and maybe others.
-/

namespace ReplSend

/-- An encoding; there is no answer for what it cannot encode or decode. -/
structure Codec where
  encode? : Text → Option Bytes
  /-- What a file holds in which a text was written. -/
  written? : Text → Option Bytes
  decode? : Bytes → Option Text

def Encoding.codec (e : Encoding) : Codec := ⟨e.encode?, e.encode?, e.decode?⟩

/-- The codecs of a machine by name. -/
structure Codecs where
  find? : Text → Option Codec
  known : ∀ {name : Text} {e : Encoding}, Encoding.ofName? name = some e → find? name = some e.codec

namespace Codecs

/-- A machine that has no other encodings. -/
def basic : Codecs where
  find? name := (Encoding.ofName? name).map (·.codec)
  known h := by rw [h, Option.map_some]

end Codecs

end ReplSend
