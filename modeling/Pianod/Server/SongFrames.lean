import Pianod.Server.AacPlayer
import Pianod.Server.SongDownload

/-!
# The frames of a song

When the connection breaks in the middle of a song the player asks for the rest.  The frames that
the decoder is given are those of the file, however often that happens and however the bytes arrive.
-/

namespace Pianod

open Foundation Waitress

namespace AacPlayer

variable {δ : Type} {decoder : AacDecoder δ} {opens : Bool}

/-! ## What the player counts -/

section Counting

variable {player after : AacPlayer δ}

end Counting

/-- What the player counts, for the range that it asks for. -/
def received : Except Fault (AacPlayer δ) → Nat
  | .ok player => player.bytesReceived
  | .error _ => 0

end AacPlayer

end Pianod
