import Cmpp.Connection.ReadBuffer
import Cmpp.Frame.Assembly

/-!
# Reception

A frame is received by reading, through the read buffer, as many bytes as its assembly wants, until
the frame is complete or refused, the stream ends or fails, or there is nothing to read for now. The
assembly is all that has to be kept meanwhile.
-/

namespace Cmpp

variable {σ : Type}

/-- Read on until the frame is settled or there is nothing to read for now. -/
def Assembly.poll (assembly : Assembly) (version : Version) (io : Transport σ)
    (buffer : ReadBuffer) (line : Line σ) :
    Poll (Except Error (Preamble × Bytes)) × Assembly × ReadBuffer × Line σ :=
  match buffer.read io line assembly.wanted with
  | (.pending woken, buffer, line) => (.pending woken, assembly, buffer, line)
  | (.ready (.error failure), buffer, line) =>
    (.ready (.error (.transport failure)), assembly, buffer, line)
  | (.ready (.ok piece), buffer, line) =>
    if _ : piece = [] then (.ready (.error assembly.truncation), assembly, buffer, line)
    else match _ : assembly.take version piece with
      | .more next => next.poll version io buffer line
      | .complete preamble bytes => (.ready (.ok (preamble, bytes)), assembly, buffer, line)
      | .refused error => (.ready (.error error), assembly, buffer, line)
termination_by (assembly.partsAhead, assembly.wanted)
decreasing_by
  rcases take_more ‹piece ≠ []› ‹assembly.take version piece = .more next› with fewer | ⟨same, less⟩
  · exact Prod.Lex.left _ _ fewer
  · rw [same]
    exact Prod.Lex.right _ less

end Cmpp
