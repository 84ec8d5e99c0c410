import TeamsRehook.Platform

/-!
# Reading a body

`_read_limited_body`: the body of a request is read from its stream chunk by chunk, up to a limit. What it returns is
the `body` of a `WebhookRequest`; for a `PayloadTooLargeError` it is the partial body of the error.
-/

namespace TeamsRehook

/-- The loop over `request.stream()`, from the chunks that are read and their length. -/
def readChunks (limit : Nat) : List Bytes → List Bytes → Nat → Except Bytes Bytes
  | [], chunks, _ => .ok chunks.flatten
  | chunk :: stream, chunks, total =>
    if chunk = [] then readChunks limit stream chunks total
    else
      let nextTotal := total + chunk.length
      if limit < nextTotal then
        let allowed := limit - total
        .error (if allowed = 0 then chunks else chunks ++ [chunk.take allowed]).flatten
      else readChunks limit stream (chunks ++ [chunk]) nextTotal

/-- `_read_limited_body`, for the `Content-Length` header and the chunks of the stream. -/
def readLimitedBody (P : Platform) (maxBytes : Int) (contentLengthHeader : Option String) (stream : List Bytes) :
    Except Bytes Bytes :=
  let limit := max 0 maxBytes
  let contentLength := Python.strip (contentLengthHeader.getD "")
  -- a length that is no integer counts as 0
  if contentLength ≠ "" ∧ limit < (P.intOfText contentLength).getD 0 then .error []
  else readChunks limit.toNat stream [] 0

end TeamsRehook
