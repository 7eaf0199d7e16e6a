import NodeFit.Result
import NodeFit.Tree.Decoder

/-!
# NodeFit.Result.Decoder

Reading results back from JSON.

A verdict is its label, or a map from the label to null.  A result must have a
title; a result that was read was not skipped.
-/

namespace NodeFit

open NodeFit.Tree

def Verdict.decode (t : Tree) : Decoded Verdict :=
  let ofLabel := fun label => Decoded.require "fail, warn or pass" (ofLabel? label)
  match t with
  | .text label => ofLabel label
  | .map [(.text label, .null)] => ofLabel label
  | _ => .expected "a verdict"

namespace AnalysisResult

def decode (t : Tree) : Decoded AnalysisResult := do
  let text := decodeText .json
  let r ← decodeRecord .json
    [.of "title" text fun s (_, r) => (true, { r with title := s }),
      .of "iconKey" text fun s (titled, r) => (titled, { r with iconKey := s }),
      .of "iconURI" text fun s (titled, r) => (titled, { r with iconURI := s }),
      .of "verdict" (decodeOption Verdict.decode) fun v (titled, r) =>
        (titled, { r with verdict := v }),
      .of "message" text fun s (titled, r) => (titled, { r with message := s }),
      .of "URI" (decodeOption text) fun s (titled, r) => (titled, { r with uri := s })]
    (false, { failed "" with title := "", verdict := none }) t
  Decoded.require "a title" (if r.1 then some r.2 else none)

end AnalysisResult
end NodeFit
