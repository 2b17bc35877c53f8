import ScaffoldRunner.Frame.Error
import ScaffoldRunner.Json.Parser
import ScaffoldRunner.Redaction
import ScaffoldRunner.Text.Basic

/-!
# Responses of frames

A script answers with a JSON object on a line of its own, one of the last lines that it prints.
A response may report a failure; otherwise the members of a nested result are laid over it.
-/

namespace ScaffoldRunner.Response

/-- Whether a line starts and ends as an object does. -/
def looksLikeObject (line : List Char) : Bool :=
  line.head? = some '{' && line.getLast? = some '}'

/-- The object on a line, if it holds one and nothing else. -/
def objectOn? (line : List Char) : Option Members :=
  if looksLikeObject line then (Json.parseChars? line).bind Json.members? else none

/-- The lines of an output without their outer blanks, those that are left with nothing
dropped. -/
def solidLines (stdout : String) : List (List Char) :=
  ((Text.lineChars stdout.toList).map Text.trimChars).filter fun line => !line.isEmpty

/-- The last object among the last lines of an output. -/
def lastObject? (stdout : String) (window : Nat) : Option Members :=
  ((solidLines stdout).reverse.take window).findSome? objectOn?

def reportedFailure? (response : Members) : Option String :=
  if response.get? "success" = some (.bool false) then
    (response.get? "error").map fun
      | .str s => s
      | j => j.compact
  else none

/-- A response with the members of its nested result laid over it. -/
def flatten (response : Members) : Members :=
  match response.get? "result" with
  | some (.obj inner) => Dict.overlay response inner
  | _ => response

/-- The output of a frame that gave a response. -/
def normalize (response : Members) : Except FrameError Members :=
  match reportedFailure? response with
  | some text => .error (.reported (Redaction.sanitize text))
  | none => .ok (flatten response)

end ScaffoldRunner.Response
