import FusionGuards.Json.Token

/-! A value is read from its tokens by a machine whose state is the stack of containers still open and what may come
next. `Reading.run` is a fold, so a value's tokens act on the stack the same way whatever follows. -/

namespace FusionGuards.Json

/-- A container that is still open, its contents so far in reverse. -/
inductive Frame
  | array (elements : List Json)
  | object (members : List (Str × Json)) (key : Str)

inductive Reading
  | value (frames : List Frame)
  | elementOrEnd (frames : List Frame)
  | keyOrEnd (frames : List Frame)
  | key (frames : List Frame) (members : List (Str × Json))
  | colon (frames : List Frame) (members : List (Str × Json)) (key : Str)
  | done (frames : List Frame) (value : Json)

namespace Reading

def begin (frames : List Frame) : Token → Option Reading
  | .null => some (.done frames .null)
  | .bool b => some (.done frames (.bool b))
  | .number n => some (.done frames (.number n))
  | .string s => some (.done frames (.string s))
  | .openBracket => some (.elementOrEnd frames)
  | .openBrace => some (.keyOrEnd frames)
  | _ => none

def step : Reading → Token → Option Reading
  | .value frames, t => begin frames t
  | .elementOrEnd frames, .closeBracket => some (.done frames (.array []))
  | .elementOrEnd frames, t => begin (.array [] :: frames) t
  | .keyOrEnd frames, .closeBrace => some (.done frames (.object []))
  | .keyOrEnd frames, .string k => some (.colon frames [] k)
  | .key frames members, .string k => some (.colon frames members k)
  | .colon frames members k, .colon => some (.value (.object members k :: frames))
  | .done (.array es :: frames) v, .comma => some (.value (.array (v :: es) :: frames))
  | .done (.array es :: frames) v, .closeBracket => some (.done frames (.array (v :: es).reverse))
  | .done (.object ms k :: frames) v, .comma => some (.key frames ((k, v) :: ms))
  | .done (.object ms k :: frames) v, .closeBrace => some (.done frames (.object ((k, v) :: ms).reverse))
  | _, _ => none

def run (r : Reading) (ts : List Token) : Option Reading := ts.foldlM step r

def result? : Reading → Option Json
  | .done [] v => some v
  | _ => none

end Reading

/-- The containers that a reader looks into may nest this deep in a text. -/
def depthLimit : Nat := 127

def read (s : String) : Option Json := do
  let ts ← Token.scan s.toList
  let r ← (Reading.value []).run ts
  r.result?

end FusionGuards.Json
