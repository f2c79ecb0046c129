import ResponseCheck.Mismatch
import ResponseCheck.Text.Unsigned

/-! A key leads to the entry of an object, and a decimal index to the item of an array. -/

namespace ResponseCheck.Json

/-- The value under a key. A key of an array is a decimal index with an optional plus sign. -/
def child? (key : String) : Json → Option Json
  | .obj entries => get? entries key
  | .arr items => (Text.unsigned? key.toList).bind (items[·]?)
  | _ => none

/-- The value under a key, or the mismatch that there is none. -/
def step (key : String) (value : Json) : Except Mismatch Json :=
  match value.child? key with
  | some next => .ok next
  | none => .error (.navigation key value)

end ResponseCheck.Json
