import Stencil.Handler.Basic
import Stencil.Markup.Reader

/-!
# Tags that bind

`assign` binds a variable to a value, `capture` binds one to what its body would have written, and
`increment` and `decrement` count in a register of their own for each name.
-/

namespace Stencil.Tags

/-- Reads markup that is a single name. -/
def readName (markup : String) : Except Error String := Reader.readAll Reader.name markup

/-- Reads a name, an equals sign and a variable. -/
def readAssignment : Read Assignment := do
  let name ← Reader.name
  Reader.expect "="
  return ⟨name, ← Reader.readVariable⟩

/-- The tag that binds a variable globally. -/
def assign : Tag Assignment where
  type := "assign"
  parse := Reader.readAll readAssignment
  render a := do
    let value ← Action.evalVariable a.value
    Action.setGlobal a.name value

/-- What `capture` does: the nodes are rendered into a capture, which is closed in any case. -/
def captureNodes (name : String) (nodes : List Node) : Action Unit := do
  Action.ask .beginCapture
  let outcome : Except Error Unit ← Action.ask (.renderNodes nodes)
  let text : String ← Action.ask .endCapture
  Action.ofExcept outcome
  Action.setGlobal name (.string text)

/-- The block that binds a variable to what its body writes. -/
def capture : Block String Unit where
  type := "capture"
  parse := readName
  render body := captureNodes body.markup body.nodes

/-! ## Counters -/

/-- The register that a counter is kept in. -/
def counterKey (name : String) : String := "counter:" ++ name

/-- Where a counter stands.  One that holds no integer stands at zero. -/
def counter (name : String) : Action Int64 := do
  let value : Option Value ← Action.ask (.register (counterKey name))
  pure ((value.bind Value.asInt?).getD 0)

def setCounter (name : String) (n : Int64) : Action Unit :=
  Action.ask (.setRegister (counterKey name) (.int n))

/-- The tag that writes a counter and then moves it up. -/
def increment : Tag String where
  type := "increment"
  parse := readName
  render name := do
    let n ← counter name
    Action.write (Value.intText n)
    setCounter name (clampInt64 (n.toInt + 1))

/-- The tag that moves a counter down and then writes it. -/
def decrement : Tag String where
  type := "decrement"
  parse := readName
  render name := do
    let n ← counter name
    let n := clampInt64 (n.toInt - 1)
    Action.write (Value.intText n)
    setCounter name n

end Stencil.Tags
