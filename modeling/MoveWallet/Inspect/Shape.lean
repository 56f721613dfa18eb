import MoveWallet.Inspect.Basic
import MoveWallet.Wire.Shape

/-! # Plain values shown as JSON

A value is shown as its shape says, so a list of bytes is a list of numbers and not a byte string.
-/

namespace MoveWallet.Inspect

instance (shape : Shape) : Inspect shape.Value :=
  Shape.every Inspect inferInstance inferInstance inferInstance inferInstance inferInstance
    inferInstance inferInstance inferInstance inferInstance (fun _ => inferInstance)
    (fun _ => inferInstance) (fun _ => inferInstance) shape

end MoveWallet.Inspect
