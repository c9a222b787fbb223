import VibeDPN.Api.Exits

namespace VibeDPN

open Text

def Files.Same (files before : Files) : Prop := ∀ file, files.get? file = before.get? file

namespace Box

variable {Text : Type} [DecidableEq Text] {validate : Text → Option Config} {b : Box Text}
  {change : Change Text} {run : EditRun}

end Box

namespace ExitBox

variable (b : ExitBox) (name : WgName) {text : String}

end ExitBox

end VibeDPN
