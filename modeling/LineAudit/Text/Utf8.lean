/-!
Texts stored as bytes.
-/

namespace LineAudit.Text

/-- The text that bytes hold in UTF-8, or nothing when they are not valid. -/
def decode? (bytes : ByteArray) : Option String := String.fromUTF8? bytes

def dropByteOrderMark (s : String) : String :=
  match s.toList with
  | '\uFEFF' :: rest => String.ofList rest
  | _ => s

end LineAudit.Text
