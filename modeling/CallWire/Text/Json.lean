import CallWire.Text.Digits

/-!
Strings and objects as JSON writes them.
-/

namespace CallWire

/-- Quotation marks, backslashes and control characters are escaped, nothing else. -/
def jsonEscape (c : Char) : String :=
  match c with
  | '"' => "\\\""
  | '\\' => "\\\\"
  | '\x08' => "\\b"
  | '\x0c' => "\\f"
  | '\n' => "\\n"
  | '\r' => "\\r"
  | '\t' => "\\t"
  | c =>
    if c.toNat < 0x20 then
      String.ofList ['\\', 'u', '0', '0', digitChar (c.toNat / 16), digitChar (c.toNat % 16)]
    else
      c.toString

def jsonString (text : String) : String :=
  "\"" ++ String.join (text.toList.map jsonEscape) ++ "\""

/-- An object on one line, of names with values that are written already. -/
def jsonObject (members : List (String × String)) : String :=
  "\x7b" ++ ",".intercalate (members.map fun (key, value) => jsonString key ++ ":" ++ value) ++ "\x7d"

end CallWire
