import CallWire.Text.Digits
import CallWire.Text.Unprintable

/-!
Quoting for people: a text between quotes, with what cannot be seen or would end the quotation
escaped.
-/

namespace CallWire

structure QuoteStyle where
  escapesSingle : Bool
  escapesDouble : Bool

def QuoteStyle.escape (style : QuoteStyle) (c : Char) : String :=
  match c with
  | '\x00' => "\\0"
  | '\t' => "\\t"
  | '\r' => "\\r"
  | '\n' => "\\n"
  | '\\' => "\\\\"
  | '"' => if style.escapesDouble then "\\\"" else "\""
  | '\'' => if style.escapesSingle then "\\'" else "'"
  | c =>
    if isUnprintable c then
      "\\u\x7b" ++ hexText c.toNat ++ "\x7d"
    else
      c.toString

def quotedChar (c : Char) : String :=
  "'" ++ QuoteStyle.escape ⟨true, false⟩ c ++ "'"

def quotedPath (path : String) : String :=
  "\"" ++ String.join (path.toList.map (QuoteStyle.escape ⟨false, true⟩)) ++ "\""

end CallWire
