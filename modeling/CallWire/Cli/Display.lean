import CallWire.Cli.Options
import CallWire.Cli.Summary
import CallWire.Text.Columns

/-!
How a summary is shown: as JSON, as a table, on one line, or as nothing but the payload.
-/

namespace CallWire

def padded (width : Nat) (cell : String) : String :=
  " " ++ cell ++ String.ofList (List.replicate (width - columns cell) ' ') ++ " "

def ruledLine (left line cross right : Char) (first second : Nat) : String :=
  String.ofList ([left] ++ List.replicate (first + 2) line ++ [cross] ++
    List.replicate (second + 2) line ++ [right])

def tableRow (first second : Nat) (cells : String × String) : String :=
  "│" ++ padded first cells.1 ++ "┆" ++ padded second cells.2 ++ "│"

def widest (cells : List String) : Nat := (cells.map columns).foldl max 0

/-- A table of two columns, each as wide as its widest cell. -/
def tableText (header : String × String) (rows : List (String × String)) : String :=
  let first := widest (header.1 :: rows.map (·.1))
  let second := widest (header.2 :: rows.map (·.2))
  let lines :=
    [ruledLine '┌' '─' '┬' '┐' first second, tableRow first second header,
      ruledLine '╞' '═' '╪' '╡' first second] ++
      (rows.map (tableRow first second)).intersperse (ruledLine '├' '╌' '┼' '┤' first second) ++
      [ruledLine '└' '─' '┴' '┘' first second]
  "\n".intercalate lines

namespace Summary

def rows (s : Summary) : List (String × String) :=
  [("type", s.typeName), ("call_id", toString s.callId)] ++
    (s.methodId.map fun method => ("method_id", "0x" ++ hexText method.toNat)).toList ++
    (s.objectId.map fun object => ("object_id", toString object)).toList ++
    [("size", toString s.payloadSize), ("payload", s.payloadHex)] ++
    (s.value.map fun value => ("value", value)).toList

/-- One line, with the decoded value in place of the payload if there is one. -/
def line (s : Summary) : String :=
  let ids :=
    match s.methodId, s.objectId with
    | some method, some object => s!" method=0x{hexText method.toNat} object={object}"
    | _, _ => ""
  let content :=
    match s.value with
    | some value => s!" value={value}"
    | none => s!" payload={s.payloadHex}"
  s!"{s.typeName} call_id={s.callId}{ids} size={s.payloadSize}{content}"

/-- What is printed. Texts end their line; a raw payload stands alone. -/
def display (s : Summary) : OutputFormat → Bytes
  | .json => Bytes.ofText (s.json ++ "\n")
  | .table => Bytes.ofText (tableText ("FIELD", "VALUE") s.rows ++ "\n")
  | .pretty => Bytes.ofText (s.line ++ "\n")
  | .raw => s.payload

end Summary
end CallWire
