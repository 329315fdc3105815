import Copydesk.Data.Json
import Copydesk.Data.Toml.Document
import Copydesk.Data.Yaml.Resolve
import Copydesk.Error
import Copydesk.Regex.Basic

/-! Files of structured data, read by their extension. -/

namespace Copydesk.Document

def foldedScalar : Regex := Regex.ofString "(\\w: )>(-?\\s*)"

/-- Makes folded block scalars literal, so that their line breaks stay where the source has them. -/
def unfold (t : Text) : Text :=
  foldedScalar.replaceAll t fun m => (m.groupText? 1 t).getD [] ++ '|' :: (m.groupText? 2 t).getD []

/-- Reads a document; the error is one at the first line of the file. -/
def read (content ext path : Text) : Except LintError Data.Value :=
  let t := unfold content
  let malformed (m : Text) : LintError := .malformed path 1 m
  match String.ofList (ext.dropWhile (· == '.')) with
  | "json" => (Data.Json.read t).mapError fun e => malformed e.message
  | "yml" | "yaml" => (Data.Yaml.readValue t).mapError fun e => malformed e.message
  | "toml" => (Data.Toml.read t).map .table |>.mapError fun e => malformed e.message
  | _ => .error (malformed "unsupported file type")

end Copydesk.Document
