import Copydesk.Data.Json
import Copydesk.Report.Basic

/-! Reports for programs: a JSON object on each line. -/

namespace Copydesk

open Data (Value)

def jsonObject (fields : List (String × Value)) : Value :=
  .table (fields.map fun (k, v) => (k.toList, v))

def jsonLines (records : List Value) : Text :=
  records.flatMap fun v => Data.Json.write v ++ ['\n']

def jsonNat (n : Nat) : Value := .int n

/-- The fields of an alert; a description or a link that is empty is left out. -/
def Alert.jsonFields (a : Alert) : List (String × Value) :=
  [("check", .str a.check), ("level", .str a.level.name), ("message", .str a.message)]
    ++ (if a.description.isEmpty then [] else [("description", .str a.description)])
    ++ (if a.link.isEmpty then [] else [("link", .str a.link)])
    ++ [("line", jsonNat a.line), ("span", .list [jsonNat a.span.start, jsonNat a.span.stop]),
      ("match", .str a.matched)]

namespace Report

def alertRecord (path : Text) (a : Alert) : Value :=
  jsonObject (("type", .str "alert") :: ("file", .str path) :: a.jsonFields)

def failureRecord (path : Text) (e : LintError) : Value :=
  jsonObject [("type", .str "error"), ("file", .str path), ("message", .str e.message)]

def summaryRecord (r : Report) : Value :=
  jsonObject [("type", .str "summary"), ("files", jsonNat r.files.length),
    ("rules", jsonNat r.ruleCount), ("errors", jsonNat (r.count .error)),
    ("warnings", jsonNat (r.count .warning)), ("suggestions", jsonNat (r.count .suggestion)),
    ("failures", jsonNat r.failures.length)]

/-- The alerts, then the failures, then a summary. -/
def toJsonLines (r : Report) : Text :=
  jsonLines (r.alerts.map (fun (p, a) => alertRecord p a)
    ++ r.failures.map (fun (p, e) => failureRecord p e) ++ [r.summaryRecord])

end Report

end Copydesk
