import Copydesk.Comment.LineScanner
import Copydesk.Error
import Copydesk.Source.Indented
import Copydesk.Source.Query

/-! The comments of a source file, found in its syntax tree or, for lack of one, line by line. -/

namespace Copydesk.Comment

open Source (Node)

/-- The scope of comments found by a query of some name. -/
def scopeOf (name kind : Text) : Text :=
  "text.comment.".toList ++ (if name.isEmpty then [] else name ++ ['.']) ++ kind

/-- Trims what a language puts before the lines of a block comment. -/
def trimLines (cutset : List Char) (t : Text) : Text :=
  Text.join ['\n'] ((Text.splitOn '\n' t).map fun l => l.dropWhile cutset.contains)

def dropLineEnds (t : Text) : Text := Text.dropEndWhile (fun c => c == '\r' || c == '\n') t

/-- The comment at a node. One of more than two lines, delimiters aside, is a block. -/
def ofNode (l : Language) (source name : Text) (n : Node) : Comment :=
  let raw := n.text source
  let stripped := l.delims.replaceAll raw fun _ => []
  let before := source.take n.start
  let isBlock := 1 < stripped.count '\n'
  { text := if isBlock then trimLines l.cutset stripped else dropLineEnds stripped
    source := if isBlock then raw else dropLineEnds raw
    line := before.count '\n' + 1
    offset := (before.reverse.takeWhile (· != '\n')).length
    scope := scopeOf name (if isBlock then "block" else "line") }

def distinctStarts (ns : List Node) : List Node :=
  (ns.foldl (fun (seen : List Nat × List Node) n =>
    if seen.1.contains n.start then seen else (n.start :: seen.1, n :: seen.2)) ([], [])).2.reverse

def ofQuery (l : Language) (source : Text) (tree : Node) (q : Query) :
    Except LintError (List Comment) :=
  match Source.Query.read? l.grammar q.expr with
  | none => .error (.query l.name ("malformed query ".toList ++ q.expr))
  | some rules =>
    .ok ((distinctStarts (Source.Query.captured source rules tree)).map (ofNode l source q.name))

/-- The comments that queries find. Those of several queries are put in the order of their lines. -/
def ofQueries (l : Language) (source : Text) (queries : List Query) :
    Except LintError (List Comment) := do
  let tree := Source.tree l.grammar source
  let found := (← queries.mapM (ofQuery l source tree)).flatten
  return coalesce
    (if 1 < queries.length then found.mergeSort fun a b => a.line ≤ b.line else found)

/-- The comments of a file, and how the delimiters of their lines are measured. -/
structure Extraction where
  comments : List Comment
  padding : Option (Text → Nat)

/-- The comments of a file with a normalized extension. Languages with a grammar use the queries, or
their own; others are scanned line by line. Delimiters serve only where nothing is known of the
extension. -/
def extract? (languages : Registry) (ext : Text) (queries : Option (List Query))
    (delimiters : Option (Text × Text)) (source : Text) :
    Except LintError (Option Extraction) := do
  match languages.find? ext with
  | some l =>
    let comments ← ofQueries l source (queries.getD l.queries)
    return some ⟨comments, some l.padding⟩
  | none =>
    let custom? := delimiters.bind fun (start, stop) => Syntax.ofDelimiters? start stop
    return ((Syntax.ofExtension? ext).or custom?).map fun s => ⟨scan s source, none⟩

end Copydesk.Comment
