import Copydesk.Config.Basic
import Copydesk.Error
import Copydesk.Format
import Copydesk.Markup.Neutralize
import Copydesk.Regex.Basic

/-! Changes to a source before it is rendered, so that the renderer sees comments and code where the
configuration does. -/

namespace Copydesk.Markup

def nativeDelimiters? : Format → Option (Text × Text)
  | .markdown | .mdx | .html => some ("<!--", "-->")
  | .asciidoc => some ("////\n", "\n////")
  | _ => none

/-- What makes the text in between inline code. -/
def codeMarks? : Format → Option (Text × Text)
  | .markdown | .mdx => some ("\u0060", "\u0060")
  | .rst => some ("\u0060\u0060", "\u0060\u0060")
  | .asciidoc => some ("\u0060+", "+\u0060")
  | .html => some ("<code>", "</code>")
  | .org => some ("=", "=")
  | _ => none

/-- Puts the native comment delimiters in the place of the configured ones. -/
def withNativeComments (c : Config) (path : Text) (format : Format) (t : Text) :
    Except ConfigError Text :=
  match c.delimitersFor? path with
  | none => .ok t
  | some (start, stop) =>
    if start.isEmpty || stop.isEmpty then
      .error (.invalid ("comment delimiters for ".toList ++ quoted path
        ++ " must name both a start and an end delimiter".toList))
    else match nativeDelimiters? format with
      | none => .ok t
      | some (s, e) => .ok (Text.replace stop e (Text.replace start s t))

def markCode (marks : Text × Text) (t pattern : Text) : Except ConfigError Text :=
  match Regex.compile pattern with
  | .ok r => .ok (r.replaceAll t fun m => marks.1 ++ Text.slice t m.start m.stop ++ marks.2)
  | .error e => .error (.invalid ("Invalid token_ignores pattern ".toList ++ quoted pattern
      ++ ": ".toList ++ e.message))

/-- The source of a file as its renderer gets it. -/
def prepare (c : Config) (path : Text) (format : Format) (t : Text) : Except ConfigError Text := do
  let t := match format with
    | .markdown | .mdx => fenceFrontMatter t
    | _ => t
  let t ← withNativeComments c path format t
  match codeMarks? format with
  | none => return t
  | some marks => (c.tokenIgnoresFor path).foldlM (markCode marks) t

end Copydesk.Markup
