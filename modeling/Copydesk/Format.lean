import Copydesk.Path

/-! How a file is turned into prose, chosen by its extension. -/

namespace Copydesk

inductive Format
  | markdown | mdx | asciidoc | rst | html | org | plain | code | data
  deriving DecidableEq, Repr, Inhabited

namespace Format

def all : List Format := [markdown, mdx, asciidoc, rst, html, org, plain, code, data]

def name : Format → Text
  | markdown => "markdown"
  | mdx => "mdx"
  | asciidoc => "asciidoc"
  | rst => "rst"
  | html => "html"
  | org => "org"
  | plain => "plain"
  | code => "code"
  | data => "data"

def ofExtension (ext : Text) : Format :=
  match String.ofList ext with
  | "md" => markdown
  | "mdx" => mdx
  | "adoc" => asciidoc
  | "rst" => rst
  | "html" => html
  | "org" => org
  | "txt" => plain
  | "json" | "yml" | "toml" => data
  | _ => code

/-- The format that a blueprint step names for its values. -/
def ofStepType (kind : Text) : Format :=
  match String.ofList (kind.dropWhile (· == '.')) with
  | "md" | "markdown" => markdown
  | "rst" => rst
  | "html" => html
  | "org" => org
  | "adoc" | "asciidoc" | "xml" => asciidoc
  | _ => plain

end Format

namespace Extension

def canonical (ext : Text) : Text :=
  match String.ofList ext with
  | "md" | "mdown" | "markdown" | "markdn" | "mkd" => "md"
  | "html" | "htm" | "shtml" | "xhtml" => "html"
  | "rst" | "rest" => "rst"
  | "adoc" | "asciidoc" | "asc" => "adoc"
  | "txt" | "text" => "txt"
  | "yml" | "yaml" => "yml"
  | "jsx" | "mjs" | "cjs" => "js"
  | "mts" | "cts" => "ts"
  | "pyi" => "py"
  | "h" => "c"
  | "hpp" | "cc" | "cxx" | "hh" => "cpp"
  | _ => ext

/-- Configured aliases win over the built-in families. -/
def normalize (aliases : List (Text × Text)) (ext : Text) : Text :=
  let ext := Text.asciiLower (ext.dropWhile (· == '.'))
  match aliases.lookup ext with
  | some a => a.dropWhile (· == '.')
  | none => canonical ext

/-- The extension of a path, `txt` where there is none. -/
def ofPath (p : Text) : Text := (Path.extension? p).getD "txt"

end Extension

end Copydesk
