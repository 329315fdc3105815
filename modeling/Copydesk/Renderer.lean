import Copydesk.Format
import Copydesk.Markdown.Render
import Copydesk.Org
import Copydesk.Tool.Basic

/-! What turns markup into HTML: Markdown and Org are rendered here, other markup by programs. -/

namespace Copydesk

structure Renderer where
  /-- The name that errors give. -/
  name : Text
  render : Text → Except LintError Text

namespace Renderer

def markdown : Renderer := ⟨"markdown", fun t => .ok (Markdown.render t)⟩

def org : Renderer := ⟨"org", fun t => .ok (Org.render t)⟩

def command (tools : Tools) (program : Text) (args : List Text) : Renderer :=
  ⟨program, tools.run program args⟩

/-- How an attribute is passed to the AsciiDoc renderer: `YES` sets it and `NO` unsets it. -/
def attributeArgument (name value : Text) : Text :=
  if value = "YES" then name
  else if value = "NO" then name ++ ['!']
  else name ++ '=' :: value

def asciidocArguments (attributes : List (Text × Text)) : List Text :=
  (["-s", "-a", "notitle!", "-a", "attribute-missing=drop"] : List String).map String.toList
    ++ (attributes.flatMap fun (name, value) => ["-a".toList, attributeArgument name value])
    ++ (["--safe-mode", "secure", "-"] : List String).map String.toList

def rstArguments : List Text :=
  (["--quiet", "--halt=5", "--link-stylesheet", "--no-file-insertion"] : List String).map
    String.toList

def asciidoc (tools : Tools) (attributes : List (Text × Text)) : Renderer :=
  command tools "asciidoctor" (asciidocArguments attributes)

def mdx (tools : Tools) : Renderer := command tools "mdx2vast" []

def rst (tools : Tools) : Renderer := command tools "rst2html" rstArguments

end Renderer

structure Renderers where
  markdown : Renderer
  mdx : Renderer
  asciidoc : Renderer
  rst : Renderer
  org : Renderer

namespace Renderers

def standard (tools : Tools) (attributes : List (Text × Text)) : Renderers where
  markdown := .markdown
  mdx := .mdx tools
  asciidoc := .asciidoc tools attributes
  rst := .rst tools
  org := .org

/-- The renderer of a format; HTML needs none. -/
def find? (r : Renderers) : Format → Option Renderer
  | .markdown => some r.markdown
  | .mdx => some r.mdx
  | .asciidoc => some r.asciidoc
  | .rst => some r.rst
  | .org => some r.org
  | _ => none

end Renderers

end Copydesk
