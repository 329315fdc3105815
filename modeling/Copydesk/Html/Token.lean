import Copydesk.Html.Entity

/-! Tags and texts of an HTML document. -/

namespace Copydesk.Html

inductive Token
  | start (name : Text) (attrs : List (Text × Text)) (selfClosing : Bool)
  | stop (name : Text)
  | text (t : Text)
  deriving DecidableEq, Repr

/-- Elements whose content is one text up to their end tag. -/
def rawTextTags : List Text := ["script", "style"]

def voidTags : List Text :=
  ["area", "base", "br", "col", "embed", "hr", "img", "input", "link", "meta", "source", "track",
   "wbr"]

namespace Token

def endsName (c : Char) : Bool := Text.isSpace c || c == '/'

def endsAttrName (c : Char) : Bool := Text.isSpace c || c == '=' || c == '/'

def attrValue (t : Text) : Text × Text :=
  match t with
  | [] => ([], [])
  | q :: r =>
    if q = '"' ∨ q = '\'' then
      let v := r.takeWhile (· != q)
      (decodeEntities v, r.drop (v.length + 1))
    else
      let v := (q :: r).takeWhile (fun c => !Text.isSpace c)
      (decodeEntities v, (q :: r).drop v.length)

def attrsFrom : Nat → Text → List (Text × Text)
  | 0, _ => []
  | fuel + 1, t =>
    match t.dropWhile endsName with
    | [] => []
    | t@(_ :: _) =>
      let name := t.takeWhile (!endsAttrName ·)
      let (value, rest) := match t.drop name.length with
        | '=' :: r => attrValue r
        | r => ([], r)
      let more := attrsFrom fuel rest
      if name.isEmpty then more else (Text.asciiLower name, value) :: more

def readAttrs (t : Text) : List (Text × Text) := attrsFrom (t.length + 1) t

/-- What follows a comment, a declaration or an instruction, if the text begins with one. -/
def afterHidden? (t : Text) : Option Text :=
  match Text.afterPrefix? "<!--" t with
  | some body => some (((Text.find? "-->" body).map fun i => Text.after body (i + 3)).getD [])
  | none =>
    if Text.startsWith t "<!" || Text.startsWith t "<?" then some ((t.dropWhile (· != '>')).drop 1)
    else none

def ofTag (inner : Text) : Token :=
  match inner with
  | '/' :: name => stop (Text.asciiLower (Text.trim name))
  | _ =>
    let name := inner.takeWhile (!endsName ·)
    if (name.head?).any Char.isAlpha then
      let lower := Text.asciiLower name
      start lower (readAttrs (inner.drop name.length))
        (Text.endsWith (Text.trimEnd inner) "/" || lower ∈ voidTags)
    else text (decodeEntities ('<' :: inner ++ ['>']))

def rawText (token : Token) (t : Text) : Text × Text :=
  match token with
  | start name _ false =>
    if name ∈ rawTextTags then
      match Text.find? ('<' :: '/' :: name) (Text.asciiLower t) with
      | some i => (Text.before t i, Text.after t i)
      | none => (t, [])
    else ([], t)
  | _ => ([], t)

/-- A text token, unless the text is empty. -/
def ofText (t : Text) : List Token := if t.isEmpty then [] else [text t]

def readFrom : Nat → Text → List Token
  | 0, _ => []
  | fuel + 1, t =>
    let before := t.takeWhile (· != '<')
    if !before.isEmpty then text (decodeEntities before) :: readFrom fuel (t.drop before.length)
    else if t.isEmpty then []
    else match afterHidden? t with
      | some rest => readFrom fuel rest
      | none =>
        let tag := t.takeWhile (· != '>')
        -- a tag that does not end is text
        if tag.length = t.length then [text (decodeEntities t)]
        else
          let token := ofTag (tag.drop 1)
          let (raw, rest) := rawText token (t.drop (tag.length + 1))
          token :: (ofText raw ++ readFrom fuel rest)

end Token

/-- The tokens of a document; comments, declarations and instructions leave none. -/
def tokenize (t : Text) : List Token := Token.readFrom (t.length + 1) t

end Copydesk.Html
