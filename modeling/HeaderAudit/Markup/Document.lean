import HeaderAudit.Markup.Token
import HeaderAudit.Text.Case
/-!
The elements of an HTML document, in document order, with their names, namespaces and attributes.
-/
namespace HeaderAudit.Markup

/-- The namespace of an element. -/
inductive Space where
  | html
  | svg
  | math
  deriving DecidableEq, Repr, Inhabited

/-- An element: its name in lower case, its namespace and its attributes as written. -/
structure Element where
  name : String
  space : Space
  attrs : List (String × String)
  deriving Repr, Inhabited

namespace Element

def attr? (e : Element) (key : String) : Option String :=
  (e.attrs.find? (·.1 == key)).map (·.2)

def isHtml (e : Element) (name : String) : Bool := e.space = .html ∧ e.name = name

def integrationPoint (e : Element) : Bool :=
  match e.space with
  | .svg => ["foreignobject", "desc", "title"].contains e.name
  | .math =>
    e.name == "annotation-xml" &&
      (e.attr? "encoding").any fun v => Text.equalFold v "text/html" || Text.equalFold v "application/xhtml+xml"
  | .html => false

def textPoint (e : Element) : Bool :=
  e.space = .math ∧ ["mi", "mo", "mn", "ms", "mtext"].contains e.name

end Element

/-- The attributes of a foreign element: the XLink, XML and XMLNS attributes lose their
prefix. -/
def foreignAttrs (attrs : List (String × String)) : List (String × String) :=
  attrs.map fun (k, v) =>
    if ["xlink:actuate", "xlink:arcrole", "xlink:href", "xlink:role", "xlink:show", "xlink:title",
        "xlink:type", "xml:base", "xml:lang", "xml:space", "xmlns:xlink"].contains k then
      (String.ofList ((k.toList.dropWhile (· ≠ ':')).drop 1), v)
    else (k, v)

def breakoutTags : List String :=
  ["b", "big", "blockquote", "body", "br", "center", "code", "dd", "div", "dl", "dt", "em", "embed",
   "h1", "h2", "h3", "h4", "h5", "h6", "head", "hr", "i", "img", "li", "listing", "menu", "meta",
   "nobr", "ol", "p", "pre", "ruby", "s", "small", "span", "strong", "strike", "sub", "sup", "table",
   "tt", "u", "ul", "var"]

def breaksOut (name : String) (attrs : List (String × String)) : Bool :=
  breakoutTags.contains name ∨
    (name = "font" ∧ attrs.any fun (k, _) => k = "color" ∨ k = "face" ∨ k = "size")

def specialTags : List String :=
  ["address", "applet", "area", "article", "aside", "base", "basefont", "bgsound", "blockquote",
   "body", "br", "button", "caption", "center", "col", "colgroup", "dd", "details", "dir", "div",
   "dl", "dt", "embed", "fieldset", "figcaption", "figure", "footer", "form", "frame", "frameset",
   "h1", "h2", "h3", "h4", "h5", "h6", "head", "header", "hgroup", "hr", "html", "iframe", "img",
   "input", "keygen", "li", "link", "listing", "main", "marquee", "menu", "meta", "nav", "noembed",
   "noframes", "noscript", "object", "ol", "p", "param", "plaintext", "pre", "script", "section",
   "select", "source", "style", "summary", "table", "tbody", "td", "template", "textarea", "tfoot",
   "th", "thead", "title", "tr", "track", "ul", "wbr", "xmp"]

def Element.special (e : Element) : Bool :=
  match e.space with
  | .html => specialTags.contains e.name
  | .math => ["mi", "mo", "mn", "ms", "mtext", "annotation-xml"].contains e.name
  | .svg => ["foreignobject", "desc", "title"].contains e.name

def scopeTags : List String :=
  ["applet", "caption", "html", "table", "td", "th", "marquee", "object", "template"]

def Element.scopeBound (e : Element) : Bool :=
  match e.space with
  | .html => scopeTags.contains e.name
  | _ => e.integrationPoint ∨ e.textPoint

/-- The open elements, innermost first, after closing the innermost HTML element with a name;
unchanged when there is none. -/
def closeLast (name : String) (stack : List Element) : List Element :=
  match stack.findIdx? (·.isHtml name) with
  | some i => stack.drop (i + 1)
  | none => stack

/-- The open elements after closing the innermost HTML element with a name, if no bounding
element stands before it. -/
def closeInScope (name : String) : List Element → Option (List Element)
  | [] => none
  | e :: rest =>
    if e.isHtml name then some rest
    else if e.scopeBound then none
    else closeInScope name rest

/-- The open elements after an end tag that has no rules of its own closes the innermost element
with its name, if no special element stands before it. -/
def closeOther (name : String) : List Element → Option (List Element)
  | [] => none
  | e :: rest =>
    if e.name = name then some rest
    else if e.special then none
    else closeOther name rest

def scopedEndTags : List String :=
  ["a", "address", "applet", "article", "aside", "b", "big", "blockquote", "button", "caption",
   "center", "code", "col", "colgroup", "dd", "details", "dialog", "dir", "div", "dl", "dt", "em",
   "fieldset", "figcaption", "figure", "font", "footer", "h1", "h2", "h3", "h4", "h5", "h6",
   "header", "hgroup", "i", "li", "listing", "main", "marquee", "menu", "nav", "nobr", "object",
   "ol", "p", "pre", "s", "search", "section", "small", "strike", "strong", "summary", "table",
   "tbody", "td", "tfoot", "th", "thead", "tr", "tt", "u", "ul"]

def tableTags : List String := ["caption", "table", "tbody", "tfoot", "thead", "tr", "td", "th"]

/-- Where content goes: before the body, in the body, or in a frameset. -/
inductive Phase where
  | head
  | body
  | frameset
  deriving DecidableEq, Repr, Inhabited

/-- The state of building a document: the phase, the open elements of the body (innermost
first), whether a form is open, whether a frameset may still replace the body, and the
elements found before and in the body. -/
structure Builder where
  phase : Phase
  stack : List Element
  formOpen : Bool
  framesetOk : Bool
  front : Array Element
  body : Array Element
  deriving Repr, Inhabited

namespace Builder

def empty : Builder := ⟨.head, [], false, true, #[], #[]⟩

def place (b : Builder) (e : Element) : Builder :=
  match b.phase with
  | .head => { b with front := b.front.push e }
  | .body => { b with body := b.body.push e }
  | .frameset => b

def openElement (b : Builder) (e : Element) : Builder :=
  { b.place e with stack := e :: b.stack }

def inTemplate (b : Builder) : Bool := b.stack.any (·.isHtml "template")

def inTable (b : Builder) : Bool := b.stack.any (·.isHtml "table")

/-- Whether the innermost open element, past options and scripts, is a `select`; and if so,
whether a table holds it. -/
def selectMode (b : Builder) : Option Bool :=
  match b.stack.dropWhile fun e => e.isHtml "option" ∨ e.isHtml "optgroup" ∨ e.isHtml "script" with
  | e :: rest =>
    if e.isHtml "select" then
      some ((rest.find? fun e => e.isHtml "table" ∨ e.isHtml "template").any (·.isHtml "table"))
    else none
  | [] => none

/-- Whether tokens go to the rules of foreign content, for a start tag (`some name`) or an end
tag (`none`). -/
def foreign (b : Builder) (startName : Option String) : Bool :=
  match b.stack with
  | [] => false
  | e :: _ =>
    if e.space = .html then false
    else match startName with
      | some name =>
        !(e.textPoint ∧ name ≠ "mglyph" ∧ name ≠ "malignmark") ∧
          !(e.space = .math ∧ e.name = "annotation-xml" ∧ name = "svg") ∧ !e.integrationPoint
      | none => true

def hasContent (s : String) : Bool := s.toList.any fun c => !isSpace c ∧ c ≠ '\x00'

/-- Reads a text token; the text of an element that is not raw has its references replaced
first. -/
def text (b : Builder) (data : String) (raw : Bool) : Builder :=
  if raw then b
  else
    let data := unescape false data
    match b.phase with
    | .head =>
      if data.toList.any (!isSpace ·) then
        { b with phase := .body, framesetOk := b.framesetOk ∧ !hasContent data }
      else b
    | .body =>
      if b.selectMode.isSome then b else { b with framesetOk := b.framesetOk ∧ !hasContent data }
    | .frameset => b

def bodyStart (b : Builder) (name : String) (attrs : List (String × String)) (selfClosing : Bool) :
    Builder :=
  let e : Element := ⟨name, .html, attrs⟩
  if name = "html" ∨ name = "head" then b
  else if name = "body" then { b with framesetOk := false }
  else if name = "frameset" then
    if b.framesetOk then { b with phase := .frameset, stack := [], body := #[] } else b
  else if name = "frame" then b
  else if ["caption", "colgroup", "tbody", "td", "tfoot", "th", "thead", "tr"].contains name then
    if b.inTable then b.openElement e else b
  else if name = "col" then if b.inTable then b.place e else b
  else if name = "form" then
    if b.formOpen ∧ !b.inTemplate then b
    else { b.openElement e with formOpen := b.formOpen ∨ !b.inTemplate }
  else if name = "svg" then
    let e : Element := ⟨name, .svg, foreignAttrs attrs⟩
    if selfClosing then b.place e else b.openElement e
  else if name = "math" then
    let e : Element := ⟨name, .math, foreignAttrs attrs⟩
    if selfClosing then b.place e else b.openElement e
  else if name = "image" then { b.place ⟨"img", .html, attrs⟩ with framesetOk := false }
  else if ["area", "br", "embed", "img", "keygen", "wbr", "hr"].contains name then
    { b.place e with framesetOk := false }
  else if name = "input" then
    let hidden := (e.attr? "type").any fun v => Text.equalFold v "hidden"
    { b.place e with framesetOk := b.framesetOk ∧ hidden }
  else if ["param", "source", "track", "base", "basefont", "bgsound", "link", "meta"].contains name then
    b.place e
  else if ["pre", "listing", "li", "dd", "dt", "button", "applet", "marquee", "object", "table",
      "textarea", "xmp", "iframe", "select"].contains name then
    { b.openElement e with framesetOk := false }
  else b.openElement e

def bodyOrSelectStart (b : Builder) (name : String) (attrs : List (String × String))
    (selfClosing : Bool) : Builder :=
  match b.selectMode with
  | none => b.bodyStart name attrs selfClosing
  | some withinTable =>
    let closed := { b with stack := closeLast "select" b.stack }
    if name = "option" ∨ name = "optgroup" then
      let stack := b.stack.dropWhile fun e => e.isHtml "option" ∨ (name = "optgroup" ∧ e.isHtml "optgroup")
      { b with stack := stack }.openElement ⟨name, .html, attrs⟩
    else if name = "script" ∨ name = "template" then b.openElement ⟨name, .html, attrs⟩
    else if name = "select" then closed
    else if name = "input" ∨ name = "keygen" ∨ name = "textarea" then
      closed.bodyStart name attrs selfClosing
    else if withinTable ∧ tableTags.contains name then closed.bodyStart name attrs selfClosing
    else b

def htmlStart (b : Builder) (name : String) (attrs : List (String × String)) (selfClosing : Bool) :
    Builder :=
  match b.phase with
  | .frameset => b
  | .body => b.bodyOrSelectStart name attrs selfClosing
  | .head =>
    if name = "html" ∨ name = "head" then b
    else if ["base", "basefont", "bgsound", "link", "meta", "title", "style", "script", "noframes",
        "noscript", "template"].contains name then b.place ⟨name, .html, attrs⟩
    else if name = "body" then { b with phase := .body, framesetOk := false }
    else if name = "frameset" then { b with phase := .frameset }
    else { b with phase := .body }.bodyStart name attrs selfClosing

def startTag (b : Builder) (name : String) (attrs : List (String × String)) (selfClosing : Bool) :
    Builder × Bool :=
  if b.foreign (some name) then
    if breaksOut name attrs then
      let stack := b.stack.dropWhile fun e => !(e.space = .html ∨ e.integrationPoint ∨ e.textPoint)
      ({ b with stack := stack }.htmlStart name attrs selfClosing, false)
    else
      let space := (b.stack.head?.map (·.space)).getD .html
      let e : Element := ⟨name, space, foreignAttrs attrs⟩
      (if selfClosing then b.place e else b.openElement e, true)
  else (b.htmlStart name attrs selfClosing, false)

def htmlEnd (b : Builder) (name : String) : Builder :=
  match b.phase with
  | .frameset => { b with stack := closeLast name b.stack }
  | .head =>
    if name = "body" ∨ name = "html" then { b with phase := .body }
    else if name = "br" then { b with phase := .body }.bodyStart "br" [] false
    else b
  | .body =>
    match b.selectMode with
    | some withinTable =>
      if name = "select" then { b with stack := closeLast "select" b.stack }
      else if name = "option" ∨ name = "optgroup" ∨ name = "template" then
        { b with stack := closeLast name b.stack }
      else if withinTable ∧ tableTags.contains name then
        let stack := closeLast "select" b.stack
        { b with stack := (closeInScope name stack).getD stack }
      else b
    | none =>
      if name = "br" then b.bodyStart "br" [] false
      else if name = "body" ∨ name = "html" then b
      else if name = "form" then
        let stack := (closeInScope "form" b.stack).getD b.stack
        if b.inTemplate then { b with stack := stack } else { b with stack := stack, formOpen := false }
      else if name = "template" then { b with stack := closeLast "template" b.stack }
      else if scopedEndTags.contains name then { b with stack := (closeInScope name b.stack).getD b.stack }
      else { b with stack := (closeOther name b.stack).getD b.stack }

/-- The open elements after a foreign end tag closes the innermost foreign element with its
name (in any case); nothing when an HTML element comes first. -/
def closeForeign (name : String) : List Element → Option (List Element)
  | [] => none
  | e :: rest =>
    if e.space = .html then none
    else if Text.equalFold e.name name then some rest
    else closeForeign name rest

def endTag (b : Builder) (name : String) : Builder :=
  if b.foreign none then
    match closeForeign name b.stack with
    | some stack => { b with stack := stack }
    | none => b.htmlEnd name
  else b.htmlEnd name

def inForeignElement (b : Builder) : Bool := (b.stack.head?.map (·.space != .html)).getD false

def run (b : Builder) : Nat → Tokenizer → Builder
  | 0, _ => b
  | fuel + 1, z =>
    match z.next b.inForeignElement with
    | none => b
    | some (tok, z) =>
      match tok with
      | .text data raw => (b.text data (raw ∧ z.rawTag ≠ "plaintext")).run fuel z
      | .startTag name attrs selfClosing =>
        let (b, plain) := b.startTag name attrs selfClosing
        b.run fuel (if plain then z.plainNext else z)
      | .endTag name => (b.endTag name).run fuel z
      | .comment | .doctype => b.run fuel z

end Builder

def elements (s : String) : List Element :=
  let z := Tokenizer.start s
  let b := Builder.empty.run (z.text.size + 1) z
  b.front.toList ++ b.body.toList

def attrValues (es : List Element) (name key : String) : List String :=
  es.filterMap fun e => if e.name = name then e.attr? key else none

end HeaderAudit.Markup
