import DesignToCode.Output.Markup
import DesignToCode.Text.Blank

/-!
A reader of markup: tags, expressions in braces and the characters between them.
-/

namespace DesignToCode

open DesignToCode.Text

inductive MarkupPiece where
  | opening (tag : Tag) (className : String)
  | closing (tag : Tag)
  | closed (tag : Tag) (className : String)
  | characters (run : List Char)
  | expression (source : List Char)
  deriving DecidableEq, Repr

def Tag.named? (name : List Char) : Option Tag :=
  if name = "div".toList then some .block
  else if name = "span".toList then some .inline
  else none

namespace MarkupPiece

def classStart : List Char :=
  ' ' :: "className=\x7bstyles.".toList

def ofEnd? (tag : Tag) (className : List Char) : List Char → Option MarkupPiece
  | ['\x7d'] => some (opening tag (String.ofList className))
  | ['\x7d', ' ', '/'] => some (closed tag (String.ofList className))
  | _ => none

def ofClass? (tag : Tag) (attributes : List Char) : Option MarkupPiece :=
  (classStart.isPrefixOf? attributes).bind fun rest =>
    ofEnd? tag (rest.takeWhile (· != '\x7d')) (rest.dropWhile (· != '\x7d'))

def ofTag? : List Char → Option MarkupPiece
  | '/' :: name => (Tag.named? name).map closing
  | inside =>
    (Tag.named? (inside.takeWhile (· != ' '))).bind fun tag =>
      ofClass? tag (inside.dropWhile (· != ' '))

def ofRun : List Char → List MarkupPiece
  | [] => []
  | c :: rest => [characters (c :: rest)]

end MarkupPiece

namespace MarkupReader

inductive Place where
  | outside
  | tag
  | expression
  deriving DecidableEq, Repr

/-- The pieces of a text; `run` holds the characters since the last change of place. Outside of tags
and expressions no bracket or brace may close. -/
def scan (place : Place) (run : List Char) : List Char → Option (List MarkupPiece)
  | [] => if place = .outside then some (MarkupPiece.ofRun run) else none
  | c :: rest =>
    match place with
    | .outside =>
      if c = '<' then (scan .tag [] rest).map (MarkupPiece.ofRun run ++ ·)
      else if c = '\x7b' then (scan .expression [] rest).map (MarkupPiece.ofRun run ++ ·)
      else if c = '>' ∨ c = '\x7d' then none
      else scan .outside (run ++ [c]) rest
    | .tag =>
      if c = '>' then
        (MarkupPiece.ofTag? run).bind fun piece => (scan .outside [] rest).map (piece :: ·)
      else scan .tag (run ++ [c]) rest
    | .expression =>
      if c = '\x7d' then (scan .outside [] rest).map (.expression run :: ·)
      else scan .expression (run ++ [c]) rest

/-- The text that is written with entities; no `&` may stand for itself. -/
def unescape? : List Char → Option (List Char)
  | [] => some []
  | '&' :: 'a' :: 'm' :: 'p' :: ';' :: rest => (unescape? rest).map ('&' :: ·)
  | '&' :: 'l' :: 't' :: ';' :: rest => (unescape? rest).map ('<' :: ·)
  | '&' :: 'g' :: 't' :: ';' :: rest => (unescape? rest).map ('>' :: ·)
  | '&' :: '#' :: '1' :: '2' :: '3' :: ';' :: rest => (unescape? rest).map ('\x7b' :: ·)
  | '&' :: '#' :: '1' :: '2' :: '5' :: ';' :: rest => (unescape? rest).map ('\x7d' :: ·)
  | c :: rest => if c = '&' then none else (unescape? rest).map (c :: ·)

def literal? (run : List Char) : Option Content :=
  (unescape? run).map fun text => .literal (String.ofList text)

inductive Item where
  | characters (run : List Char)
  | expression (source : List Char)
  | element (markup : Markup)

def elements? : List Item → Option (List Markup)
  | [] => some []
  | .characters run :: rest => if run.all isBlank then elements? rest else none
  | .expression _ :: _ => none
  | .element markup :: rest => (elements? rest).map (markup :: ·)

def element? (tag : Tag) (className : String) (items : List Item) : Option Markup :=
  match items with
  | [.characters run] => (literal? run).map (.textual tag className)
  | [.expression source] => some (.textual tag className (.property (String.ofList source)))
  | _ =>
    match elements? items with
    | some (first :: rest) => some (.parent tag className (first :: rest))
    | _ => none

structure Frame where
  tag : Tag
  className : String
  before : List Item

structure Nesting where
  items : List Item
  frames : List Frame

namespace Nesting

def add (nesting : Nesting) (item : Item) : Nesting :=
  { nesting with items := nesting.items ++ [item] }

def step (nesting : Nesting) : MarkupPiece → Option Nesting
  | .characters run => some (nesting.add (.characters run))
  | .expression source => some (nesting.add (.expression source))
  | .opening tag className => some ⟨[], ⟨tag, className, nesting.items⟩ :: nesting.frames⟩
  | .closed tag className =>
    if tag = .block then some (nesting.add (.element (.closed className))) else none
  | .closing tag =>
    match nesting.frames with
    | [] => none
    | frame :: outer =>
      if frame.tag = tag then
        (element? tag frame.className nesting.items).map fun markup =>
          add ⟨frame.before, outer⟩ (.element markup)
      else none

def run (nesting : Nesting) : List MarkupPiece → Option Nesting
  | [] => some nesting
  | piece :: rest => (nesting.step piece).bind fun next => next.run rest

end Nesting

end MarkupReader

end DesignToCode
