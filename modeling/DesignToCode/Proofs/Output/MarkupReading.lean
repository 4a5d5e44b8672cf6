import DesignToCode.Output.ComponentFile
import DesignToCode.Proofs.Component.ClassNames
import DesignToCode.Proofs.Output.MarkupReader

/-!
What the reader of markup makes of a rendered component.
-/

namespace DesignToCode

open DesignToCode.Naming DesignToCode.Text

namespace Markup

def escapedChars : List Char :=
  ['&', '<', '>', '\x7b', '\x7d']

theorem escapedChar_of_not_mem {c : Char} (plain : c ∉ escapedChars) : escapedChar c = [c] := by
  simp only [escapedChars, List.mem_cons, List.not_mem_nil, or_false, not_or] at plain
  simp only [escapedChar, plain, if_false]

end Markup

namespace Content

def IsPrintable : Content → Prop
  | .literal text => text ≠ ""
  | .property identifier => IsPlain identifier

def piece : Content → MarkupPiece
  | .literal text => .characters (Markup.escape text).toList
  | .property identifier => .expression identifier.toList

end Content

namespace Markup

mutual

def IsPrintable : Markup → Prop
  | .textual _ className content => IsPlain className ∧ content.IsPrintable
  | .parent _ className children =>
    IsPlain className ∧ children ≠ [] ∧ ArePrintable children
  | .closed className => IsPlain className

def ArePrintable : List Markup → Prop
  | [] => True
  | markup :: rest => markup.IsPrintable ∧ ArePrintable rest

end

def lineStart (level : Nat) : List Char :=
  '\n' :: (indent level).toList

mutual

def pieces (level : Nat) : Markup → List MarkupPiece
  | .textual tag className content =>
    [.characters (lineStart level), .opening tag className, content.piece, .closing tag]
  | .parent tag className children =>
    .characters (lineStart level) :: .opening tag className ::
      (forestPieces (level + 1) children ++ [.characters (lineStart level), .closing tag])
  | .closed className => [.characters (lineStart level), .closed .block className]

def forestPieces (level : Nat) : List Markup → List MarkupPiece
  | [] => []
  | markup :: rest => pieces level markup ++ forestPieces level rest

end

end Markup

def newLines (lines : List String) : List Char :=
  lines.flatMap fun line => '\n' :: line.toList

theorem newLines_append (first second : List String) :
    newLines (first ++ second) = newLines first ++ newLines second :=
  List.flatMap_append

theorem toList_join (first : String) (rest : List String) :
    (join "\n" (first :: rest)).toList = first.toList ++ newLines rest := by
  induction rest generalizing first with
  | nil => simp [join, newLines]
  | cons next later ih =>
      rw [join, String.toList_append, String.toList_append, ih]
      simp [newLines]

namespace MarkupReader

open Markup (escapedChar escapedChars escape)

theorem unescape?_cons {c : Char} (notEntity : c ≠ '&') (rest : List Char) :
    unescape? (c :: rest) = (unescape? rest).map (c :: ·) := by
  rw [unescape?.eq_def]
  split <;> simp_all

theorem unescape?_escapedChar (c : Char) (rest : List Char) :
    unescape? (escapedChar c ++ rest) = (unescape? rest).map (c :: ·) := by
  by_cases special : c ∈ escapedChars
  · simp only [escapedChars, List.mem_cons, List.not_mem_nil, or_false] at special
    rcases special with same | same | same | same | same <;> subst c <;> rfl
  · rw [Markup.escapedChar_of_not_mem special]
    apply unescape?_cons
    intro same
    subst c
    exact special List.mem_cons_self

theorem unescape?_escape (text : String) : unescape? (escape text).toList = some text.toList := by
  rw [escape, String.toList_ofList]
  induction text.toList with
  | nil => rfl
  | cons c rest ih => rw [List.flatMap_cons, unescape?_escapedChar, ih, Option.map_some]

theorem literal?_escape (text : String) :
    literal? (escape text).toList = some (.literal text) := by
  rw [literal?, unescape?_escape, Option.map_some, String.ofList_toList]

def isOrdinary (c : Char) : Bool :=
  c != '<' && c != '>' && c != '\x7b' && c != '\x7d'

theorem isOrdinary_of_mem_escapedChar {c written : Char} (found : written ∈ escapedChar c) :
    isOrdinary written = true := by
  by_cases special : c ∈ escapedChars
  · have checked : (escapedChars.all fun c => (escapedChar c).all isOrdinary) = true := by decide
    exact List.all_eq_true.mp (List.all_eq_true.mp checked c special) written found
  · rw [Markup.escapedChar_of_not_mem special, List.mem_singleton] at found
    subst written
    simp only [escapedChars, List.mem_cons, List.not_mem_nil, or_false, not_or] at special
    simp [isOrdinary, special]

theorem isOrdinary_of_mem_escape {text : String} {c : Char} (found : c ∈ (escape text).toList) :
    isOrdinary c = true := by
  rw [escape, String.toList_ofList] at found
  obtain ⟨_, _, written⟩ := List.mem_flatMap.mp found
  exact isOrdinary_of_mem_escapedChar written

theorem isOrdinary_of_isAlphanum {c : Char} (plain : c.isAlphanum = true) :
    isOrdinary c = true := by
  have checked := of_ascii (fun c => !c.isAlphanum || isOrdinary c) (by decide)
    (ascii_of_isAlphanum plain)
  simpa [plain] using checked

theorem scan_ordinary {cs : List Char} (ordinary : ∀ c ∈ cs, isOrdinary c = true)
    (run rest : List Char) : scan .outside run (cs ++ rest) = scan .outside (run ++ cs) rest := by
  induction cs generalizing run with
  | nil => rw [List.nil_append, List.append_nil]
  | cons c later ih =>
      have first := ordinary c List.mem_cons_self
      simp only [isOrdinary, Bool.and_eq_true, bne_iff_ne] at first
      obtain ⟨⟨⟨notLess, notGreater⟩, notOpen⟩, notClose⟩ := first
      have step : scan .outside run (c :: (later ++ rest)) =
          scan .outside (run ++ [c]) (later ++ rest) := by
        simp only [scan, notLess, notGreater, notOpen, notClose, or_self, if_false]
      rw [List.cons_append, step, ih fun c found => ordinary c (List.mem_cons_of_mem _ found),
        List.append_assoc, List.singleton_append]

theorem scan_tag {inside : List Char} (unclosed : '>' ∉ inside) (run rest : List Char) :
    scan .tag run (inside ++ '>' :: rest) =
      (MarkupPiece.ofTag? (run ++ inside)).bind fun piece =>
        (scan .outside [] rest).map (piece :: ·) := by
  induction inside generalizing run with
  | nil => simp [scan]
  | cons c later ih =>
      simp only [List.mem_cons, not_or] at unclosed
      have step : scan .tag run (c :: (later ++ '>' :: rest)) =
          scan .tag (run ++ [c]) (later ++ '>' :: rest) := by
        simp only [scan, Ne.symm unclosed.1, if_false]
      rw [List.cons_append, step, ih unclosed.2, List.append_assoc, List.singleton_append]

theorem scan_expression {source : List Char} (unclosed : '\x7d' ∉ source) (run rest : List Char) :
    scan .expression run (source ++ '\x7d' :: rest) =
      (scan .outside [] rest).map (.expression (run ++ source) :: ·) := by
  induction source generalizing run with
  | nil => simp [scan]
  | cons c later ih =>
      simp only [List.mem_cons, not_or] at unclosed
      have step : scan .expression run (c :: (later ++ '\x7d' :: rest)) =
          scan .expression (run ++ [c]) (later ++ '\x7d' :: rest) := by
        simp only [scan, Ne.symm unclosed.1, if_false]
      rw [List.cons_append, step, ih unclosed.2, List.append_assoc, List.singleton_append]

def Scans (cs : List Char) (pieces : List MarkupPiece) : Prop :=
  ∀ rest, scan .outside [] (cs ++ rest) = (scan .outside [] rest).map (pieces ++ ·)

theorem Scans.nil : Scans [] [] := by
  intro rest
  simp

theorem Scans.append {first second : List Char} {firstPieces secondPieces : List MarkupPiece}
    (firstScans : Scans first firstPieces) (secondScans : Scans second secondPieces) :
    Scans (first ++ second) (firstPieces ++ secondPieces) := by
  intro rest
  rw [List.append_assoc, firstScans, secondScans, Option.map_map]
  simp [Function.comp_def]

theorem scans_tag {run inside : List Char} {piece : MarkupPiece}
    (ordinary : ∀ c ∈ run, isOrdinary c = true) (unclosed : '>' ∉ inside)
    (isTag : MarkupPiece.ofTag? inside = some piece) :
    Scans (run ++ '<' :: inside ++ ['>']) (MarkupPiece.ofRun run ++ [piece]) := by
  intro rest
  have opened : scan .outside run ('<' :: (inside ++ '>' :: rest)) =
      (scan .tag [] (inside ++ '>' :: rest)).map (MarkupPiece.ofRun run ++ ·) := by
    simp [scan]
  rw [List.append_assoc, List.append_assoc, List.singleton_append, List.cons_append,
    scan_ordinary ordinary, List.nil_append, opened, scan_tag unclosed, List.nil_append, isTag,
    Option.bind_some, Option.map_map]
  simp [Function.comp_def]

theorem scans_expression {source : List Char} (unclosed : '\x7d' ∉ source) :
    Scans ('\x7b' :: source ++ ['\x7d']) [.expression source] := by
  intro rest
  have opened : scan .outside [] ('\x7b' :: (source ++ '\x7d' :: rest)) =
      scan .expression [] (source ++ '\x7d' :: rest) := by
    simp [scan, MarkupPiece.ofRun]
  rw [List.append_assoc, List.singleton_append, List.cons_append, opened,
    scan_expression unclosed]
  rfl

theorem isPrefixOf?_append (first rest : List Char) :
    first.isPrefixOf? (first ++ rest) = some rest := by
  induction first with
  | nil => cases rest <;> rfl
  | cons c later ih =>
      change (if (c == c) = true then later.isPrefixOf? (later ++ rest) else none) = some rest
      rw [beq_self_eq_true, if_pos rfl, ih]

theorem ne_closing_of_isPlain {name : String} (plain : IsPlain name) {c : Char}
    (found : c ∈ name.toList) : c ≠ '>' ∧ c ≠ '\x7d' := by
  have ordinary := isOrdinary_of_isAlphanum (plain c found)
  simp only [isOrdinary, Bool.and_eq_true, bne_iff_ne] at ordinary
  exact ⟨ordinary.1.1.2, ordinary.2⟩

def classAttribute (className : String) : List Char :=
  MarkupPiece.classStart ++ (className.toList ++ ['\x7d'])

theorem ofClass?_classAttribute (tag : Tag) {className : String} (plain : IsPlain className)
    (after : List Char) :
    MarkupPiece.ofClass? tag (classAttribute className ++ after) =
      MarkupPiece.ofEnd? tag className.toList ('\x7d' :: after) := by
  have unclosed : ∀ c ∈ className.toList, (c != '\x7d') = true := by
    intro c found
    exact bne_iff_ne.mpr (ne_closing_of_isPlain plain found).2
  have name : (className.toList ++ '\x7d' :: after).takeWhile (· != '\x7d') =
      className.toList := by
    rw [List.takeWhile_append_of_pos unclosed]
    simp
  have left : (className.toList ++ '\x7d' :: after).dropWhile (· != '\x7d') =
      '\x7d' :: after := by
    rw [List.dropWhile_append_of_pos unclosed]
    simp
  rw [classAttribute, List.append_assoc, List.append_assoc, List.singleton_append,
    MarkupPiece.ofClass?, isPrefixOf?_append, Option.bind_some, name, left]

theorem ofTag?_element (tag : Tag) (attributes : List Char) :
    MarkupPiece.ofTag? (tag.element.toList ++ ' ' :: attributes) =
      MarkupPiece.ofClass? tag (' ' :: attributes) := by
  cases tag <;> rfl

theorem ofTag?_classAttribute (tag : Tag) {className : String} (plain : IsPlain className)
    (after : List Char) :
    MarkupPiece.ofTag? (tag.element.toList ++ (classAttribute className ++ after)) =
      MarkupPiece.ofEnd? tag className.toList ('\x7d' :: after) := by
  rw [← ofClass?_classAttribute tag plain]
  exact ofTag?_element tag _

theorem closing_not_mem {tag : Tag} {className : String} {after : List Char}
    (plain : IsPlain className) (unclosed : '>' ∉ after) :
    '>' ∉ tag.element.toList ++ (classAttribute className ++ after) := by
  have inName : '>' ∉ className.toList := fun found => (ne_closing_of_isPlain plain found).1 rfl
  have inElement : '>' ∉ tag.element.toList := by cases tag <;> decide
  have inStart : '>' ∉ MarkupPiece.classStart := by decide
  simp [classAttribute, inName, inElement, inStart, unclosed]

theorem scans_classTag {run after : List Char} {tag : Tag} {className : String}
    {piece : MarkupPiece} (ordinary : ∀ c ∈ run, isOrdinary c = true) (plain : IsPlain className)
    (unclosed : '>' ∉ after)
    (ends : MarkupPiece.ofEnd? tag className.toList ('\x7d' :: after) = some piece) :
    Scans (run ++ '<' :: (tag.element.toList ++ (classAttribute className ++ after)) ++ ['>'])
      (MarkupPiece.ofRun run ++ [piece]) := by
  rw [← ofTag?_classAttribute tag plain] at ends
  exact scans_tag ordinary (closing_not_mem plain unclosed) ends

theorem scans_openTag {run : List Char} (ordinary : ∀ c ∈ run, isOrdinary c = true) (tag : Tag)
    {className : String} (plain : IsPlain className) :
    Scans (run ++ (Markup.openTag tag className).toList)
      (MarkupPiece.ofRun run ++ [.opening tag className]) := by
  have written : run ++ (Markup.openTag tag className).toList =
      run ++ '<' :: (tag.element.toList ++ (classAttribute className ++ [])) ++ ['>'] := by
    simp [Markup.openTag, Markup.braced, Markup.classRef, classAttribute, MarkupPiece.classStart]
  rw [written]
  refine scans_classTag ordinary plain List.not_mem_nil ?_
  rw [MarkupPiece.ofEnd?, String.ofList_toList]

theorem scans_closedTag {run : List Char} (ordinary : ∀ c ∈ run, isOrdinary c = true)
    {className : String} (plain : IsPlain className) :
    Scans (run ++ (Markup.closedTag className).toList)
      (MarkupPiece.ofRun run ++ [.closed .block className]) := by
  have written : run ++ (Markup.closedTag className).toList =
      run ++ '<' :: (Tag.block.element.toList ++ (classAttribute className ++ [' ', '/'])) ++
        ['>'] := by
    simp [Markup.closedTag, Markup.braced, Markup.classRef, classAttribute,
      MarkupPiece.classStart]
  rw [written]
  refine scans_classTag ordinary plain (by decide) ?_
  rw [MarkupPiece.ofEnd?, String.ofList_toList]

theorem scans_closeTag {run : List Char} (ordinary : ∀ c ∈ run, isOrdinary c = true) (tag : Tag) :
    Scans (run ++ (Markup.closeTag tag).toList) (MarkupPiece.ofRun run ++ [.closing tag]) := by
  have isTag : MarkupPiece.ofTag? ('/' :: tag.element.toList) = some (.closing tag) := by
    cases tag <;> rfl
  have unclosed : '>' ∉ '/' :: tag.element.toList := by cases tag <;> decide
  have written : run ++ (Markup.closeTag tag).toList =
      run ++ '<' :: ('/' :: tag.element.toList) ++ ['>'] := by
    simp [Markup.closeTag]
  rw [written]
  exact scans_tag ordinary unclosed isTag

theorem ofRun_escape {text : String} (nonempty : text ≠ "") :
    MarkupPiece.ofRun (escape text).toList = [.characters (escape text).toList] := by
  cases escaped : (escape text).toList with
  | nil =>
      have read := unescape?_escape text
      rw [escaped, unescape?, Option.some_inj] at read
      exact absurd (String.toList_eq_nil_iff.mp read.symm) nonempty
  | cons c rest => rfl

theorem scans_content {content : Content} (printable : content.IsPrintable) (tag : Tag) :
    Scans (content.text.toList ++ (Markup.closeTag tag).toList)
      [content.piece, .closing tag] := by
  cases content with
  | literal text =>
      have ordinary : ∀ c ∈ (escape text).toList, isOrdinary c = true :=
        fun _ => isOrdinary_of_mem_escape
      have closed := scans_closeTag ordinary tag
      rw [ofRun_escape printable] at closed
      exact closed
  | property identifier =>
      have unclosed : '\x7d' ∉ identifier.toList := by
        intro found
        exact (ne_closing_of_isPlain printable found).2 rfl
      have written : (Content.property identifier).text.toList =
          '\x7b' :: identifier.toList ++ ['\x7d'] := by
        simp [Content.text, Markup.braced]
      rw [written]
      exact (scans_expression unclosed).append (@scans_closeTag [] (by simp) tag)

theorem mem_lineStart {level : Nat} {c : Char} (found : c ∈ Markup.lineStart level) :
    c = '\n' ∨ c = ' ' := by
  rw [Markup.lineStart, Markup.indent, String.toList_ofList, List.mem_cons] at found
  exact found.imp id List.eq_of_mem_replicate

theorem isOrdinary_of_mem_lineStart {level : Nat} {c : Char}
    (found : c ∈ Markup.lineStart level) : isOrdinary c = true := by
  rcases mem_lineStart found with same | same <;> subst c <;> rfl

theorem isBlank_lineStart (level : Nat) : (Markup.lineStart level).all isBlank = true := by
  rw [List.all_eq_true]
  intro c found
  rcases mem_lineStart found with same | same <;> subst c <;> rfl

theorem ofRun_lineStart (level : Nat) :
    MarkupPiece.ofRun (Markup.lineStart level) = [.characters (Markup.lineStart level)] :=
  rfl

theorem scans_parent {level : Nat} (tag : Tag) {className : String} (plain : IsPlain className)
    {below : List Char} {inside : List MarkupPiece} (insideScans : Scans below inside) :
    Scans (Markup.lineStart level ++ (Markup.openTag tag className).toList ++ below ++
        (Markup.lineStart level ++ (Markup.closeTag tag).toList))
      (.characters (Markup.lineStart level) :: .opening tag className ::
        (inside ++ [.characters (Markup.lineStart level), .closing tag])) := by
  have ordinary : ∀ c ∈ Markup.lineStart level, isOrdinary c = true :=
    fun _ => isOrdinary_of_mem_lineStart
  have opened := scans_openTag ordinary tag plain
  have closed := scans_closeTag ordinary tag
  simpa [ofRun_lineStart] using (opened.append insideScans).append closed

mutual

theorem scans_lines (level : Nat) : ∀ markup : Markup, markup.IsPrintable →
    Scans (newLines (markup.lines level)) (markup.pieces level)
  | .textual tag className content => by
      intro printable
      rw [Markup.IsPrintable] at printable
      have ordinary : ∀ c ∈ Markup.lineStart level, isOrdinary c = true :=
        fun _ => isOrdinary_of_mem_lineStart
      have opened := scans_openTag ordinary tag printable.1
      have written : newLines ((Markup.textual tag className content).lines level) =
          Markup.lineStart level ++ (Markup.openTag tag className).toList ++
            (content.text.toList ++ (Markup.closeTag tag).toList) := by
        simp [newLines, Markup.lines, Markup.lineStart]
      rw [written]
      exact opened.append (scans_content printable.2 tag)
  | .parent tag className children => by
      intro printable
      rw [Markup.IsPrintable] at printable
      have below := scans_forestLines (level + 1) children printable.2.2
      have written : newLines ((Markup.parent tag className children).lines level) =
          Markup.lineStart level ++ (Markup.openTag tag className).toList ++
            newLines (Markup.forestLines (level + 1) children) ++
            (Markup.lineStart level ++ (Markup.closeTag tag).toList) := by
        simp [newLines, Markup.lines, Markup.lineStart]
      rw [written, Markup.pieces]
      exact scans_parent tag printable.1 below
  | .closed className => by
      intro printable
      rw [Markup.IsPrintable] at printable
      have written : newLines ((Markup.closed className).lines level) =
          Markup.lineStart level ++ (Markup.closedTag className).toList := by
        simp [newLines, Markup.lines, Markup.lineStart]
      rw [written]
      exact scans_closedTag (fun _ => isOrdinary_of_mem_lineStart) printable

theorem scans_forestLines (level : Nat) : ∀ forest : List Markup, Markup.ArePrintable forest →
    Scans (newLines (Markup.forestLines level forest)) (Markup.forestPieces level forest)
  | [] => fun _ => Scans.nil
  | markup :: rest => by
      intro printable
      rw [Markup.ArePrintable] at printable
      rw [Markup.forestLines, Markup.forestPieces, newLines_append]
      exact (scans_lines level markup printable.1).append
        (scans_forestLines level rest printable.2)

end

/-- The pieces leave the items behind wherever they stand. -/
def Builds (pieces : List MarkupPiece) (items : List Item) : Prop :=
  ∀ nesting : Nesting,
    nesting.run pieces = some { nesting with items := nesting.items ++ items }

theorem run_append (nesting : Nesting) (first second : List MarkupPiece) :
    nesting.run (first ++ second) = (nesting.run first).bind fun next => next.run second := by
  induction first generalizing nesting with
  | nil => rfl
  | cons piece rest ih =>
      rw [List.cons_append, Nesting.run, Nesting.run, Option.bind_assoc]
      exact congrArg _ (funext ih)

theorem Builds.nil : Builds [] [] := by
  intro nesting
  simp [Nesting.run]

theorem Builds.append {first second : List MarkupPiece} {firstItems secondItems : List Item}
    (firstBuilds : Builds first firstItems) (secondBuilds : Builds second secondItems) :
    Builds (first ++ second) (firstItems ++ secondItems) := by
  intro nesting
  rw [run_append, firstBuilds, Option.bind_some, secondBuilds]
  simp

theorem builds_characters (run : List Char) : Builds [.characters run] [.characters run] := by
  intro nesting
  rfl

theorem builds_closed (className : String) :
    Builds [.closed .block className] [.element (.closed className)] := by
  intro nesting
  rfl

theorem builds_element {tag : Tag} {className : String} {inside : List MarkupPiece}
    {items : List Item} {markup : Markup} (insideBuilds : Builds inside items)
    (isElement : element? tag className items = some markup) :
    Builds (.opening tag className :: (inside ++ [.closing tag])) [.element markup] := by
  intro nesting
  rw [Nesting.run, Nesting.step, Option.bind_some, run_append, insideBuilds, Option.bind_some]
  simp [Nesting.run, Nesting.step, isElement, Nesting.add]

def forestItems (level : Nat) (forest : List Markup) : List Item :=
  forest.flatMap fun markup => [.characters (Markup.lineStart level), .element markup]

theorem elements?_forestItems (level : Nat) (forest : List Markup) (outer : Nat) :
    elements? (forestItems level forest ++ [.characters (Markup.lineStart outer)]) =
      some forest := by
  induction forest with
  | nil => simp [forestItems, elements?, isBlank_lineStart]
  | cons markup rest ih =>
      have first : forestItems level (markup :: rest) ++ [.characters (Markup.lineStart outer)] =
          .characters (Markup.lineStart level) :: .element markup ::
            (forestItems level rest ++ [.characters (Markup.lineStart outer)]) := by
        simp [forestItems]
      rw [first, elements?, if_pos (isBlank_lineStart level), elements?, ih, Option.map_some]

theorem element?_content (tag : Tag) (className : String) (content : Content) :
    ∃ items, Builds [content.piece] items ∧
      element? tag className items = some (.textual tag className content) := by
  cases content with
  | literal text =>
      refine ⟨[.characters (escape text).toList], builds_characters _, ?_⟩
      rw [element?, literal?_escape, Option.map_some]
  | property identifier =>
      refine ⟨[.expression identifier.toList], fun _ => rfl, ?_⟩
      rw [element?, String.ofList_toList]

theorem element?_forestItems (tag : Tag) (className : String) {level outer : Nat}
    {forest : List Markup} (nonempty : forest ≠ []) :
    element? tag className
      (forestItems level forest ++ [.characters (Markup.lineStart outer)]) =
        some (.parent tag className forest) := by
  have read := elements?_forestItems level forest outer
  cases forest with
  | nil => contradiction
  | cons markup rest =>
      simp only [forestItems, List.flatMap_cons, List.cons_append, List.nil_append] at read ⊢
      rw [element?, read]
      · simp
      · simp

mutual

theorem builds_pieces (level : Nat) : ∀ markup : Markup, markup.IsPrintable →
    Builds (markup.pieces level) [.characters (Markup.lineStart level), .element markup]
  | .textual tag className content => by
      intro _
      obtain ⟨items, builds, isElement⟩ := element?_content tag className content
      exact (builds_characters _).append (builds_element builds isElement)
  | .parent tag className children => by
      intro printable
      rw [Markup.IsPrintable] at printable
      have below := builds_forestPieces (level + 1) children printable.2.2
      have inside := below.append (builds_characters (Markup.lineStart level))
      have whole := builds_element inside (element?_forestItems tag className printable.2.1)
      rw [Markup.pieces]
      simpa using (builds_characters (Markup.lineStart level)).append whole
  | .closed className => fun _ => (builds_characters _).append (builds_closed className)

theorem builds_forestPieces (level : Nat) : ∀ forest : List Markup,
    Markup.ArePrintable forest →
      Builds (Markup.forestPieces level forest) (forestItems level forest)
  | [] => fun _ => Builds.nil
  | markup :: rest => by
      intro printable
      rw [Markup.ArePrintable] at printable
      rw [Markup.forestPieces, forestItems, List.flatMap_cons]
      exact (builds_pieces level markup printable.1).append
        (builds_forestPieces level rest printable.2)

end

end MarkupReader

end DesignToCode
