import DesignToCode.Proofs.Output.SharedValues
import DesignToCode.Proofs.Output.Stories
import DesignToCode.Proofs.Text.Pieces

/-!
The names that the module of a catalog exports, which are those of its stories.
-/

namespace DesignToCode

open DesignToCode.Naming DesignToCode.Text

namespace ModuleReader

def exportedName? (line : List Char) : Option String :=
  if "export const ".toList.isPrefixOf line then
    some (String.ofList ((line.drop "export const ".length).takeWhile (· != ':')))
  else none

def exportedNames (text : String) : List String :=
  (pieces (· == '\n') text.toList).filterMap exportedName?

theorem pieces_join {lines : List String} (nonempty : lines ≠ [])
    (unbroken : ∀ line ∈ lines, '\n' ∉ line.toList) :
    pieces (· == '\n') (join "\n" lines).toList = lines.map String.toList := by
  induction lines with
  | nil => contradiction
  | cons line rest ih =>
      have first := pieces_of_notMem (unbroken line List.mem_cons_self)
      cases rest with
      | nil => exact first
      | cons next later =>
          have others := ih (List.cons_ne_nil _ _) fun other found =>
            unbroken other (List.mem_cons_of_mem _ found)
          have written : (join "\n" (line :: next :: later)).toList =
              line.toList ++ '\n' :: (join "\n" (next :: later)).toList := by
            simp [join]
          rw [written, pieces_append_cons (by rfl), first, others]
          rfl

structure Silent (line : String) : Prop where
  unbroken : '\n' ∉ line.toList
  exportedName?_eq : exportedName? line.toList = none

def opensSilent (text : String) : Bool :=
  match text.toList with
  | [] => false
  | c :: rest => c != 'e' && !(c :: rest).contains '\n'

theorem silent_append {first second : String} (opens : opensSilent first = true)
    (unbroken : '\n' ∉ second.toList) : Silent (first ++ second) := by
  unfold opensSilent at opens
  split at opens
  · cases opens
  · rename_i c rest begins
    simp only [Bool.and_eq_true, bne_iff_ne, ne_eq, Bool.not_eq_true', List.contains_eq_mem,
      decide_eq_false_iff_not] at opens
    refine ⟨?_, ?_⟩
    · rw [String.toList_append, List.mem_append, begins, not_or]
      exact ⟨opens.2, unbroken⟩
    · rw [String.toList_append, begins, List.cons_append, exportedName?]
      have other : ('e' == c) = false := beq_eq_false_iff_ne.mpr (Ne.symm opens.1)
      simp [List.isPrefixOf, other]

theorem silent_of_opensSilent {line : String} (opens : opensSilent line = true) : Silent line := by
  have nothing : '\n' ∉ "".toList := List.not_mem_nil
  have whole := silent_append opens nothing
  rwa [String.append_empty] at whole

theorem silent_empty : Silent "" :=
  ⟨List.not_mem_nil, rfl⟩

theorem filterMap_exportedName? {lines : List String} (silent : ∀ line ∈ lines, Silent line) :
    (lines.map String.toList).filterMap exportedName? = [] := by
  rw [List.filterMap_eq_nil_iff]
  intro line found
  obtain ⟨text, isLine, rfl⟩ := List.mem_map.mp found
  exact (silent text isLine).exportedName?_eq

end ModuleReader

open ModuleReader

theorem unbroken_append {first second : String} (left : '\n' ∉ first.toList)
    (right : '\n' ∉ second.toList) : '\n' ∉ (first ++ second).toList := by
  rw [String.toList_append, List.mem_append, not_or]
  exact ⟨left, right⟩

theorem unbroken_of_isPlain {name : String} (plain : IsPlain name) : '\n' ∉ name.toList := by
  intro found
  cases plain '\n' found

theorem Literal.unbroken_quote (text : String) : '\n' ∉ (quote text).toList := by
  intro found
  rw [quote, String.toList_ofList] at found
  simp only [List.cons_append, List.mem_cons, List.mem_append, List.mem_flatMap, List.not_mem_nil,
    or_false, Char.reduceEq, false_or] at found
  obtain ⟨c, _, isWritten⟩ := found
  unfold escapedChar at isWritten
  split at isWritten
  · simp at isWritten
  · split at isWritten
    · simp at isWritten
    · split at isWritten
      · simp at isWritten
      · rename_i notBreak
        exact notBreak (List.mem_singleton.mp isWritten).symm

theorem Literal.unbroken_text (literal : Literal) : '\n' ∉ literal.text.toList := by
  cases literal with
  | flag value => cases value <;> decide
  | quoted value => exact unbroken_quote value

theorem unbroken_literalList (literals : List Literal) :
    '\n' ∉ (literalList ", " literals).toList := by
  rw [literalList]
  induction literals with
  | nil => decide
  | cons literal rest ih =>
      cases rest with
      | nil => exact literal.unbroken_text
      | cons next later =>
          exact unbroken_append (unbroken_append literal.unbroken_text (by decide)) ih

namespace Catalog

theorem silent_argumentLine {argument : String × Literal} (plain : IsPlain argument.1) :
    Silent (argumentLine argument) := by
  have written : argumentLine argument =
      "    " ++ (argument.1 ++ ": " ++ argument.2.text ++ ",") := by
    simp [argumentLine, String.append_assoc]
  rw [written]
  exact silent_append rfl (unbroken_append (unbroken_append
    (unbroken_append (unbroken_of_isPlain plain) (by decide)) argument.2.unbroken_text) (by decide))

theorem silent_arguments {arguments : List (String × Literal)}
    (plain : ∀ argument ∈ arguments, IsPlain argument.1) :
    ∀ line ∈ arguments.map argumentLine, Silent line := by
  intro line found
  obtain ⟨argument, isArgument, rfl⟩ := List.mem_map.mp found
  exact silent_argumentLine (plain argument isArgument)

theorem silent_quoted {opening : String} (opens : opensSilent opening = true) (text : String) :
    Silent (opening ++ Literal.quote text ++ ",") := by
  rw [String.append_assoc]
  exact silent_append opens (unbroken_append (Literal.unbroken_quote text) (by decide))

theorem silent_controlLines (property : Property) :
    ∀ line ∈ controlLines property, Silent line := by
  have named := unbroken_of_isPlain (isPlain_camelCase property.name)
  have keyed {closing : String} (unbroken : '\n' ∉ closing.toList) :
      Silent ("    " ++ property.identifier ++ closing) := by
    rw [String.append_assoc]
    exact silent_append rfl (unbroken_append named unbroken)
  have listed (choices : List Literal) :
      Silent ("      options: [" ++ literalList ", " choices ++ "],") := by
    rw [String.append_assoc]
    exact silent_append rfl (unbroken_append (unbroken_literalList choices) (by decide))
  rw [controlLines]
  cases controlOf property with
  | select choices =>
      simp only [List.forall_mem_cons, List.not_mem_nil, false_implies, implies_true, and_true]
      exact ⟨keyed (by decide), silent_of_opensSilent rfl, listed choices,
        silent_of_opensSilent rfl⟩
  | toggle => exact List.forall_mem_singleton.mpr (keyed (by decide))
  | text => exact List.forall_mem_singleton.mpr (keyed (by decide))

theorem silent_argTypesLines (component : Component) :
    ∀ line ∈ argTypesLines component, Silent line := by
  rw [argTypesLines]
  split
  · simp
  · simp only [List.forall_mem_append, List.forall_mem_cons, List.not_mem_nil, false_implies,
      implies_true, and_true, List.mem_flatMap]
    refine ⟨⟨silent_of_opensSilent rfl, ?_⟩, silent_of_opensSilent rfl⟩
    rintro line ⟨property, _, found⟩
    exact silent_controlLines property line found

theorem silent_metaLines {name : String} (unbroken : '\n' ∉ name.toList) (component : Component)
    (url : String) (settings : Settings) :
    ∀ line ∈ metaLines name component url settings, Silent line := by
  have tags : ∀ line ∈ (if settings.autodocs then ["  tags: ['autodocs'],"] else []),
      Silent line := by
    cases settings.autodocs with
    | false => simp
    | true => exact List.forall_mem_singleton.mpr (silent_of_opensSilent rfl)
  have subject : Silent ("  component: " ++ name ++ ",") := by
    rw [String.append_assoc]
    exact silent_append rfl (unbroken_append unbroken (by decide))
  have type : Silent ("\x7d satisfies Meta<typeof " ++ name ++ ">;") := by
    rw [String.append_assoc]
    exact silent_append rfl (unbroken_append unbroken (by decide))
  have presets : ∀ line ∈ component.parameters.map argumentLine, Silent line :=
    silent_arguments fun _ => isPlain_of_mem_parameters
  simp only [metaLines, List.forall_mem_append, List.forall_mem_cons, List.not_mem_nil,
    false_implies, implies_true, and_true]
  exact ⟨⟨⟨⟨⟨⟨silent_of_opensSilent rfl, silent_quoted rfl _, subject, silent_of_opensSilent rfl,
    silent_quoted rfl _, silent_of_opensSilent rfl, silent_of_opensSilent rfl, silent_quoted rfl _,
    silent_of_opensSilent rfl, silent_of_opensSilent rfl⟩, tags⟩, silent_argTypesLines component⟩,
    silent_of_opensSilent rfl, silent_of_opensSilent rfl⟩, presets⟩, silent_of_opensSilent rfl, type⟩

def headLines (name : String) (component : Component) (url : String) (settings : Settings) :
    List String :=
  ["import type \x7b Meta, StoryObj \x7d from '@storybook/react-vite';",
    "import \x7b fn \x7d from 'storybook/test';",
    "import \x7b " ++ name ++ " \x7d from './" ++ name ++ "';",
    ""] ++
  metaLines name component url settings ++
  ["", "export default meta;", "type Story = StoryObj<typeof meta>;", ""]

theorem silent_headLines {name : String} (unbroken : '\n' ∉ name.toList) (component : Component)
    (url : String) (settings : Settings) :
    ∀ line ∈ headLines name component url settings, Silent line := by
  have imported : Silent ("import \x7b " ++ name ++ " \x7d from './" ++ name ++ "';") := by
    simp only [String.append_assoc]
    exact silent_append rfl (unbroken_append unbroken
      (unbroken_append (by decide) (unbroken_append unbroken (by decide))))
  simp only [headLines, List.forall_mem_append, List.forall_mem_cons, List.not_mem_nil,
    false_implies, implies_true, and_true]
  exact ⟨⟨⟨silent_of_opensSilent rfl, silent_of_opensSilent rfl, imported, silent_empty⟩,
    silent_metaLines unbroken component url settings⟩, silent_empty, ⟨by decide, rfl⟩,
    silent_of_opensSilent rfl, silent_empty⟩

/-- A story as it stands in a module. Without arguments it has one line. -/
def storyText (story : Story) : String :=
  match story.args with
  | none => lined ["export const " ++ story.name ++ ": Story = \x7b\x7d;"]
  | some arguments =>
    lined (["export const " ++ story.name ++ ": Story = \x7b", "  args: \x7b"] ++
      arguments.map (fun argument => "    " ++ argument.1 ++ ": " ++ argument.2.text ++ ",") ++
      ["  \x7d,", "\x7d;"])

def storyBody (story : Story) : List String :=
  match story.args with
  | none => ["export const " ++ story.name ++ ": Story = \x7b\x7d;"]
  | some args =>
    ["export const " ++ story.name ++ ": Story = \x7b", "  args: \x7b"] ++
      args.map argumentLine ++ ["  \x7d,", "\x7d;"]

theorem storyLines_eq (story : Story) : storyLines story = storyBody story ++ [""] := by
  rw [storyLines, storyBody]
  cases story.args with
  | none => rfl
  | some args => simp

theorem storyText_eq (story : Story) : storyText story = lined (storyBody story) := by
  rw [storyText, storyBody]
  cases story.args <;> rfl

theorem join_storyLines {story : Story} {rest : List Story} :
    join "\n" ((story :: rest).flatMap storyLines) =
      join "\n" ((story :: rest).map storyText) := by
  induction rest generalizing story with
  | nil =>
      rw [List.flatMap_cons, List.flatMap_nil, List.append_nil, storyLines_eq,
        join_append _ (List.cons_ne_nil _ _), ← storyText_eq]
      exact String.append_empty
  | cons next later ih =>
      have nonempty : (next :: later).flatMap storyLines ≠ [] := by
        simp [storyLines_eq]
      have spelled : join "\n" ((story :: next :: later).map storyText) =
          storyText story ++ "\n" ++ join "\n" ((next :: later).map storyText) := rfl
      rw [List.flatMap_cons, join_append _ nonempty, ih, storyLines_eq, lined_append,
        ← storyText_eq, spelled]
      rfl

theorem exists_told_of_mem_stories {component : Component} {story : Story}
    {arguments : List (String × Literal)} (isStory : story ∈ stories component)
    (given : story.args = some arguments) :
    ∃ variant ∈ firstOfEach [] component.variants, story = storyOf component variant := by
  rw [stories] at isStory
  split at isStory
  · rw [List.mem_singleton.mp isStory] at given
    cases given
  · obtain ⟨variant, isTold, rfl⟩ := List.mem_map.mp isStory
    exact ⟨variant, isTold, rfl⟩

theorem isPlain_of_mem_stories {component : Component} {story : Story}
    {arguments : List (String × Literal)} (isStory : story ∈ stories component)
    (given : story.args = some arguments) : ∀ argument ∈ arguments, IsPlain argument.1 := by
  obtain ⟨variant, _, rfl⟩ := exists_told_of_mem_stories isStory given
  cases given
  intro argument isArgument
  obtain ⟨entry, _, rfl⟩ := List.mem_map.mp isArgument
  exact isPlain_camelCase entry.1

theorem exportedName?_of_noColon {name : String} (noColon : ':' ∉ name.toList)
    (closing : List Char) :
    exportedName? ("export const ".toList ++ (name.toList ++ ':' :: closing)) = some name := by
  have before : ∀ c ∈ name.toList, (c != ':') = true := by
    intro c found
    rw [bne_iff_ne]
    rintro rfl
    exact noColon found
  have begins : "export const ".toList.isPrefixOf
      ("export const ".toList ++ (name.toList ++ ':' :: closing)) = true :=
    List.isPrefixOf_iff_prefix.mpr (List.prefix_append _ _)
  have length : "export const ".length = "export const ".toList.length := rfl
  rw [exportedName?, if_pos begins, length, List.drop_left,
    List.takeWhile_append_of_pos before, List.takeWhile_cons_of_neg (by decide), List.append_nil,
    String.ofList_toList]

theorem exported_storyLines {story : Story} (unbroken : '\n' ∉ story.name.toList)
    (noColon : ':' ∉ story.name.toList)
    (plain : ∀ arguments, story.args = some arguments → ∀ argument ∈ arguments, IsPlain argument.1) :
    (∀ line ∈ storyLines story, '\n' ∉ line.toList) ∧
      ((storyLines story).map String.toList).filterMap exportedName? = [story.name] := by
  obtain ⟨first, rest, split, unbrokenFirst, exported, silent⟩ : ∃ first rest,
      storyLines story = first :: rest ∧ '\n' ∉ first.toList ∧
        exportedName? first.toList = some story.name ∧ ∀ line ∈ rest, Silent line := by
    have header {closing : String} {more : List Char} (begins : closing.toList = ':' :: more) :
        exportedName? ("export const " ++ story.name ++ closing).toList = some story.name := by
      rw [String.toList_append, String.toList_append, List.append_assoc, begins]
      exact exportedName?_of_noColon noColon more
    have unbrokenHeader {closing : String} (unbrokenEnd : '\n' ∉ closing.toList) :
        '\n' ∉ ("export const " ++ story.name ++ closing).toList :=
      unbroken_append (unbroken_append (by decide) unbroken) unbrokenEnd
    rw [storyLines]
    cases given : story.args with
    | none =>
        exact ⟨_, _, rfl, unbrokenHeader (by decide), header rfl,
          List.forall_mem_singleton.mpr silent_empty⟩
    | some arguments =>
        refine ⟨_, "  args: \x7b" :: (arguments.map argumentLine ++ ["  \x7d,", "\x7d;", ""]), rfl,
          unbrokenHeader (by decide), header rfl, ?_⟩
        simp only [List.forall_mem_append, List.forall_mem_cons, List.not_mem_nil, false_implies,
          implies_true, and_true]
        exact ⟨silent_of_opensSilent rfl, silent_arguments (plain arguments given),
          silent_of_opensSilent rfl, silent_of_opensSilent rfl, silent_empty⟩
  rw [split, List.forall_mem_cons, List.map_cons, List.filterMap_cons, exported,
    filterMap_exportedName? silent]
  exact ⟨⟨unbrokenFirst, fun line found => (silent line found).unbroken⟩, rfl⟩

theorem render_eq (name : String) (component : Component) (url : String) (settings : Settings) :
    render name component url settings = lined (headLines name component url settings) ++
      join "\n" ((stories component).map storyText) := by
  obtain ⟨story, rest, split⟩ := List.exists_cons_of_ne_nil (stories_ne_nil component)
  have nonempty : (story :: rest).flatMap storyLines ≠ [] := by
    simp [storyLines_eq]
  have written : lines name component url settings =
      headLines name component url settings ++ (stories component).flatMap storyLines := rfl
  rw [render, written, split, join_append _ nonempty, join_storyLines]

theorem exported_stories {component : Component} {told : List Story}
    (isStory : ∀ story ∈ told, story ∈ stories component)
    (named : ∀ story ∈ told, '\n' ∉ story.name.toList ∧ ':' ∉ story.name.toList) :
    (∀ line ∈ told.flatMap storyLines, '\n' ∉ line.toList) ∧
      ((told.flatMap storyLines).map String.toList).filterMap exportedName? =
        told.map Story.name := by
  induction told with
  | nil => simp
  | cons story rest ih =>
      obtain ⟨isFirst, isLater⟩ := List.forall_mem_cons.mp isStory
      obtain ⟨⟨unbrokenName, noColon⟩, namedLater⟩ := List.forall_mem_cons.mp named
      obtain ⟨unbrokenFirst, first⟩ := exported_storyLines unbrokenName noColon
        fun arguments given => isPlain_of_mem_stories isFirst given
      obtain ⟨unbrokenLater, later⟩ := ih isLater namedLater
      rw [List.flatMap_cons, List.map_append, List.filterMap_append, first, later]
      exact ⟨List.forall_mem_append.mpr ⟨unbrokenFirst, unbrokenLater⟩, rfl⟩

/-- If the names are written on one line and those of the stories have no colon, then the stories
are all that a reader finds exported. -/
theorem exportedNames_render {name : String} (unbroken : '\n' ∉ name.toList)
    {component : Component}
    (named : ∀ story ∈ stories component, '\n' ∉ story.name.toList ∧ ':' ∉ story.name.toList)
    (url : String) (settings : Settings) :
    exportedNames (render name component url settings) = (stories component).map Story.name := by
  have silent := silent_headLines unbroken component url settings
  obtain ⟨unbrokenStories, names⟩ := exported_stories (fun _ found => found) named
  have written : lines name component url settings =
      headLines name component url settings ++ (stories component).flatMap storyLines := rfl
  have pieced : pieces (· == '\n') (render name component url settings).toList =
      (lines name component url settings).map String.toList := by
    refine pieces_join (List.cons_ne_nil _ _) ?_
    rw [written, List.forall_mem_append]
    exact ⟨fun line found => (silent line found).unbroken, unbrokenStories⟩
  rw [exportedNames, pieced, written, List.map_append, List.filterMap_append,
    filterMap_exportedName? silent, names, List.nil_append]

end Catalog

end DesignToCode
