import DesignToCode.Output.Catalog
import DesignToCode.Output.ComponentFile
import DesignToCode.Proofs.Output.RootBody
import Mathlib.Data.List.Basic

/-!
The generated modules taken apart into fragments.
-/

namespace DesignToCode

open DesignToCode.Naming DesignToCode.Text

inductive Role where
  | component
  | property
  | className
  | story
  | argument
  deriving DecidableEq, Repr

/-- Free text stands in quotes, in a comment or between tags. -/
inductive Fragment where
  | fixed (text : String)
  | free (text : String)
  | named (role : Role) (name : String)
  deriving DecidableEq, Repr

namespace Fragment

def text : Fragment → String
  | fixed written => written
  | free written => written
  | named _ name => name

def line : List Fragment → String
  | [] => ""
  | fragment :: rest => fragment.text ++ line rest

@[simp] theorem line_append (first second : List Fragment) :
    line (first ++ second) = line first ++ line second := by
  induction first with
  | nil => simp [line]
  | cons fragment rest ih => simp [line, ih, String.append_assoc]

def separated (separator : String) : List (List Fragment) → List Fragment
  | [] => []
  | [part] => part
  | part :: next :: rest => part ++ fixed separator :: separated separator (next :: rest)

@[simp] theorem line_separated (separator : String) (parts : List (List Fragment)) :
    line (separated separator parts) = join separator (parts.map line) := by
  induction parts with
  | nil => rfl
  | cons part rest ih =>
      cases rest with
      | nil => rfl
      | cons next later =>
          rw [separated, line_append, line, ih, text]
          simp only [List.map_cons, join, String.append_assoc]

end Fragment

namespace Markup

def contentFragment : Content → List Fragment
  | .literal text => [.free (escape text)]
  | .property identifier => [.fixed "\x7b", .named .property identifier, .fixed "\x7d"]

def classOpening (tag : Tag) : String :=
  "<" ++ tag.element ++ " className=\x7bstyles."

mutual

def fragments (level : Nat) : Markup → List (List Fragment)
  | .textual tag className content =>
    [[.fixed (indent level), .fixed (classOpening tag), .named .className className,
      .fixed "\x7d>"] ++ contentFragment content ++ [.fixed (closeTag tag)]]
  | .parent tag className children =>
    [.fixed (indent level), .fixed (classOpening tag), .named .className className,
      .fixed "\x7d>"] ::
      (forestFragments (level + 1) children ++
        [[.fixed (indent level), .fixed (closeTag tag)]])
  | .closed className =>
    [[.fixed (indent level), .fixed (classOpening .block), .named .className className,
      .fixed "\x7d />"]]

def forestFragments (level : Nat) : List Markup → List (List Fragment)
  | [] => []
  | markup :: rest => fragments level markup ++ forestFragments level rest

end

theorem line_contentFragment (content : Content) :
    Fragment.line (contentFragment content) = content.text := by
  cases content with
  | literal text => simp [contentFragment, Fragment.line, Fragment.text, Content.text]
  | property identifier =>
      simp [contentFragment, Fragment.line, Fragment.text, Content.text, braced,
        String.append_assoc]

theorem openTag_eq (tag : Tag) (className : String) :
    openTag tag className = classOpening tag ++ (className ++ "\x7d>") := by
  cases tag <;> simp [openTag, classOpening, braced, classRef, ← String.toList_inj]

theorem closedTag_eq (className : String) :
    closedTag className = classOpening .block ++ (className ++ "\x7d />") := by
  simp [closedTag, classOpening, braced, classRef, ← String.toList_inj]

mutual

theorem lines_eq_fragments : ∀ (level : Nat) (markup : Markup),
    lines level markup = (fragments level markup).map Fragment.line
  | level, .textual tag className content => by
      simp [lines, fragments, openTag_eq, Fragment.line, Fragment.text, line_contentFragment,
        String.append_assoc]
  | level, .parent tag className children => by
      simp [lines, fragments, openTag_eq, Fragment.line, Fragment.text,
        forestLines_eq_fragments (level + 1) children]
  | level, .closed className => by
      simp [lines, fragments, closedTag_eq, Fragment.line, Fragment.text]

theorem forestLines_eq_fragments : ∀ (level : Nat) (forest : List Markup),
    forestLines level forest = (forestFragments level forest).map Fragment.line
  | _, [] => rfl
  | level, markup :: rest => by
      rw [forestLines, forestFragments, List.map_append, lines_eq_fragments level markup,
        forestLines_eq_fragments level rest]

end

end Markup

namespace ComponentFile

def propertyName (property : Property) : Fragment :=
  .named .property property.identifier

def partFragments? (property : Property) : Option (List Fragment) :=
  match property.kind with
  | .variant => some [.fixed "styles[", propertyName property, .fixed "]"]
  | .toggle =>
    some [propertyName property, .fixed " ? styles.", .named .className property.identifier,
      .fixed " : ''"]
  | .text => none

def classFragments (component : Component) : List Fragment :=
  let base := [.fixed "styles.", .named .className baseClass]
  match component.properties.filterMap partFragments? with
  | [] => base
  | parts =>
    .fixed "[" :: (Fragment.separated ", " (base :: parts) ++
      [.fixed "].filter(Boolean).join(' ')"])

def interfaceFragments (name : String) (component : Component) : List (List Fragment) :=
  [[.fixed "export interface ", .named .component name, .fixed "Props \x7b"]] ++
  component.properties.flatMap (fun property =>
    [[.fixed "  /** ", .free property.name, .fixed " */"],
      [.fixed "  ", propertyName property, .fixed "?: ", .free (formOf property).type,
        .fixed ";"]]) ++
  [[.fixed "  /** Optional click handler */"], [.fixed "  onClick?: () => void;"],
    [.fixed "\x7d"]]

def parameterFragments (component : Component) : List (List Fragment) :=
  component.properties.map (fun property =>
    [.fixed "  ", propertyName property, .fixed " = ", .free property.defaultLiteral.text,
      .fixed ","]) ++
  [[.fixed "  onClick,"], [.fixed "  ...props"]]

def contentFragments (component : Component) : List (List Fragment) :=
  match component.rootContent? with
  | some content => [.fixed "      " :: Markup.contentFragment content]
  | none => []

def rootStart : String :=
  "    <div className=" ++ "\x7b"

def rootEnd : String :=
  "\x7d" ++ " " ++ clickHandler ++ "=" ++ Markup.braced clickHandler ++ " " ++
    Markup.braced "...props" ++ ">"

def fragments (name : String) (component : Component) (settings : Settings) :
    List (List Fragment) :=
  [[.fixed "import React from 'react';"],
    [.fixed "import styles from './", .free (name ++ "." ++ settings.stylesheetExtension),
      .fixed "';"],
    []] ++
  interfaceFragments name component ++
  [[], [.fixed "export const ", .named .component name, .fixed " = (\x7b"]] ++
  parameterFragments component ++
  [[.fixed "\x7d: ", .named .component name, .fixed "Props) => \x7b"], [.fixed "  return ("],
    .fixed rootStart :: (classFragments component ++ [.fixed rootEnd])] ++
  contentFragments component ++ Markup.forestFragments 3 component.forest ++
  [[.fixed "    </div>"], [.fixed "  );"], [.fixed "\x7d;"], []]

theorem map_line_partFragments? (property : Property) :
    (partFragments? property).map Fragment.line = classPart? property := by
  rw [partFragments?, classPart?]
  cases property.kind with
  | variant => simp [Fragment.line, Fragment.text, propertyName, String.append_assoc]
  | toggle =>
      simp [Fragment.line, Fragment.text, propertyName, Markup.classRef, ← String.toList_inj]
  | text => rfl

theorem line_classFragments (component : Component) :
    Fragment.line (classFragments component) = classExpression component := by
  have parts : component.properties.filterMap classPart? =
      (component.properties.filterMap partFragments?).map Fragment.line := by
    rw [List.map_filterMap]
    exact List.filterMap_congr fun property _ => (map_line_partFragments? property).symm
  rw [classFragments, classExpression, parts]
  cases component.properties.filterMap partFragments? with
  | nil => simp [Fragment.line, Fragment.text, Markup.classRef]
  | cons first rest =>
      simp [Fragment.line, Fragment.text, Markup.classRef, String.append_assoc]

theorem rootTag_eq (component : Component) :
    rootTag component = rootStart ++ (Fragment.line (classFragments component) ++ rootEnd) := by
  unfold rootTag rootStart rootEnd Markup.braced
  simp only [line_classFragments, String.append_assoc, -String.reduceAppend]

theorem lines_eq_fragments (name : String) (component : Component) (settings : Settings) :
    lines name component settings = (fragments name component settings).map Fragment.line := by
  have properties : interfaceLines name component =
      (interfaceFragments name component).map Fragment.line := by
    simp [interfaceLines, interfaceFragments, propertyName, Fragment.line, Fragment.text,
      List.map_flatMap, clickHandler, String.append_assoc]
  have parameters : parameterLines component =
      (parameterFragments component).map Fragment.line := by
    simp [parameterLines, parameterFragments, Component.parameters, propertyName, Fragment.line,
      Fragment.text, clickHandler, String.append_assoc]
  have content : bodyLines component =
      (contentFragments component ++ Markup.forestFragments 3 component.forest).map
        Fragment.line := by
    rw [bodyLines, contentFragments, List.map_append, Markup.forestLines_eq_fragments]
    cases component.rootContent? with
    | none => rfl
    | some content => simp [Fragment.line, Fragment.text, Markup.line_contentFragment]
  simp only [lines, fragments, properties, parameters, content, rootTag_eq]
  simp [Fragment.line, Fragment.text, String.append_assoc]

end ComponentFile

namespace Catalog

def argumentFragments (role : Role) (argument : String × Literal) : List Fragment :=
  [.fixed "    ", .named role argument.1, .fixed ": ", .free argument.2.text, .fixed ","]

def controlFragments (property : Property) : List (List Fragment) :=
  let name : Fragment := .named .property property.identifier
  match controlOf property with
  | .select choices =>
    [[.fixed "    ", name, .fixed ": \x7b"], [.fixed "      control: 'select',"],
      [.fixed "      options: [", .free (literalList ", " choices), .fixed "],"],
      [.fixed "    \x7d,"]]
  | .toggle => [[.fixed "    ", name, .fixed ": \x7b control: 'boolean' \x7d,"]]
  | .text => [[.fixed "    ", name, .fixed ": \x7b control: 'text' \x7d,"]]

def controlsFragments (component : Component) : List (List Fragment) :=
  if component.properties.isEmpty then []
  else [[.fixed "  argTypes: \x7b"]] ++ component.properties.flatMap controlFragments ++
    [[.fixed "  \x7d,"]]

def metaFragments (name : String) (component : Component) (url : String) (settings : Settings) :
    List (List Fragment) :=
  [[.fixed "const meta = \x7b"],
    [.fixed "  title: ", .free (Literal.quote (settings.catalogGroup ++ "/" ++ name)), .fixed ","],
    [.fixed "  component: ", .named .component name, .fixed ","],
    [.fixed "  parameters: \x7b"],
    [.fixed "    layout: ", .free (Literal.quote settings.catalogLayout), .fixed ","],
    [.fixed "    design: \x7b"],
    [.fixed "      type: 'figma',"],
    [.fixed "      url: ", .free (Literal.quote url), .fixed ","],
    [.fixed "    \x7d,"],
    [.fixed "  \x7d,"]] ++
  (if settings.autodocs then [[.fixed "  tags: ['autodocs'],"]] else []) ++
  controlsFragments component ++
  [[.fixed "  args: \x7b"], [.fixed "    onClick: fn(),"]] ++
  component.parameters.map (argumentFragments .property) ++
  [[.fixed "  \x7d,"], [.fixed "\x7d satisfies Meta<typeof ", .named .component name, .fixed ">;"]]

def storyFragments (story : Story) : List (List Fragment) :=
  match story.args with
  | none => [[.fixed "export const ", .named .story story.name, .fixed ": Story = \x7b\x7d;"], []]
  | some args =>
    [[.fixed "export const ", .named .story story.name, .fixed ": Story = \x7b"],
      [.fixed "  args: \x7b"]] ++
      args.map (argumentFragments .argument) ++ [[.fixed "  \x7d,"], [.fixed "\x7d;"], []]

def fragments (name : String) (component : Component) (url : String) (settings : Settings) :
    List (List Fragment) :=
  [[.fixed "import type \x7b Meta, StoryObj \x7d from '@storybook/react-vite';"],
    [.fixed "import \x7b fn \x7d from 'storybook/test';"],
    [.fixed "import \x7b ", .named .component name, .fixed " \x7d from './", .free name,
      .fixed "';"],
    []] ++
  metaFragments name component url settings ++
  [[], [.fixed "export default meta;"], [.fixed "type Story = StoryObj<typeof meta>;"], []] ++
  (stories component).flatMap storyFragments

theorem line_argumentFragments (role : Role) (argument : String × Literal) :
    Fragment.line (argumentFragments role argument) = argumentLine argument := by
  simp [argumentFragments, argumentLine, Fragment.line, Fragment.text, String.append_assoc]

theorem map_line_controlFragments (property : Property) :
    (controlFragments property).map Fragment.line = controlLines property := by
  rw [controlFragments, controlLines]
  cases controlOf property with
  | select choices => simp [Fragment.line, Fragment.text, String.append_assoc]
  | toggle => simp [Fragment.line, Fragment.text, String.append_assoc]
  | text => simp [Fragment.line, Fragment.text, String.append_assoc]

theorem map_line_controlsFragments (component : Component) :
    (controlsFragments component).map Fragment.line = argTypesLines component := by
  rw [controlsFragments, argTypesLines]
  cases component.properties.isEmpty with
  | true => rfl
  | false =>
      simp [Fragment.line, Fragment.text, List.map_flatMap, map_line_controlFragments]

theorem map_line_metaFragments (name : String) (component : Component) (url : String)
    (settings : Settings) :
    (metaFragments name component url settings).map Fragment.line =
      metaLines name component url settings := by
  have tags : (if settings.autodocs then [[Fragment.fixed "  tags: ['autodocs'],"]] else []).map
      Fragment.line = if settings.autodocs then ["  tags: ['autodocs'],"] else [] := by
    cases settings.autodocs <;> simp [Fragment.line, Fragment.text]
  have args : (component.parameters.map (argumentFragments .property)).map Fragment.line =
      component.parameters.map argumentLine := by
    simp only [List.map_map, Function.comp_def, line_argumentFragments]
  simp only [metaFragments, metaLines, List.map_append, tags, args, map_line_controlsFragments]
  simp [Fragment.line, Fragment.text, String.append_assoc]

theorem map_line_storyFragments (story : Story) :
    (storyFragments story).map Fragment.line = storyLines story := by
  rw [storyFragments, storyLines]
  cases story.args with
  | none => simp [Fragment.line, Fragment.text, String.append_assoc]
  | some args =>
      simp [Fragment.line, Fragment.text, line_argumentFragments, String.append_assoc]

theorem lines_eq_fragments (name : String) (component : Component) (url : String)
    (settings : Settings) :
    lines name component url settings =
      (fragments name component url settings).map Fragment.line := by
  simp only [lines, fragments, List.map_append, map_line_metaFragments, List.map_flatMap,
    map_line_storyFragments]
  simp [Fragment.line, Fragment.text, String.append_assoc]

end Catalog

end DesignToCode
