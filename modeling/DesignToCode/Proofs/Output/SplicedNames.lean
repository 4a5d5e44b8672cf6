import DesignToCode.Output.Artifacts
import DesignToCode.Proofs.Naming.Identifiers
import DesignToCode.Proofs.Output.Fragments

/-!
The names that generated modules are made of.
-/

namespace DesignToCode

open DesignToCode.Naming DesignToCode.Text

def Fragment.names : List Fragment → List (Role × String)
  | [] => []
  | .fixed _ :: rest => names rest
  | .free _ :: rest => names rest
  | .named role name :: rest => (role, name) :: names rest

attribute [simp] Fragment.names

@[simp] theorem Fragment.names_append (first second : List Fragment) :
    names (first ++ second) = names first ++ names second := by
  induction first with
  | nil => rfl
  | cons fragment rest ih => cases fragment <;> simp [ih]

def namesIn (lines : List (List Fragment)) : List (Role × String) :=
  lines.flatMap Fragment.names

@[simp] theorem namesIn_nil : namesIn [] = [] := rfl

@[simp] theorem namesIn_cons (line : List Fragment) (rest : List (List Fragment)) :
    namesIn (line :: rest) = Fragment.names line ++ namesIn rest := rfl

@[simp] theorem namesIn_append (first second : List (List Fragment)) :
    namesIn (first ++ second) = namesIn first ++ namesIn second :=
  List.flatMap_append

@[simp] theorem namesIn_flatMap {α : Type} (items : List α)
    (written : α → List (List Fragment)) :
    namesIn (items.flatMap written) = items.flatMap fun item => namesIn (written item) :=
  List.flatMap_assoc

@[simp] theorem namesIn_map {α : Type} (items : List α) (written : α → List Fragment) :
    namesIn (items.map written) =
      items.flatMap fun item => Fragment.names (written item) :=
  List.flatMap_map _ _ _

@[simp] theorem Fragment.names_separated (separator : String) (parts : List (List Fragment)) :
    names (separated separator parts) = namesIn parts := by
  induction parts with
  | nil => rfl
  | cons part rest ih =>
      cases rest with
      | nil => simp [separated]
      | cons next later => simp [separated, ih]

namespace Markup

mutual

theorem className_mem_namesIn_fragments : ∀ (level : Nat) (markup : Markup),
    ∀ className ∈ markup.classNames, (.className, className) ∈ namesIn (fragments level markup)
  | level, .textual tag className content => by simp [classNames, fragments]
  | level, .parent tag className children => by
      intro other found
      rw [classNames, List.mem_cons] at found
      rcases found with same | inner
      · simp [fragments, same]
      · have below := className_mem_namesIn_forestFragments (level + 1) children other inner
        simp [fragments, below]
  | level, .closed className => by simp [classNames, fragments]

theorem className_mem_namesIn_forestFragments : ∀ (level : Nat) (forest : List Markup),
    ∀ className ∈ forestClassNames forest,
      (.className, className) ∈ namesIn (forestFragments level forest)
  | _, [] => by simp [forestClassNames]
  | level, markup :: rest => by
      intro className found
      rw [forestClassNames, List.mem_append] at found
      rw [forestFragments, namesIn_append, List.mem_append]
      rcases found with here | later
      · exact Or.inl (className_mem_namesIn_fragments level markup className here)
      · exact Or.inr (className_mem_namesIn_forestFragments level rest className later)

end

def IsBodyName (standIn : Option String) (classNames : List String) (role : Role)
    (name : String) : Prop :=
  (role = .className ∧ name ∈ classNames) ∨ (role = .property ∧ standIn = some name)

theorem IsBodyName.mono {standIn : Option String} {some all : List String} {role : Role}
    {name : String} (inner : IsBodyName standIn some role name) (subset : some ⊆ all) :
    IsBodyName standIn all role name := by
  rcases inner with ⟨isClass, found⟩ | isProperty
  · exact Or.inl ⟨isClass, subset found⟩
  · exact Or.inr isProperty

theorem isBodyName_of_mem_content {standIn : Option String} {text : String} {role : Role}
    {name : String}
    (found : (role, name) ∈ Fragment.names (contentFragment (contentOf standIn text))) :
    IsBodyName standIn [] role name := by
  cases standIn with
  | none => simp [contentOf, contentFragment] at found
  | some identifier =>
      simp only [contentOf, contentFragment, Fragment.names, List.mem_singleton,
        Prod.mk.injEq] at found
      exact Or.inr ⟨found.1, by rw [found.2]⟩

mutual

theorem isBodyName_ofElement (standIn : Option String) : ∀ (level : Nat) (element : Element)
    (role : Role) (name : String),
    (role, name) ∈ namesIn (fragments level (ofElement standIn element)) →
      IsBodyName standIn (ofElement standIn element).classNames role name
  | level, ⟨tag, className, styles, text, children, source⟩ => by
      intro role name
      rw [ofElement]
      split
      · simp only [fragments, namesIn_cons, namesIn_nil, Fragment.names, Fragment.names_append,
          List.cons_append, List.nil_append, List.append_nil, List.mem_cons, Prod.mk.injEq, classNames]
        rintro (⟨rfl, rfl⟩ | shown)
        · exact Or.inl ⟨rfl, List.mem_cons_self⟩
        · exact (isBodyName_of_mem_content shown).mono (List.nil_subset _)
      · split
        · simp only [fragments, namesIn_cons, namesIn_nil, Fragment.names, List.append_nil,
            List.mem_singleton, Prod.mk.injEq, classNames]
          rintro ⟨rfl, rfl⟩
          exact Or.inl ⟨rfl, List.mem_singleton_self _⟩
        · simp only [fragments, namesIn_cons, namesIn_nil, namesIn_append, Fragment.names,
            List.append_nil, List.singleton_append, List.mem_cons, Prod.mk.injEq, classNames]
          rintro (⟨rfl, rfl⟩ | below)
          · exact Or.inl ⟨rfl, List.mem_cons_self⟩
          · exact (isBodyName_ofElements standIn (level + 1) children role name below).mono
              (List.subset_cons_self _ _)

theorem isBodyName_ofElements (standIn : Option String) : ∀ (level : Nat)
    (elements : List Element) (role : Role) (name : String),
    (role, name) ∈ namesIn (forestFragments level (ofElements standIn elements)) →
      IsBodyName standIn (forestClassNames (ofElements standIn elements)) role name
  | level, [] => by simp [ofElements, forestFragments]
  | level, element :: rest => by
      intro role name found
      rw [ofElements, forestFragments, namesIn_append, List.mem_append] at found
      rw [ofElements, forestClassNames]
      rcases found with here | later
      · exact (isBodyName_ofElement standIn level element role name here).mono
          (List.subset_append_left _ _)
      · exact (isBodyName_ofElements standIn level rest role name later).mono
          (List.subset_append_right _ _)

end

end Markup

/-- What is written in the modules of a component as it is, without quotes or escapes. -/
inductive Splices (name : String) (component : Component) : Role → String → Prop
  | component : Splices name component .component name
  | property {property : Property} (declared : property ∈ component.properties) :
      Splices name component .property property.identifier
  | base : Splices name component .className baseClass
  | toggle {property : Property} (declared : property ∈ component.properties)
      (isToggle : property.kind = .toggle) :
      Splices name component .className property.identifier
  | element {className : String} (isClass : className ∈ Markup.forestClassNames component.forest) :
      Splices name component .className className
  | story {story : Story} (isStory : story ∈ Catalog.stories component) :
      Splices name component .story story.name
  | argument {story : Story} {args : List (String × Literal)} {argument : String × Literal}
      (isStory : story ∈ Catalog.stories component) (hasArgs : story.args = some args)
      (isArgument : argument ∈ args) : Splices name component .argument argument.1

namespace ComponentFile

def propertyNames (component : Component) : List (Role × String) :=
  component.properties.map fun property => (.property, property.identifier)

theorem namesIn_interfaceFragments (name : String) (component : Component) :
    namesIn (interfaceFragments name component) =
      (.component, name) :: propertyNames component := by
  simp [interfaceFragments, propertyName, propertyNames, List.map_eq_flatMap]

theorem namesIn_parameterFragments (component : Component) :
    namesIn (parameterFragments component) = propertyNames component := by
  simp [parameterFragments, propertyName, propertyNames, List.map_eq_flatMap]

def partNames (property : Property) : List (Role × String) :=
  match property.kind with
  | .variant => [(.property, property.identifier)]
  | .toggle => [(.property, property.identifier), (.className, property.identifier)]
  | .text => []

theorem namesIn_parts (properties : List Property) :
    namesIn (properties.filterMap partFragments?) = properties.flatMap partNames := by
  induction properties with
  | nil => rfl
  | cons property rest ih =>
      cases kind : property.kind <;>
        simp [partFragments?, partNames, propertyName, kind, ih]

theorem names_classFragments (component : Component) :
    Fragment.names (classFragments component) =
      (.className, baseClass) :: component.properties.flatMap partNames := by
  rw [classFragments, ← namesIn_parts]
  cases component.properties.filterMap partFragments? with
  | nil => rfl
  | cons first rest => simp

theorem splices_of_mem_propertyNames {name : String} {component : Component} {role : Role}
    {written : String} (found : (role, written) ∈ propertyNames component) :
    Splices name component role written := by
  obtain ⟨property, declared, same⟩ := List.mem_map.mp found
  cases same
  exact .property declared

theorem splices_of_mem_partNames {name : String} {component : Component} {property : Property}
    {role : Role} {written : String} (declared : property ∈ component.properties)
    (found : (role, written) ∈ partNames property) : Splices name component role written := by
  rw [partNames] at found
  cases kind : property.kind with
  | variant =>
      simp only [kind, List.mem_singleton, Prod.mk.injEq] at found
      rw [found.1, found.2]
      exact .property declared
  | toggle =>
      simp only [kind, List.mem_cons, List.not_mem_nil, or_false, Prod.mk.injEq] at found
      rcases found with ⟨rfl, rfl⟩ | ⟨rfl, rfl⟩
      · exact .property declared
      · exact .toggle declared kind
  | text => simp [kind] at found

theorem splices_of_isBodyName {name : String} {component : Component} {role : Role}
    {written : String}
    (inBody : Markup.IsBodyName component.standIn (Markup.forestClassNames component.forest)
      role written) : Splices name component role written := by
  rcases inBody with ⟨rfl, isClass⟩ | ⟨rfl, isProperty⟩
  · exact .element isClass
  · obtain ⟨property, found, rfl⟩ := Option.map_eq_some_iff.mp isProperty
    exact .property (List.mem_of_find?_eq_some found)

theorem isBodyName_of_mem_contentFragments {component : Component} {role : Role}
    {written : String} (found : (role, written) ∈ namesIn (contentFragments component)) :
    Markup.IsBodyName component.standIn [] role written := by
  rw [contentFragments, Component.rootContent?] at found
  split at found
  · rename_i content isContent
    split at isContent
    · cases isContent
      simp only [namesIn_cons, namesIn_nil, Fragment.names, List.append_nil] at found
      exact Markup.isBodyName_of_mem_content found
    · cases isContent
  · simp at found

theorem splices_of_mem {name : String} {component : Component} {settings : Settings}
    {role : Role} {written : String}
    (found : (role, written) ∈ namesIn (fragments name component settings)) :
    Splices name component role written := by
  simp only [fragments, namesIn_append, namesIn_cons, namesIn_nil, Fragment.names,
    Fragment.names_append, namesIn_interfaceFragments, namesIn_parameterFragments,
    names_classFragments, List.append_nil, List.nil_append, List.cons_append, List.append_assoc,
    List.mem_append, List.mem_cons, List.mem_flatMap, Prod.mk.injEq] at found
  rcases found with ⟨rfl, rfl⟩ | inInterface | ⟨rfl, rfl⟩ | inPattern | ⟨rfl, rfl⟩ | ⟨rfl, rfl⟩ |
    ⟨property, declared, inPart⟩ | inContent | inForest
  · exact .component
  · exact splices_of_mem_propertyNames inInterface
  · exact .component
  · exact splices_of_mem_propertyNames inPattern
  · exact .component
  · exact .base
  · exact splices_of_mem_partNames declared inPart
  · exact splices_of_isBodyName
      ((isBodyName_of_mem_contentFragments inContent).mono (List.nil_subset _))
  · exact splices_of_isBodyName (Markup.isBodyName_ofElements _ _ _ _ _ inForest)

end ComponentFile

namespace Catalog

theorem namesIn_controlFragments (property : Property) :
    namesIn (controlFragments property) = [(.property, property.identifier)] := by
  rw [controlFragments]
  cases controlOf property <;> simp

theorem namesIn_controlsFragments (component : Component) :
    namesIn (controlsFragments component) = ComponentFile.propertyNames component := by
  rw [controlsFragments, ComponentFile.propertyNames]
  cases component.properties with
  | nil => rfl
  | cons first rest =>
      simp [namesIn_controlFragments, List.map_eq_flatMap]

theorem namesIn_metaFragments (name : String) (component : Component) (url : String)
    (settings : Settings) :
    namesIn (metaFragments name component url settings) =
      (.component, name) :: (ComponentFile.propertyNames component ++
        (ComponentFile.propertyNames component ++ [(.component, name)])) := by
  have tags : namesIn (if settings.autodocs then [[.fixed "  tags: ['autodocs'],"]] else []) =
      [] := by
    cases settings.autodocs <;> rfl
  have args : component.parameters.flatMap
      (fun parameter => Fragment.names (argumentFragments .property parameter)) =
        ComponentFile.propertyNames component := by
    rw [Component.parameters, List.flatMap_map]
    simp [argumentFragments, ComponentFile.propertyNames, List.map_eq_flatMap]
  simp [metaFragments, tags, args, namesIn_controlsFragments]

def argumentNames (story : Story) : List (Role × String) :=
  (story.args.getD []).map fun argument => (.argument, argument.1)

theorem namesIn_storyFragments (story : Story) :
    namesIn (storyFragments story) = (.story, story.name) :: argumentNames story := by
  rw [storyFragments, argumentNames]
  cases story.args with
  | none => rfl
  | some args => simp [argumentFragments, List.map_eq_flatMap]

theorem splices_of_mem {name : String} {component : Component} {url : String}
    {settings : Settings} {role : Role} {written : String}
    (found : (role, written) ∈ namesIn (fragments name component url settings)) :
    Splices name component role written := by
  simp only [fragments, namesIn_append, namesIn_cons, namesIn_flatMap, Fragment.names,
    namesIn_metaFragments, namesIn_storyFragments, List.nil_append, List.cons_append,
    List.append_assoc, List.mem_append, List.mem_cons, List.mem_flatMap, Prod.mk.injEq] at found
  rcases found with ⟨rfl, rfl⟩ | ⟨rfl, rfl⟩ | inTypes | inArgs | ⟨rfl, rfl⟩ |
    ⟨story, isStory, ⟨rfl, rfl⟩ | isArgument⟩
  · exact .component
  · exact .component
  · exact ComponentFile.splices_of_mem_propertyNames inTypes
  · exact ComponentFile.splices_of_mem_propertyNames inArgs
  · exact .component
  · exact .story isStory
  · obtain ⟨argument, inArgs, same⟩ := List.mem_map.mp isArgument
    cases same
    cases hasArgs : story.args with
    | none => simp [hasArgs] at inArgs
    | some args =>
        rw [hasArgs] at inArgs
        exact .argument isStory hasArgs inArgs

end Catalog

theorem mem_namesIn_iff_splices {name : String} {component : Component} {url : String}
    {settings : Settings} {role : Role} {written : String} :
    (role, written) ∈ namesIn (ComponentFile.fragments name component settings) ++
        namesIn (Catalog.fragments name component url settings) ↔
      Splices name component role written := by
  rw [List.mem_append]
  constructor
  · rintro (inComponent | inCatalog)
    · exact ComponentFile.splices_of_mem inComponent
    · exact Catalog.splices_of_mem inCatalog
  · intro splices
    cases splices with
    | component => left; simp [ComponentFile.fragments]
    | @property property declared =>
        left
        have named : (Role.property, property.identifier) ∈
            ComponentFile.propertyNames component := List.mem_map_of_mem declared
        simp [ComponentFile.fragments, ComponentFile.namesIn_parameterFragments, named]
    | base => left; simp [ComponentFile.fragments, ComponentFile.names_classFragments]
    | @toggle property declared isToggle =>
        left
        have named : (Role.className, property.identifier) ∈
            component.properties.flatMap ComponentFile.partNames :=
          List.mem_flatMap.mpr ⟨property, declared, by simp [ComponentFile.partNames, isToggle]⟩
        rw [List.mem_flatMap] at named
        simp [ComponentFile.fragments, ComponentFile.names_classFragments, named]
    | element isClass =>
        left
        have named := Markup.className_mem_namesIn_forestFragments 3 component.forest _ isClass
        simp [ComponentFile.fragments, named]
    | @story story isStory =>
        right
        have named : ∃ other ∈ Catalog.stories component, (Role.story, story.name) ∈
            namesIn (Catalog.storyFragments other) :=
          ⟨story, isStory, by simp [Catalog.namesIn_storyFragments]⟩
        simp [Catalog.fragments, named]
    | @argument story args argument isStory hasArgs isArgument =>
        right
        have named : ∃ other ∈ Catalog.stories component, (Role.argument, argument.1) ∈
            namesIn (Catalog.storyFragments other) := by
          refine ⟨story, isStory, ?_⟩
          rw [Catalog.namesIn_storyFragments, Catalog.argumentNames, hasArgs]
          exact List.mem_cons_of_mem _ (List.mem_map_of_mem isArgument)
        simp [Catalog.fragments, named]

end DesignToCode
